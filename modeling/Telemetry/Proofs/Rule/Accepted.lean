import Mathlib.Data.List.Nodup
import Telemetry.Proofs.Namespace.Text
import Telemetry.Proofs.Rule.Paths

/-!
# Trees and the rules they hold

`Holds` ties a tree to the texts of the rules that were added to it. It is what definitions and
filters keep in common: every accepted rule has its path in the tree, and every path of the tree
comes from an accepted rule.
-/

namespace Telemetry.Branches

/-- The tree holds the rules: its paths are those that the texts denote, and all texts can be read. -/
structure Holds (b : Branches) (separator : Char) (filter : Bool) (rules : List String) : Prop where
  tidy : b.Tidy
  mem_paths : ∀ path, path ∈ b.paths ↔
    ∃ text ∈ rules, Namespace.parse separator filter text = .ok ⟨separator, path⟩
  readable : ∀ text ∈ rules, ∃ path, Namespace.parse separator filter text = .ok ⟨separator, path⟩

variable {b : Branches} {separator : Char} {filter : Bool} {rules : List String} {text : String}
  {path : List Element}

theorem holds_empty (separator : Char) (filter : Bool) : empty.Holds separator filter [] where
  tidy := .empty
  mem_paths := by simp
  readable := by simp

namespace Holds

variable (h : b.Holds separator filter rules)

include h

theorem add (hread : Namespace.parse separator filter text = .ok ⟨separator, path⟩) :
    (b.add path).Holds separator filter (rules ++ [text]) where
  tidy := h.tidy.add path
  mem_paths other := by
    rw [h.tidy.mem_paths_add (Namespace.elements_ne_nil_of_parse hread), h.mem_paths]
    constructor
    · rintro (rfl | ⟨rule, hrule, hother⟩)
      · exact ⟨text, by simp, hread⟩
      · exact ⟨rule, by simp [hrule], hother⟩
    · rintro ⟨rule, hrule, hother⟩
      rcases List.mem_append.mp hrule with hrule | hrule
      · exact .inr ⟨rule, hrule, hother⟩
      · rw [List.mem_singleton.mp hrule, hread] at hother
        injection hother with hother
        injection hother with _ hother
        exact .inl hother.symm
  readable rule hrule := by
    rcases List.mem_append.mp hrule with hrule | hrule
    · exact h.readable rule hrule
    · exact ⟨path, by rw [List.mem_singleton.mp hrule, hread]⟩

theorem isEmpty_iff : b.isEmpty = true ↔ rules = [] := by
  rw [h.tidy.isEmpty_iff]
  constructor
  · intro hnone
    refine List.eq_nil_iff_forall_not_mem.mpr fun text htext => ?_
    obtain ⟨path, hpath⟩ := h.readable text htext
    exact hnone path ((h.mem_paths path).mpr ⟨text, htext, hpath⟩)
  · rintro rfl path hpath
    obtain ⟨text, htext, -⟩ := (h.mem_paths path).mp hpath
    exact List.not_mem_nil htext

theorem trailingLast : ∀ path ∈ b.paths, TrailingLast path := by
  intro path hpath
  obtain ⟨text, -, hread⟩ := (h.mem_paths path).mp hpath
  exact Namespace.trailingLast_of_parse hread

/-! ## Listing -/

theorem mem_rules_iff : text ∈ b.rules separator ↔ text ∈ rules := by
  rw [(perm_rules separator b).mem_iff, List.mem_map]
  constructor
  · rintro ⟨path, hpath, rfl⟩
    obtain ⟨text, htext, hread⟩ := (h.mem_paths path).mp hpath
    rwa [Namespace.text_of_parse hread]
  · intro htext
    obtain ⟨path, hread⟩ := h.readable text htext
    exact ⟨path, (h.mem_paths path).mpr ⟨text, htext, hread⟩, Namespace.text_of_parse hread⟩

theorem pairwise_lt_rules : (b.rules separator).Pairwise (· < ·) := by
  have hnodup : (b.rules separator).Nodup := by
    rw [(perm_rules separator b).nodup_iff]
    refine List.Nodup.map_on (fun path hpath path' hpath' htext => ?_) h.tidy.nodup_paths
    obtain ⟨text, -, hread⟩ := (h.mem_paths path).mp hpath
    obtain ⟨text', -, hread'⟩ := (h.mem_paths path').mp hpath'
    -- equal texts are read as equal paths
    rw [Namespace.text_of_parse hread, Namespace.text_of_parse hread'] at htext
    rw [htext, hread'] at hread
    exact (congrArg Namespace.elements (Except.ok.inj hread)).symm
  exact (pairwise_le_rules separator b).imp₂ (fun _ _ => Std.lt_of_le_of_ne) hnodup

end Holds

end Telemetry.Branches
