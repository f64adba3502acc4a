import Telemetry.Proofs.Rule.Paths
import Telemetry.Rule.Definitions

/-!
# Conflicts between rules

Two rules conflict if they are equal, if they part at a group, or, unless metrics may end on any
level, if one of them goes on where the other ends. The walk that looks for a conflict sees one way
through the tree only; `conflict?_eq_none_iff` says that it finds one exactly if the rule conflicts
with some rule of the tree.

The walk may stop early because of `Unambiguous`: the rules in a tree never part at a group, so all
children of a node stand for the others when the next element is compared with them.

* `PartAtGroup`, `Conflicts`: the relation between two rules.
* `Branches.Unambiguous`: a tree of names and groups in which no rules part at a group.
-/

namespace Telemetry

variable {e e' : Element} {rule other rest rest' path : List Element} {anyLevel : Bool}

/-! ## Two rules -/

/-- The rules agree up to a position where they differ and one of them has a group. -/
def PartAtGroup (rule other : List Element) : Prop :=
  ∃ i : Nat, rule.take i = other.take i ∧ ∃ e ∈ rule[i]?, ∃ e' ∈ other[i]?,
    e ≠ e' ∧ (e.isDynamic = true ∨ e'.isDynamic = true)

/-- The rules exclude each other. -/
def Conflicts (anyLevel : Bool) (rule other : List Element) : Prop :=
  rule = other ∨ PartAtGroup rule other ∨
    (anyLevel = false ∧ rule ≠ other ∧ (rule <+: other ∨ other <+: rule))

theorem PartAtGroup.symm (h : PartAtGroup rule other) : PartAtGroup other rule := by
  obtain ⟨i, htake, e, he, e', he', hne, hdynamic⟩ := h
  exact ⟨i, htake.symm, e', he', e, he, hne.symm, hdynamic.symm⟩

theorem Conflicts.symm (h : Conflicts anyLevel rule other) : Conflicts anyLevel other rule := by
  rcases h with rfl | h | ⟨hlevel, hne, h⟩
  · exact .inl rfl
  · exact .inr (.inl h.symm)
  · exact .inr (.inr ⟨hlevel, hne.symm, h.symm⟩)

theorem not_partAtGroup_nil : ¬ PartAtGroup [] other := by
  rintro ⟨i, -, e, he, -⟩
  simp at he

theorem partAtGroup_cons_self : PartAtGroup (e :: rest) (e :: rest') ↔ PartAtGroup rest rest' := by
  constructor
  · rintro ⟨i, htake, c, hc, c', hc', hne, hdynamic⟩
    cases i with
    | zero => simp_all
    | succ i =>
      simp only [List.take_succ_cons, List.cons.injEq, true_and, List.getElem?_cons_succ]
        at htake hc hc'
      exact ⟨i, htake, c, hc, c', hc', hne, hdynamic⟩
  · rintro ⟨i, htake, c, hc, c', hc', hne, hdynamic⟩
    exact ⟨i + 1, by simp [htake], c, by simpa using hc, c', by simpa using hc', hne, hdynamic⟩

theorem partAtGroup_cons_of_ne (hne : e ≠ e') :
    PartAtGroup (e :: rest) (e' :: rest') ↔ e.isDynamic = true ∨ e'.isDynamic = true := by
  constructor
  · rintro ⟨i, htake, c, hc, c', hc', -, hdynamic⟩
    cases i with
    | zero =>
      simp only [List.getElem?_cons_zero, Option.mem_some_iff] at hc hc'
      rwa [hc, hc']
    | succ i => simp [hne] at htake
  · intro hdynamic
    exact ⟨0, rfl, e, by simp, e', by simp, hne, hdynamic⟩

theorem conflicts_nil : Conflicts anyLevel [] other ↔ other = [] ∨ anyLevel = false := by
  cases other with
  | nil => simp [Conflicts]
  | cons e other => simp [Conflicts, not_partAtGroup_nil]

theorem conflicts_cons_self :
    Conflicts anyLevel (e :: rest) (e :: rest') ↔ Conflicts anyLevel rest rest' := by
  simp [Conflicts, partAtGroup_cons_self]

theorem conflicts_cons_of_ne (hne : e ≠ e') :
    Conflicts anyLevel (e :: rest) (e' :: rest') ↔ e.isDynamic = true ∨ e'.isDynamic = true := by
  simp [Conflicts, partAtGroup_cons_of_ne hne, hne, Ne.symm hne, List.cons_prefix_cons]

/-! ## Unambiguous trees -/

namespace Branches

/-- A tidy tree of names and groups in which no two rules part at a group. -/
structure Unambiguous (b : Branches) : Prop where
  tidy : b.Tidy
  elements : ∀ rule ∈ b.paths, ∀ e ∈ rule, Definitions.isDefinitionElement e = true
  not_part : ∀ rule ∈ b.paths, ∀ other ∈ b.paths, ¬ PartAtGroup rule other

variable {b : Branches} {n m : Branch}

theorem unambiguous_empty : empty.Unambiguous := ⟨.empty, by simp, by simp⟩

namespace Unambiguous

variable (h : b.Unambiguous)

include h

theorem children (hn : n ∈ b.nodes) : n.children.Unambiguous where
  tidy := h.tidy.children hn
  elements _ hrule e he :=
    h.elements _ (cons_mem_paths.mpr ⟨n, hn, rfl, .inr hrule⟩) e (List.mem_cons_of_mem _ he)
  not_part _ hrule _ hother hpart :=
    h.not_part _ (cons_mem_paths.mpr ⟨n, hn, rfl, .inr hrule⟩)
      _ (cons_mem_paths.mpr ⟨n, hn, rfl, .inr hother⟩) (partAtGroup_cons_self.mpr hpart)

theorem element (hn : n ∈ b.nodes) : Definitions.isDefinitionElement n.element = true := by
  obtain ⟨rest, hrest⟩ := h.tidy.exists_continues hn
  exact h.elements _ (cons_mem_paths.mpr ⟨n, hn, rfl, hrest⟩) _ List.mem_cons_self

/-- A group has no siblings. -/
theorem element_eq_of_isDynamic (hn : n ∈ b.nodes) (hm : m ∈ b.nodes)
    (hdynamic : n.element.isDynamic = true) : m.element = n.element := by
  by_contra hne
  obtain ⟨rest, hrest⟩ := h.tidy.exists_continues hn
  obtain ⟨rest', hrest'⟩ := h.tidy.exists_continues hm
  exact h.not_part _ (cons_mem_paths.mpr ⟨m, hm, rfl, hrest'⟩)
    _ (cons_mem_paths.mpr ⟨n, hn, rfl, hrest⟩)
    ((partAtGroup_cons_of_ne hne).mpr (.inr hdynamic))

theorem names_or_group :
    (∀ n ∈ b.nodes, n.element.isName = true) ∨
      ∃ g, (∃ n, n ∈ b.nodes) ∧ ∀ n ∈ b.nodes, n.element = .group g := by
  by_cases hdynamic : ∃ n ∈ b.nodes, n.element.isDynamic = true
  · obtain ⟨n, hn, hdynamic⟩ := hdynamic
    have helement := h.element hn
    obtain ⟨g, hg⟩ : ∃ g, n.element = .group g := by
      cases he : n.element <;>
        simp_all [Definitions.isDefinitionElement, Element.isDynamic]
    exact .inr ⟨g, ⟨n, hn⟩, fun m hm => by rw [h.element_eq_of_isDynamic hn hm hdynamic, hg]⟩
  · refine .inl fun n hn => ?_
    have helement := h.element hn
    have hstatic : n.element.isDynamic ≠ true := fun hd => hdynamic ⟨n, hn, hd⟩
    cases he : n.element <;>
      simp_all [Definitions.isDefinitionElement, Element.isDynamic, Element.isName]

theorem add (hne : path ≠ [])
    (hpath : ∀ e ∈ path, Definitions.isDefinitionElement e = true)
    (hapart : ∀ rule ∈ b.paths, ¬ PartAtGroup path rule) : (b.add path).Unambiguous where
  tidy := h.tidy.add path
  elements rule hrule := by
    rcases (h.tidy.mem_paths_add hne).mp hrule with hrule | hrule
    · rwa [hrule]
    · exact h.elements rule hrule
  not_part rule hrule other hother := by
    rcases (h.tidy.mem_paths_add hne).mp hrule with hrule | hrule <;>
      rcases (h.tidy.mem_paths_add hne).mp hother with hother | hother
    · rw [hrule, hother]
      rintro ⟨i, -, e, he, e', he', hdiffer, -⟩
      exact hdiffer (Option.some.inj (he.symm.trans he'))
    · rw [hrule]
      exact hapart other hother
    · rw [hother]
      exact fun hpart => hapart rule hrule hpart.symm
    · exact h.not_part rule hrule other hother

end Unambiguous

end Branches

/-! ## Looking for a conflict -/

namespace Definitions

open Branches

variable {b : Branches} {n : Branch}

theorem patterns_eq_nil (hnames : ∀ n ∈ b.nodes, n.element.isName = true) (h : b.Tidy) :
    b.patterns = [] := by
  refine List.eq_nil_iff_forall_not_mem.mpr fun n hn => ?_
  obtain ⟨hn, hname⟩ := h.mem_patterns_iff.mp hn
  rw [hnames n hn] at hname
  cases hname

theorem literals_eq_nil {g : String} (hgroup : ∀ n ∈ b.nodes, n.element = .group g) (h : b.Tidy) :
    b.literals = [] := by
  refine List.eq_nil_iff_forall_not_mem.mpr fun ⟨key, n⟩ hentry => ?_
  have helement := hgroup n (mem_nodes_iff.mpr (.inl ⟨key, hentry⟩))
  rw [h.ordered.named _ hentry] at helement
  cases helement

/-- Beside names, every name fits in, and a group only where there are none. -/
theorem clash?_beside_names (h : b.Tidy) (he : isDefinitionElement e = true)
    (hnames : ∀ n ∈ b.nodes, n.element.isName = true) :
    clash? b e = none ↔
      ∀ n ∈ b.nodes, e ≠ n.element → ¬ (e.isDynamic = true ∨ n.element.isDynamic = true) := by
  have hpatterns := patterns_eq_nil hnames h
  cases e with
  | name text =>
    have hstatic : ∀ n ∈ b.nodes, n.element.isDynamic = false := fun n hn => by
      have hname := hnames n hn
      cases hn : n.element <;> simp_all [Element.isName, Element.isDynamic]
    have hnone : clash? b (.name text) = none := by
      cases hliterals : b.literals <;> simp [clash?, kind, hliterals, hpatterns]
    simp_all [Element.isDynamic]
  | group g =>
    have hdiffer : ∀ n ∈ b.nodes, Element.group g ≠ n.element := fun n hn heq => by
      have hname := hnames n hn
      rw [← heq] at hname
      cases hname
    have hclash : clash? b (.group g) = none ↔ b.nodes = [] := by
      cases hliterals : b.literals <;> simp [clash?, kind, nodes, hliterals, hpatterns]
    rw [hclash, List.eq_nil_iff_forall_not_mem]
    constructor
    · intro hnone n hn
      exact absurd hn (hnone n)
    · intro hnone n hn
      exact absurd (.inl rfl) (hnone n hn (hdiffer n hn))
  | _ => cases he

/-- Beside a group, only the same group fits in. -/
theorem clash?_beside_group (h : b.Tidy) (he : isDefinitionElement e = true) (hn : n ∈ b.nodes)
    {g : String} (hgroup : ∀ n ∈ b.nodes, n.element = .group g) :
    clash? b e = none ↔
      ∀ n ∈ b.nodes, e ≠ n.element → ¬ (e.isDynamic = true ∨ n.element.isDynamic = true) := by
  have hpatterns : ∀ m, m ∈ b.patterns ↔ m ∈ b.nodes := fun m => by
    simp [nodes, literals_eq_nil hgroup h]
  have hkind : b.kind = .dynamic := by
    have hne : b.patterns.isEmpty = false := by
      simpa using List.ne_nil_of_mem ((hpatterns n).mpr hn)
    simp [kind, literals_eq_nil hgroup h, hne]
  cases e with
  | name text =>
    have hclash : clash? b (.name text) ≠ none := by simp [clash?, hkind]
    refine iff_of_false hclash fun hnone => hnone n hn ?_ (.inr ?_)
    · simp [hgroup n hn]
    · simp [hgroup n hn, Element.isDynamic]
  | group g' =>
    have hclash : clash? b (.group g') = none ↔
        ∀ m ∈ b.nodes, m.element.groupName? = some g' := by
      simp [clash?, hkind, hpatterns]
    rw [hclash]
    constructor
    · intro hnone m hm hne
      have hg := hnone n hn
      rw [hgroup n hn] at hg
      rw [hgroup m hm] at hne
      exact absurd (congrArg Element.group (Option.some.inj hg).symm) hne
    · intro hnone m hm
      by_contra hne
      refine hnone m hm (fun heq => hne ?_) (.inl rfl)
      rw [← heq, Element.groupName?]
  | _ => cases he

theorem clash?_eq_none_iff (h : b.Unambiguous) (he : isDefinitionElement e = true) :
    clash? b e = none ↔
      ∀ n ∈ b.nodes, e ≠ n.element → ¬ (e.isDynamic = true ∨ n.element.isDynamic = true) := by
  rcases h.names_or_group with hnames | ⟨g, ⟨n, hn⟩, hgroup⟩
  · exact clash?_beside_names h.tidy he hnames
  · exact clash?_beside_group h.tidy he hn hgroup

/-- While nothing clashes, the rules to compare with are those that pass through the same child. -/
theorem conflicts_below_iff (h : b.Unambiguous) (hn : n ∈ b.nodes)
    (hclash : ∀ m ∈ b.nodes, n.element ≠ m.element →
      ¬ (n.element.isDynamic = true ∨ m.element.isDynamic = true)) :
    (∀ rule ∈ b.paths, ¬ Conflicts anyLevel (n.element :: rest) rule) ↔
      ∀ rest', n.Continues rest' → ¬ Conflicts anyLevel rest rest' := by
  constructor
  · intro hnone rest' hrest' hconflict
    exact hnone _ (cons_mem_paths.mpr ⟨n, hn, rfl, hrest'⟩) (conflicts_cons_self.mpr hconflict)
  · intro hnone rule hrule hconflict
    obtain ⟨m, hm, rest', rfl, hrest'⟩ := mem_paths_iff.mp hrule
    by_cases heq : n.element = m.element
    · obtain rfl := h.tidy.eq_of_element_eq hn hm heq
      exact hnone rest' hrest' (conflicts_cons_self.mp hconflict)
    · exact hclash m hm heq ((conflicts_cons_of_ne heq).mp hconflict)

theorem exists_conflicts_of_clash? (h : b.Unambiguous) (he : isDefinitionElement e = true)
    (hclash : clash? b e ≠ none) : ∃ rule ∈ b.paths, Conflicts anyLevel (e :: rest) rule := by
  rw [Ne, clash?_eq_none_iff h he] at hclash
  push Not at hclash
  obtain ⟨n, hn, hdiffer, hdynamic⟩ := hclash
  obtain ⟨rest', hrest'⟩ := h.tidy.exists_continues hn
  exact ⟨_, cons_mem_paths.mpr ⟨n, hn, rfl, hrest'⟩, (conflicts_cons_of_ne hdiffer).mpr hdynamic⟩

theorem not_conflicts_nil_iff (h : b.Tidy) (hn : n ∈ b.nodes) :
    (∀ rest', n.Continues rest' → ¬ Conflicts anyLevel [] rest') ↔
      n.isEnd = false ∧ anyLevel = true := by
  simp only [conflicts_nil, not_or, Bool.not_eq_false]
  constructor
  · intro hnone
    obtain ⟨rest', hrest'⟩ := h.exists_continues hn
    refine ⟨Bool.eq_false_iff.mpr fun hend => ?_, (hnone rest' hrest').2⟩
    exact (hnone [] (.inl ⟨rfl, hend⟩)).1 rfl
  · rintro ⟨hend, hlevel⟩ rest' (⟨-, hend'⟩ | hrest')
    · rw [hend] at hend'
      cases hend'
    · exact ⟨ne_nil_of_mem_paths hrest', hlevel⟩

theorem not_conflicts_cons_iff :
    (∀ rest', n.Continues rest' → ¬ Conflicts anyLevel (e :: rest) rest') ↔
      (n.isEnd = true → anyLevel = true) ∧
        ∀ rule ∈ n.children.paths, ¬ Conflicts anyLevel (e :: rest) rule := by
  have hnil : Conflicts anyLevel (e :: rest) [] ↔ anyLevel = false := by
    constructor
    · intro hconflict
      exact (conflicts_nil.mp hconflict.symm).resolve_left (List.cons_ne_nil _ _)
    · intro hlevel
      exact (conflicts_nil.mpr (.inr hlevel)).symm
  constructor
  · intro hnone
    refine ⟨fun hend => ?_, fun rule hrule => hnone rule (.inr hrule)⟩
    simpa [hnil] using hnone [] (.inl ⟨rfl, hend⟩)
  · rintro ⟨hlevel, hnone⟩ rest' (⟨rfl, hend⟩ | hrest')
    · simpa [hnil] using hlevel hend
    · exact hnone rest' hrest'

/-- **The walk reports a conflict exactly if the rule conflicts with a rule of the tree.** -/
theorem conflict?_eq_none_iff (h : b.Unambiguous) (position : Nat) (hne : path ≠ [])
    (hpath : ∀ e ∈ path, isDefinitionElement e = true) :
    conflict? anyLevel position b path = none ↔
      ∀ rule ∈ b.paths, ¬ Conflicts anyLevel path rule := by
  induction path generalizing b position with
  | nil => exact absurd rfl hne
  | cons e rest ih =>
    have he := hpath e List.mem_cons_self
    rw [conflict?]
    cases hclash : clash? b e with
    | some reason =>
      obtain ⟨rule, hrule, hconflict⟩ := exists_conflicts_of_clash? h he (by simp [hclash])
      exact iff_of_false nofun fun hnone => hnone rule hrule hconflict
    | none =>
      have hapart := (clash?_eq_none_iff h he).mp hclash
      cases hchild : b.child? e with
      | none =>
        refine iff_of_true rfl fun rule hrule hconflict => ?_
        obtain ⟨n, hn, rest', rfl, -⟩ := mem_paths_iff.mp hrule
        have hdiffer := (h.tidy.child?_eq_none_iff.mp hchild n hn).symm
        exact hapart n hn hdiffer ((conflicts_cons_of_ne hdiffer).mp hconflict)
      | some n =>
        obtain ⟨hn, rfl⟩ := h.tidy.child?_eq_some_iff.mp hchild
        rw [conflicts_below_iff h hn hapart]
        cases rest with
        | nil =>
          rw [not_conflicts_nil_iff h.tidy hn]
          cases hend : n.isEnd <;> cases anyLevel <;> simp [hend]
        | cons next rest =>
          have hbelow := ih (h.children hn) (position + 1) (List.cons_ne_nil _ _)
            fun e he => hpath e (List.mem_cons_of_mem _ he)
          rw [not_conflicts_cons_iff, ← hbelow]
          cases hend : n.isEnd <;> cases anyLevel <;> simp [hend]

end Definitions

end Telemetry
