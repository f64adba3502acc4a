import Telemetry.Proofs.Rule.Paths
import Telemetry.Rule.Filters

/-!
# The search, rule by rule

Filters share the beginnings of their rules and go back to other children where one fails. Whatever
the elements of a path are, this comes to the same as trying the rules one by one: the search finds
a way exactly if the path follows some rule of the tree on its own (`walk_eq_true_iff_follows`).

The search for a beginning stops wherever the beginning ends. That a rule goes on from there is the
invariant behind it: no node of a tidy tree is a dead end (`Branch.Live`).

* `Filters.leadsTo`: one step along a rule.
* `Filters.follows`: a path along one rule.
-/

namespace Telemetry

variable {e c : Element} {rule rest elements : List Element} {partly : Bool}

/-! ## Nodes that lead somewhere -/

/-- The part of a tree below a node is tidy, and some rule ends at the node or goes on behind it. -/
structure Branch.Live (n : Branch) : Prop where
  tidy : n.children.Tidy
  goesOn : ∃ rest, n.Continues rest

namespace Branches

variable {b : Branches} {n : Branch}

theorem Tidy.live (h : b.Tidy) (hn : n ∈ b.nodes) : n.Live := ⟨h.children hn, h.exists_continues hn⟩

/-- The tree as a node of its own, where no rule ends. -/
def root (b : Branches) : Branch := ⟨.trailing, false, b⟩

@[simp] theorem continues_root : b.root.Continues rest ↔ rest ∈ b.paths := by
  simp [root, Branch.Continues]

theorem Tidy.live_root (h : b.Tidy) (hne : b.isEmpty = false) : b.root.Live := by
  refine ⟨h, ?_⟩
  have hsome : ¬ ∀ path, path ∉ b.paths := by rw [← h.isEmpty_iff, hne]; simp
  simpa using hsome

end Branches

/-! ## One rule -/

namespace Filters

open Branches

variable {b : Branches} {n : Branch}

/-- Whether a candidate may go on to a child: `*` to any, a value to the name that it is, and
everything to the patterns that admit it. -/
def leadsTo (candidate : Element) (child : Element) : Bool :=
  candidate == .wildcard || match child with
    | .name text => candidate.value? == some text
    | _ => child.admits candidate

/-- Whether a path goes along a rule, element by element, until both end or `**` takes the rest; a
beginning may end before the rule. -/
def follows (partly : Bool) : (rule elements : List Element) → Bool
  | [], elements => elements.isEmpty
  | c :: _, [] => partly || c == .trailing
  | c :: rule, e :: elements => leadsTo e c && (c == .trailing || follows partly rule elements)

@[simp] theorem follows_true_nil (rule : List Element) : follows true rule [] = true := by
  cases rule <;> rfl

/-! ## The search -/

theorem mem_nodes_of_mem_tried (h : n ∈ tried b e) : n ∈ b.nodes := by
  unfold tried at h
  split at h
  · exact h
  · rcases List.mem_append.mp h with h | h
    · obtain ⟨text, -, htext⟩ := Option.bind_eq_some_iff.mp (Option.mem_toList.mp h)
      exact mem_nodes_iff.mpr (.inl ⟨text, List.mem_of_find?_eq_some (find?_of_literal? htext)⟩)
    · exact mem_nodes_iff.mpr (.inr (List.mem_filter.mp h).1)

theorem mem_tried_iff (h : b.Tidy) : n ∈ tried b e ↔ n ∈ b.nodes ∧ leadsTo e n.element = true := by
  by_cases hwildcard : (e == .wildcard) = true
  · simp [tried, leadsTo, hwildcard]
  · have hliteral : e.value?.bind b.literal? = some n ↔
        n ∈ b.nodes ∧ ∃ text, e.value? = some text ∧ n.element = .name text := by
      have hchild : ∀ text, b.literal? text = some n ↔ n ∈ b.nodes ∧ n.element = .name text :=
        fun text => h.child?_eq_some_iff (e := .name text)
      rw [Option.bind_eq_some_iff]
      grind
    rw [tried, if_neg hwildcard, List.mem_append, Option.mem_toList, hliteral, List.mem_filter,
      h.mem_patterns_iff]
    unfold leadsTo
    cases hn : n.element <;> simp [Element.isName, hwildcard]

/-- **The search below a node finds a way exactly if some rule that passes through the node goes on
along the path.** -/
theorem walk_eq_true_iff_follows (h : n.Live) : walk partly n.isEnd n.children elements = true ↔
    ∃ rest, n.Continues rest ∧ follows partly rest elements = true := by
  induction elements generalizing n with
  | nil =>
    obtain ⟨rest, hrest⟩ := h.goesOn
    simp only [walk, Bool.or_eq_true]
    constructor
    · rintro ((rfl | hend) | htrailing)
      · exact ⟨rest, hrest, follows_true_nil rest⟩
      · exact ⟨[], .inl ⟨rfl, hend⟩, rfl⟩
      · obtain ⟨m, hm, helement⟩ := List.any_eq_true.mp htrailing
        have hm := (h.tidy.mem_patterns_iff.mp hm).1
        obtain ⟨rest, hrest⟩ := h.tidy.exists_continues hm
        refine ⟨m.element :: rest, .inr (cons_mem_paths.mpr ⟨m, hm, rfl, hrest⟩), ?_⟩
        rw [follows, helement, Bool.or_true]
    · rintro ⟨_ | ⟨c, rest⟩, hrest, hfollows⟩
      · exact .inl (.inr (hrest.resolve_right fun hnil => ne_nil_of_mem_paths hnil rfl).2)
      · obtain ⟨m, hm, rfl, -⟩ := cons_mem_paths.mp (hrest.resolve_left nofun)
        rw [follows, Bool.or_eq_true] at hfollows
        refine hfollows.imp .inl fun helement => List.any_eq_true.mpr ⟨m, ?_, helement⟩
        exact h.tidy.mem_patterns_iff.mpr ⟨hm, by rw [beq_iff_eq.mp helement]; rfl⟩
  | cons e elements ih =>
    simp only [walk, List.any_eq_true, Bool.or_eq_true, mem_tried_iff h.tidy]
    constructor
    · rintro ⟨m, ⟨hm, hleads⟩, hrest⟩
      have hlive := h.tidy.live hm
      obtain ⟨rest, hcontinues, hgoes⟩ : ∃ rest, m.Continues rest ∧
          ((m.element == .trailing) = true ∨ follows partly rest elements = true) := by
        rcases hrest with htrailing | hbelow
        · obtain ⟨rest, hcontinues⟩ := hlive.goesOn
          exact ⟨rest, hcontinues, .inl htrailing⟩
        · obtain ⟨rest, hcontinues, hfollows⟩ := (ih hlive).mp hbelow
          exact ⟨rest, hcontinues, .inr hfollows⟩
      refine ⟨m.element :: rest, .inr (cons_mem_paths.mpr ⟨m, hm, rfl, hcontinues⟩), ?_⟩
      rw [follows, Bool.and_eq_true, Bool.or_eq_true]
      exact ⟨hleads, hgoes⟩
    · rintro ⟨_ | ⟨c, rest⟩, hrest, hfollows⟩
      · cases hfollows
      · obtain ⟨m, hm, rfl, hcontinues⟩ := cons_mem_paths.mp (hrest.resolve_left nofun)
        rw [follows, Bool.and_eq_true, Bool.or_eq_true] at hfollows
        refine ⟨m, ⟨hm, hfollows.1⟩, hfollows.2.imp_right fun hbelow => ?_⟩
        exact (ih (h.tidy.live hm)).mpr ⟨rest, hcontinues, hbelow⟩

theorem search_iff {f : Filters} (h : f.branches.Tidy) (elements : List Element) :
    (!f.hasRules || walk partly false f.branches elements) = true ↔
      (∀ rule, rule ∉ f.branches.paths) ∨
        ∃ rule ∈ f.branches.paths, follows partly rule elements = true := by
  rw [Bool.or_eq_true, hasRules, Bool.not_not, h.isEmpty_iff]
  by_cases hnone : ∀ rule, rule ∉ f.branches.paths
  · simp [hnone]
  · have hne : f.branches.isEmpty = false := by rwa [← Bool.not_eq_true, h.isEmpty_iff]
    have hwalk : walk partly false f.branches elements = true ↔
        ∃ rule, f.branches.root.Continues rule ∧ follows partly rule elements = true :=
      walk_eq_true_iff_follows (h.live_root hne)
    simp only [continues_root] at hwalk
    exact or_congr_right hwalk

theorem accepts_iff_follows {f : Filters} (h : f.branches.Tidy) (ns : Namespace) :
    f.accepts ns = true ↔ (∀ rule, rule ∉ f.branches.paths) ∨
      ∃ rule ∈ f.branches.paths, follows false rule ns.elements = true := search_iff h ns.elements

theorem acceptsPrefix_iff_follows {f : Filters} (h : f.branches.Tidy) (ns : Namespace) :
    f.acceptsPrefix ns = true ↔ (∀ rule, rule ∉ f.branches.paths) ∨
      ∃ rule ∈ f.branches.paths, follows true rule ns.elements = true := search_iff h ns.elements

end Filters

end Telemetry
