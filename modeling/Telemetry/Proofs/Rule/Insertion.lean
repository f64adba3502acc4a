import Telemetry.Proofs.Namespace.Text
import Telemetry.Proofs.Rule.Paths

/-!
# What insertion leaves

A tree that is built by insertions only is in order on every level (`filed_foldl_add`): every text
is the key of the name that it is, patterns differ and hold no names, from every node some rule can
be reached, and nothing is behind `**`. The invariant that carries this down the tree has two
halves. The tree is tidy, and no path of it goes on behind `**`; both hold of the children of each
node, since a path of theirs is the rest of a path of the tree (`Sound.children`). On one level the
order then follows from the halves alone (`Sound.filed`).

Whoever inserts a path that is there already finds each node of it and the end of it too, and so is
told that it is not new (`Tidy.isNew_insert_iff`) and leaves the tree as it is (`Tidy.add_eq_self`).

* `Branches.Reaches`: the node at the end of a path.
* `Branches.IsLevel`: the children of some node, or the top of the tree.
* `Branches.Filed`: the order of a level.
-/

namespace Telemetry.Branches

variable {b level : Branches} {n : Branch} {path rest : List Element} {rules : List (List Element)}

/-- The path leads to the node, from one child to the next. -/
inductive Reaches : Branches → List Element → Branch → Prop
  | child {b : Branches} {n : Branch} (hn : n ∈ b.nodes) : Reaches b [n.element] n
  | further {b : Branches} {m n : Branch} {path : List Element} (hm : m ∈ b.nodes)
    (hn : Reaches m.children path n) : Reaches b (m.element :: path) n

/-- The top of the tree, or the children of one of its nodes. -/
def IsLevel (b level : Branches) : Prop :=
  level = b ∨ ∃ path n, b.Reaches path n ∧ level = n.children

/-- A level in order. -/
structure Filed (level : Branches) : Prop where
  /-- The node under a text is this name. -/
  named : ∀ key n, (key, n) ∈ level.literals → n.element = .name key
  keys_ne : level.literals.Pairwise fun n m => n.1 ≠ m.1
  patterns_ne : level.patterns.Pairwise fun n m => n.element ≠ m.element
  not_name : ∀ n ∈ level.patterns, ∀ text, n.element ≠ .name text
  /-- Each child is an end or has one below it. -/
  live : ∀ n ∈ level.nodes,
    n.isEnd = true ∨ ∃ path m, n.children.Reaches path m ∧ m.isEnd = true
  trailing : ∀ n ∈ level.nodes, n.element = .trailing → n.isEnd = true ∧ n.children = empty

/-! ## Nodes and paths -/

theorem mem_paths_iff_reaches : path ∈ b.paths ↔ ∃ n, b.Reaches path n ∧ n.isEnd = true := by
  constructor
  · intro h
    induction path generalizing b with
    | nil => exact absurd rfl (ne_nil_of_mem_paths h)
    | cons e rest ih =>
      obtain ⟨n, hn, rfl, ⟨rfl, hend⟩ | hrest⟩ := cons_mem_paths.mp h
      · exact ⟨n, .child hn, hend⟩
      · obtain ⟨m, hm, hend⟩ := ih hrest
        exact ⟨m, .further hn hm, hend⟩
  · rintro ⟨n, hn, hend⟩
    induction hn with
    | child hn => exact cons_mem_paths.mpr ⟨_, hn, rfl, .inl ⟨rfl, hend⟩⟩
    | further hm _ ih => exact cons_mem_paths.mpr ⟨_, hm, rfl, .inr (ih hend)⟩

theorem eq_empty_of_nodes (h : b.nodes = []) : b = empty := by
  obtain ⟨literals, patterns⟩ := b
  obtain ⟨hliterals, rfl⟩ := List.append_eq_nil_iff.mp h
  obtain rfl : literals = [] := List.map_eq_nil_iff.mp hliterals
  rfl

/-! ## The order of a level -/

/-- The tree is tidy, and no path goes on behind `**`. -/
structure Sound (b : Branches) : Prop where
  tidy : b.Tidy
  trailingLast : ∀ path ∈ b.paths, TrailingLast path

namespace Sound

theorem children (h : b.Sound) (hn : n ∈ b.nodes) : n.children.Sound where
  tidy := h.tidy.children hn
  trailingLast _ hpath :=
    (h.trailingLast _ (cons_mem_paths.mpr ⟨n, hn, rfl, .inr hpath⟩)).of_cons

theorem children_of_reaches (h : b.Sound) (hn : b.Reaches path n) : n.children.Sound := by
  induction hn with
  | child hn => exact h.children hn
  | further hm _ ih => exact ih (h.children hm)

theorem of_isLevel (h : b.Sound) (hlevel : b.IsLevel level) : level.Sound := by
  rcases hlevel with rfl | ⟨path, n, hn, rfl⟩
  · exact h
  · exact h.children_of_reaches hn

theorem eq_nil_of_continues (h : b.Sound) (hn : n ∈ b.nodes) (helement : n.element = .trailing)
    (hrest : n.Continues rest) : rest = [] :=
  (h.trailingLast _ (cons_mem_paths.mpr ⟨n, hn, helement, hrest⟩)).eq_nil

theorem filed (h : b.Sound) : b.Filed where
  named key n hentry := h.tidy.ordered.named _ hentry
  keys_ne := List.pairwise_map.mp h.tidy.ordered.nodup_keys
  patterns_ne := List.pairwise_map.mp h.tidy.ordered.nodup_patterns
  not_name n hn text htext := by
    have hname := h.tidy.ordered.isName_patterns n hn
    rw [htext] at hname
    cases hname
  live n hn := by
    obtain ⟨rest, ⟨-, hend⟩ | hrest⟩ := h.tidy.exists_continues hn
    · exact .inl hend
    · exact .inr ⟨rest, mem_paths_iff_reaches.mp hrest⟩
  trailing n hn helement := by
    have hlast : ∀ rest, n.Continues rest → rest = [] := fun _ =>
      h.eq_nil_of_continues hn helement
    have hempty : n.children.isEmpty = true := by
      -- a child would lie on a path that goes on behind `**`
      refine (h.tidy.children hn).isEmpty_iff.mpr fun rest hrest => ?_
      exact ne_nil_of_mem_paths hrest (hlast rest (.inr hrest))
    refine ⟨(h.tidy.ordered.live n hn).resolve_right (by simp [hempty]), ?_⟩
    exact eq_empty_of_nodes (isEmpty_iff_nodes.mp hempty)

/-! ## Insertions -/

theorem add (h : b.Sound) (hpath : path ≠ []) (hlast : TrailingLast path) : (b.add path).Sound where
  tidy := h.tidy.add path
  trailingLast other hother := by
    rcases (h.tidy.mem_paths_add hpath).mp hother with rfl | hother
    · exact hlast
    · exact h.trailingLast other hother

theorem foldl_add (h : b.Sound) (hrules : ∀ path ∈ rules, path ≠ [] ∧ TrailingLast path) :
    (rules.foldl Branches.add b).Sound := by
  induction rules generalizing b with
  | nil => exact h
  | cons path rules ih =>
    obtain ⟨⟨hpath, hlast⟩, hrest⟩ := List.forall_mem_cons.mp hrules
    exact ih (h.add hpath hlast) hrest

end Sound

/-- **Insertions leave a tree that is in order on every level and holds exactly the paths that were
inserted**; the answer to one more is that its path is new exactly if it was not inserted before,
and otherwise the tree stays as it is. -/
theorem filed_foldl_add (rules : List (List Element))
    (hrules : ∀ path ∈ rules, path ≠ [] ∧ TrailingLast path) :
    let b := rules.foldl (fun b path => (b.insert path).1) empty
    (∀ level, b.IsLevel level → level.Filed) ∧
      (∀ path, (∃ n, b.Reaches path n ∧ n.isEnd = true) ↔ path ∈ rules) ∧
      ∀ path, path ≠ [] → ((b.insert path).2 = true ↔ path ∉ rules) ∧
        (path ∈ rules → (b.insert path).1 = b) := by
  intro b
  have hsound : b.Sound := Sound.foldl_add ⟨.empty, by simp⟩ hrules
  have hpaths : ∀ path, path ∈ b.paths ↔ path ∈ rules := fun path =>
    (Tidy.empty.mem_paths_foldl_add fun path hpath => (hrules path hpath).1).trans (by simp)
  refine ⟨fun level hlevel => (hsound.of_isLevel hlevel).filed, fun path => ?_,
    fun path hne => ⟨?_, fun hpath => ?_⟩⟩
  · rw [← mem_paths_iff_reaches, hpaths]
  · rw [hsound.tidy.isNew_insert_iff hne, hpaths]
  · exact hsound.tidy.add_eq_self ((hpaths path).mpr hpath)

/-- Four rules share a beginning, one of them is only this beginning, and one comes twice. -/
theorem filed_foldl_add_shared :
    let rules : List (List Element) :=
      [[.name "p", .group "g", .name "m"], [.name "p", .name "x"], [.name "p", .trailing],
        [.name "p"], [.name "p", .name "x"]]
    let b := rules.foldl (fun b path => (b.insert path).1) empty
    (∀ path ∈ rules, path ≠ [] ∧ TrailingLast path) ∧
      (∀ level, b.IsLevel level → level.Filed) ∧
      (∃ n, b.Reaches [.name "p", .trailing] n ∧ n.isEnd = true) ∧
      (b.insert [.name "p"]).2 = false ∧ (b.insert [.name "p", .group "g"]).2 = true ∧
      (b.insert [.name "p", .name "x"]).1 = b := by
  intro rules b
  have hrules : ∀ path ∈ rules, path ≠ [] ∧ TrailingLast path := by
    unfold TrailingLast
    decide
  obtain ⟨hfiled, hreached, hinsert⟩ := filed_foldl_add rules hrules
  refine ⟨hrules, hfiled, (hreached _).mpr (by decide), ?_,
    (hinsert _ (List.cons_ne_nil _ _)).1.mpr (by decide),
    (hinsert _ (List.cons_ne_nil _ _)).2 (by decide)⟩
  rw [← Bool.not_eq_true, (hinsert _ (List.cons_ne_nil _ _)).1]
  decide

end Telemetry.Branches
