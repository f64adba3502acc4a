import Mathlib.Data.List.Nodup
import Telemetry.Rule.Branches

/-!
# The paths of a tree

A tree stands for the set of its paths. This file reads the children of a node (`cons_mem_paths`),
the insertion of a path (`Tidy.mem_paths_add`), the shape that insertion keeps (`Tidy`) and the
listing of the rules (`Tidy.rules_congr`) as statements about that set; other files reach trees only
through them.

A child is looked up by its text or among the patterns, and it is put back in the same way. In a
tidy tree both come to its element: every text is the key of the name that it is, and no pattern is
a name. Insertion then replaces one child and leaves all that have other elements
(`Tidy.mem_nodes_setChild`).

* `Branch.Continues`: the rest of a path behind a node.
* `Branches.Ordered`: the order of one level.
* `Branches.Tidy`: every level is ordered.
-/

namespace Telemetry

/-- Some rule passes through the node and goes on like this behind it, or ends with it. -/
def Branch.Continues (n : Branch) (rest : List Element) : Prop :=
  (rest = [] ∧ n.isEnd = true) ∨ rest ∈ n.children.paths

variable {b : Branches} {n n' m : Branch} {e : Element} {path rest : List Element}

theorem Branch.mem_paths : path ∈ n.paths ↔ ∃ rest, path = n.element :: rest ∧ n.Continues rest := by
  obtain ⟨element, isEnd, children⟩ := n
  simp only [Branch.paths, Branch.Continues, List.mem_append, List.mem_map]
  constructor
  · rintro (hhere | ⟨rest, hrest, rfl⟩)
    · cases isEnd with
      | false => cases hhere
      | true => exact ⟨[], List.mem_singleton.mp hhere, .inl ⟨rfl, rfl⟩⟩
    · exact ⟨rest, rfl, .inr hrest⟩
  · rintro ⟨rest, rfl, ⟨rfl, rfl⟩ | hrest⟩
    · exact .inl List.mem_cons_self
    · exact .inr ⟨rest, hrest, rfl⟩

namespace Branches

/-! ## Induction -/

/-- What holds of a tree if it holds below all of its children holds of every tree. -/
@[elab_as_elim]
theorem induction {P : Branches → Prop} (step : ∀ b, (∀ n ∈ b.nodes, P n.children) → P b)
    (b : Branches) : P b := by
  refine Branches.rec (motive_1 := P) (motive_2 := fun n => P n.children)
    (motive_3 := fun literals => ∀ entry ∈ literals, P entry.2.children)
    (motive_4 := fun patterns => ∀ n ∈ patterns, P n.children)
    (motive_5 := fun entry => P entry.2.children) ?_ ?_ ?_ ?_ ?_ ?_ ?_ b
  · intro literals patterns hliterals hpatterns
    refine step _ fun n hn => ?_
    rcases List.mem_append.mp hn with hn | hn
    · obtain ⟨entry, hentry, rfl⟩ := List.mem_map.mp hn
      exact hliterals entry hentry
    · exact hpatterns n hn
  · exact fun _ _ _ hchildren => hchildren
  · exact fun entry hentry => absurd hentry List.not_mem_nil
  · exact fun _ _ hentry hliterals => List.forall_mem_cons.mpr ⟨hentry, hliterals⟩
  · exact fun n hn => absurd hn List.not_mem_nil
  · exact fun _ _ hn hpatterns => List.forall_mem_cons.mpr ⟨hn, hpatterns⟩
  · exact fun _ _ hn => hn

/-! ## Paths through a node -/

theorem paths_eq_flatMap (b : Branches) : b.paths = b.nodes.flatMap Branch.paths := by
  obtain ⟨literals, patterns⟩ := b
  have hliterals : literalPaths literals = (literals.map (·.2)).flatMap Branch.paths := by
    induction literals with
    | nil => rfl
    | cons entry literals ih => rw [literalPaths, ih, List.map_cons, List.flatMap_cons]
  have hpatterns : patternPaths patterns = patterns.flatMap Branch.paths := by
    induction patterns with
    | nil => rfl
    | cons n patterns ih => rw [patternPaths, ih, List.flatMap_cons]
  rw [paths, hliterals, hpatterns, nodes, List.flatMap_append]

theorem mem_paths_iff :
    path ∈ b.paths ↔ ∃ n ∈ b.nodes, ∃ rest, path = n.element :: rest ∧ n.Continues rest := by
  simp only [paths_eq_flatMap, List.mem_flatMap, Branch.mem_paths]

theorem cons_mem_paths : e :: rest ∈ b.paths ↔ ∃ n ∈ b.nodes, n.element = e ∧ n.Continues rest := by
  rw [mem_paths_iff]
  constructor
  · rintro ⟨n, hn, rest, heq, hrest⟩
    obtain ⟨rfl, rfl⟩ := List.cons.inj heq
    exact ⟨n, hn, rfl, hrest⟩
  · rintro ⟨n, hn, rfl, hrest⟩
    exact ⟨n, hn, rest, rfl, hrest⟩

theorem ne_nil_of_mem_paths (h : path ∈ b.paths) : path ≠ [] := by
  obtain ⟨n, -, rest, rfl, -⟩ := mem_paths_iff.mp h
  exact List.cons_ne_nil _ _

@[simp] theorem not_mem_paths_empty : path ∉ empty.paths := by
  simp [empty, paths, literalPaths, patternPaths]

theorem continues_nil_iff : n.Continues [] ↔ n.isEnd = true := by
  simp [Branch.Continues, mt ne_nil_of_mem_paths]

theorem continues_iff_of_ne_nil (hne : rest ≠ []) : n.Continues rest ↔ rest ∈ n.children.paths := by
  simp [Branch.Continues, hne]

theorem isEmpty_iff_nodes : b.isEmpty = true ↔ b.nodes = [] := by
  obtain ⟨_ | _, _ | _⟩ := b <;> simp [isEmpty, kind, nodes]

theorem isEmpty_eq_false_of_mem_paths (h : path ∈ b.paths) : b.isEmpty = false := by
  obtain ⟨n, hn, -⟩ := mem_paths_iff.mp h
  exact Bool.eq_false_iff.mpr fun hempty => List.ne_nil_of_mem hn (isEmpty_iff_nodes.mp hempty)

theorem mem_nodes_iff : n ∈ b.nodes ↔ (∃ key, (key, n) ∈ b.literals) ∨ n ∈ b.patterns := by
  simp [nodes]

theorem find?_of_literal? {text : String} (h : b.literal? text = some n) :
    b.literals.find? (·.1 == text) = some (text, n) := by
  obtain ⟨⟨key, m⟩, hfind, rfl⟩ := Option.map_eq_some_iff.mp h
  have hkey : key = text := by simpa using List.find?_some hfind
  rw [hfind, hkey]

theorem child?_of_ne_name (he : ¬ ∃ text, e = .name text) : b.child? e = b.pattern? (· == e) := by
  cases e with
  | name text => exact absurd ⟨text, rfl⟩ he
  | _ => rfl

theorem setChild_of_ne_name (he : ¬ ∃ text, e = .name text) :
    b.setChild e n = { b with patterns := put (·.element) n b.patterns } := by
  cases e with
  | name text => exact absurd ⟨text, rfl⟩ he
  | _ => rfl

/-! ## Tidy trees -/

/-- Every text is the key of one node, the name that it is; patterns differ and are no names; and no
child is a dead end. -/
structure Ordered (b : Branches) : Prop where
  named : ∀ entry ∈ b.literals, entry.2.element = .name entry.1
  nodup_keys : (b.literals.map (·.1)).Nodup
  isName_patterns : ∀ n ∈ b.patterns, n.element.isName = false
  nodup_patterns : (b.patterns.map (·.element)).Nodup
  live : ∀ n ∈ b.nodes, n.isEnd = true ∨ n.children.isEmpty = false

/-- All levels of the tree are in order. -/
inductive Tidy : Branches → Prop
  | mk {b : Branches} (ordered : b.Ordered) (children : ∀ n ∈ b.nodes, Tidy n.children) : Tidy b

namespace Tidy

theorem empty : empty.Tidy :=
  ⟨⟨by simp [Branches.empty], by simp [Branches.empty], by simp [Branches.empty],
    by simp [Branches.empty], by simp [Branches.empty, nodes]⟩, by simp [Branches.empty, nodes]⟩

theorem ordered (h : b.Tidy) : b.Ordered := by
  cases h with
  | mk ordered _ => exact ordered

theorem children (h : b.Tidy) (hn : n ∈ b.nodes) : n.children.Tidy := by
  cases h with
  | mk _ children => exact children n hn

theorem nodup_elements (h : b.Tidy) : (b.nodes.map (·.element)).Nodup := by
  have hnames : (b.literals.map (·.2)).map (·.element) = (b.literals.map (·.1)).map .name := by
    simpa using h.ordered.named
  rw [nodes, List.map_append, hnames]
  refine List.nodup_append.mpr ⟨?_, h.ordered.nodup_patterns, ?_⟩
  · exact h.ordered.nodup_keys.map fun _ _ => Element.name.inj
  · rintro _ hname _ hpattern rfl
    obtain ⟨key, -, hkey⟩ := List.mem_map.mp hname
    obtain ⟨n, hn, hn'⟩ := List.mem_map.mp hpattern
    have hpattern := h.ordered.isName_patterns n hn
    rw [hn', ← hkey] at hpattern
    cases hpattern

theorem eq_of_element_eq (h : b.Tidy) (hn : n ∈ b.nodes) (hn' : n' ∈ b.nodes)
    (heq : n.element = n'.element) : n = n' :=
  List.inj_on_of_nodup_map h.nodup_elements hn hn' heq

theorem exists_mem_paths (h : b.Tidy) (hne : b.isEmpty = false) : ∃ path, path ∈ b.paths := by
  induction b using Branches.induction with
  | step b ih =>
    obtain ⟨n, hn⟩ : ∃ n, n ∈ b.nodes := by
      refine List.exists_mem_of_ne_nil _ fun hnil => ?_
      rw [isEmpty_iff_nodes.mpr hnil] at hne
      cases hne
    rcases h.ordered.live n hn with hend | hne
    · exact ⟨[n.element], cons_mem_paths.mpr ⟨n, hn, rfl, .inl ⟨rfl, hend⟩⟩⟩
    · obtain ⟨path, hpath⟩ := ih n hn (h.children hn) hne
      exact ⟨n.element :: path, cons_mem_paths.mpr ⟨n, hn, rfl, .inr hpath⟩⟩

theorem exists_continues (h : b.Tidy) (hn : n ∈ b.nodes) : ∃ rest, n.Continues rest := by
  rcases h.ordered.live n hn with hend | hne
  · exact ⟨[], .inl ⟨rfl, hend⟩⟩
  · obtain ⟨path, hpath⟩ := (h.children hn).exists_mem_paths hne
    exact ⟨path, .inr hpath⟩

theorem isEmpty_iff (h : b.Tidy) : b.isEmpty = true ↔ ∀ path, path ∉ b.paths := by
  constructor
  · intro hempty path hpath
    rw [isEmpty_eq_false_of_mem_paths hpath] at hempty
    cases hempty
  · intro hnone
    by_contra hne
    obtain ⟨path, hpath⟩ := h.exists_mem_paths (Bool.not_eq_true _ ▸ hne)
    exact hnone path hpath

/-! ## Looking a child up -/

theorem mem_of_child? (h : b.Tidy) (hchild : b.child? e = some n) :
    n ∈ b.nodes ∧ n.element = e := by
  by_cases he : ∃ text, e = .name text
  · obtain ⟨text, rfl⟩ := he
    have hentry := List.mem_of_find?_eq_some (find?_of_literal? hchild)
    exact ⟨mem_nodes_iff.mpr (.inl ⟨_, hentry⟩), h.ordered.named _ hentry⟩
  · rw [child?_of_ne_name he] at hchild
    exact ⟨mem_nodes_iff.mpr (.inr (List.mem_of_find?_eq_some hchild)),
      by simpa using List.find?_some hchild⟩

theorem child?_eq_none_iff (h : b.Tidy) : b.child? e = none ↔ ∀ n ∈ b.nodes, n.element ≠ e := by
  constructor
  · intro hnone n hn helement
    subst helement
    rcases mem_nodes_iff.mp hn with ⟨key, hentry⟩ | hn
    · rw [h.ordered.named _ hentry, child?, literal?, Option.map_eq_none_iff,
        List.find?_eq_none] at hnone
      exact hnone _ hentry (beq_self_eq_true key)
    · have hpattern : ¬ ∃ text, n.element = .name text := by
        rintro ⟨text, htext⟩
        simpa [htext, Element.isName] using h.ordered.isName_patterns n hn
      rw [child?_of_ne_name hpattern, pattern?, List.find?_eq_none] at hnone
      exact hnone n hn (beq_self_eq_true n.element)
  · intro hnone
    cases hchild : b.child? e with
    | none => rfl
    | some n => exact absurd (h.mem_of_child? hchild).2 (hnone n (h.mem_of_child? hchild).1)

theorem child?_eq_some_iff (h : b.Tidy) :
    b.child? e = some n ↔ n ∈ b.nodes ∧ n.element = e := by
  refine ⟨h.mem_of_child?, fun ⟨hn, he⟩ => ?_⟩
  cases hchild : b.child? e with
  | none => exact absurd he (h.child?_eq_none_iff.mp hchild n hn)
  | some m =>
    obtain ⟨hm, hme⟩ := h.mem_of_child? hchild
    rw [h.eq_of_element_eq hm hn (hme.trans he.symm)]

theorem mem_patterns_iff (h : b.Tidy) :
    n ∈ b.patterns ↔ n ∈ b.nodes ∧ n.element.isName = false := by
  constructor
  · exact fun hn => ⟨mem_nodes_iff.mpr (.inr hn), h.ordered.isName_patterns n hn⟩
  · rintro ⟨hn, hname⟩
    refine (mem_nodes_iff.mp hn).resolve_left ?_
    rintro ⟨key, hentry⟩
    rw [h.ordered.named _ hentry] at hname
    cases hname

end Tidy

theorem pattern?_eq_some_iff {p : Element → Bool} (hunique : ∀ n ∈ b.patterns, ∀ m ∈ b.patterns,
    p n.element = true → p m.element = true → n = m) :
    b.pattern? p = some n ↔ n ∈ b.patterns ∧ p n.element = true := by
  have hfound : ∀ m, b.pattern? p = some m → m ∈ b.patterns ∧ p m.element = true := fun m hfind =>
    ⟨List.mem_of_find?_eq_some hfind, by simpa using List.find?_some hfind⟩
  constructor
  · exact hfound n
  · rintro ⟨hn, hp⟩
    cases hfind : b.pattern? p with
    | none => exact absurd hp (List.find?_eq_none.mp hfind n hn)
    | some m => rw [hunique m (hfound m hfind).1 n hn (hfound m hfind).2 hp]

/-! ## Putting a child back -/

section Put

variable {α κ : Type} [DecidableEq κ] {key : α → κ} {a x : α} {l : List α}

theorem map_put : (put key a l).map key =
    if key a ∈ l.map key then l.map key else l.map key ++ [key a] := by
  induction l with
  | nil => rfl
  | cons x l ih =>
    by_cases hx : key x = key a
    · simp [put, hx]
    · rw [put, if_neg hx, List.map_cons, ih]
      by_cases ha : key a ∈ l.map key
      · simp [ha]
      · simp [ha, Ne.symm hx]

theorem nodup_map_put (h : (l.map key).Nodup) : ((put key a l).map key).Nodup := by
  rw [map_put]
  split_ifs with ha
  · exact h
  · refine List.nodup_append.mpr ⟨h, List.nodup_singleton _, ?_⟩
    simpa using fun x hx hxa => ha (by simpa using ⟨x, hx, hxa⟩)

theorem mem_put (h : (l.map key).Nodup) :
    x ∈ put key a l ↔ x = a ∨ (x ∈ l ∧ key x ≠ key a) := by
  induction l with
  | nil => simp [put]
  | cons y l ih =>
    obtain ⟨hy, hl⟩ := List.nodup_cons.mp h
    by_cases hya : key y = key a
    · have hother : ∀ x ∈ l, key x ≠ key a := fun x hx hxa =>
        hy (hya.trans hxa.symm ▸ List.mem_map_of_mem hx)
      rw [put, if_pos hya, List.mem_cons]
      grind
    · rw [put, if_neg hya, List.mem_cons, ih hl]
      grind

theorem put_eq_self (h : l.find? (key · == key a) = some a) : put key a l = l := by
  induction l with
  | nil => cases h
  | cons x l ih =>
    by_cases hx : key x = key a
    · rw [List.find?_cons_of_pos (by simpa using hx)] at h
      rw [put, if_pos hx, Option.some.inj h]
    · rw [List.find?_cons_of_neg (by simpa using hx)] at h
      rw [put, if_neg hx, ih h]

end Put

theorem setChild_eq_self (hchild : b.child? e = some n) : b.setChild e n = b := by
  obtain ⟨literals, patterns⟩ := b
  by_cases he : ∃ text, e = .name text
  · obtain ⟨text, rfl⟩ := he
    have hput : put (·.1) (text, n) literals = literals := put_eq_self (find?_of_literal? hchild)
    rw [setChild, hput]
  · rw [child?_of_ne_name he] at hchild
    have helement : n.element = e := by simpa using List.find?_some hchild
    have hput : put (·.element) n patterns = patterns := put_eq_self (by rwa [helement])
    rw [setChild_of_ne_name he, hput]

namespace Tidy

/-- A node that is put back takes the place of the child with its element; all others stay. -/
theorem mem_nodes_setChild (h : b.Tidy) (he : n.element = e) :
    m ∈ (b.setChild e n).nodes ↔ m = n ∨ (m ∈ b.nodes ∧ m.element ≠ e) := by
  subst he
  by_cases he : ∃ text, n.element = .name text
  · obtain ⟨text, he⟩ := he
    have hname : ∀ key, (key, m) ∈ b.literals → (key ≠ text ↔ m.element ≠ .name text) :=
      fun key hentry => by
        rw [show m.element = .name key from h.ordered.named _ hentry]
        simp
    have hpattern : m ∈ b.patterns → m.element ≠ .name text := fun hm helement => by
      simpa [helement, Element.isName] using h.ordered.isName_patterns m hm
    rw [he, setChild, mem_nodes_iff, mem_nodes_iff]
    simp only [mem_put h.ordered.nodup_keys, Prod.mk.injEq]
    grind
  · have hname : ∀ key, (key, m) ∈ b.literals → m.element ≠ n.element := fun key hentry helement =>
      he ⟨key, helement.symm.trans (h.ordered.named _ hentry)⟩
    rw [setChild_of_ne_name he, mem_nodes_iff, mem_nodes_iff]
    simp only [mem_put h.ordered.nodup_patterns]
    grind

theorem setChild (h : b.Tidy) (he : n.element = e)
    (hlive : n.isEnd = true ∨ n.children.isEmpty = false) (hchildren : n.children.Tidy) :
    (b.setChild e n).Tidy := by
  have hnodes : ∀ m ∈ (b.setChild e n).nodes, m = n ∨ m ∈ b.nodes := fun m hm =>
    ((h.mem_nodes_setChild he).mp hm).imp_right And.left
  have hlives : ∀ m ∈ (b.setChild e n).nodes, m.isEnd = true ∨ m.children.isEmpty = false := by
    intro m hm
    rcases hnodes m hm with rfl | hm
    · exact hlive
    · exact h.ordered.live m hm
  refine ⟨?_, fun m hm => ?_⟩
  · by_cases hname : ∃ text, e = .name text
    · obtain ⟨text, rfl⟩ := hname
      refine ⟨fun entry hentry => ?_, nodup_map_put h.ordered.nodup_keys, h.ordered.isName_patterns,
        h.ordered.nodup_patterns, hlives⟩
      rcases (mem_put h.ordered.nodup_keys).mp hentry with rfl | ⟨hentry, -⟩
      · exact he
      · exact h.ordered.named entry hentry
    · rw [setChild_of_ne_name hname] at hlives ⊢
      refine ⟨h.ordered.named, h.ordered.nodup_keys, fun m hm => ?_,
        nodup_map_put h.ordered.nodup_patterns, hlives⟩
      rcases (mem_put h.ordered.nodup_patterns).mp hm with rfl | ⟨hm, -⟩
      · rw [he]
        cases e with
        | name text => exact absurd ⟨text, rfl⟩ hname
        | _ => rfl
      · exact h.ordered.isName_patterns m hm
  · rcases hnodes m hm with rfl | hm
    · exact hchildren
    · exact h.children hm

theorem cons_mem_paths_setChild {e' : Element} (h : b.Tidy) (he : n.element = e) :
    e' :: rest ∈ (b.setChild e n).paths ↔
      if e' = e then n.Continues rest else e' :: rest ∈ b.paths := by
  rw [cons_mem_paths]
  split_ifs with heq
  · subst heq
    constructor
    · rintro ⟨m, hm, helement, hrest⟩
      rcases (h.mem_nodes_setChild he).mp hm with rfl | ⟨-, hne⟩
      · exact hrest
      · exact absurd helement hne
    · exact fun hrest => ⟨n, (h.mem_nodes_setChild he).mpr (.inl rfl), he, hrest⟩
  · rw [cons_mem_paths]
    constructor
    · rintro ⟨m, hm, rfl, hrest⟩
      rcases (h.mem_nodes_setChild he).mp hm with rfl | ⟨hm, -⟩
      · exact absurd he heq
      · exact ⟨m, hm, rfl, hrest⟩
    · rintro ⟨m, hm, rfl, hrest⟩
      exact ⟨m, (h.mem_nodes_setChild he).mpr (.inr ⟨hm, heq⟩), rfl, hrest⟩

/-! ## Insertion -/

theorem childOrNew (h : b.Tidy) (e : Element) : (b.childOrNew e).element = e ∧
    (b.childOrNew e).children.Tidy ∧
      ∀ rest, (b.childOrNew e).Continues rest ↔ e :: rest ∈ b.paths := by
  cases hchild : b.child? e with
  | none =>
    have hnew : b.childOrNew e = ⟨e, false, Branches.empty⟩ := by rw [Branches.childOrNew, hchild]; rfl
    rw [hnew]
    refine ⟨rfl, Tidy.empty, fun rest => iff_of_false (by simp [Branch.Continues]) fun hmem => ?_⟩
    obtain ⟨n, hn, he, -⟩ := cons_mem_paths.mp hmem
    exact h.child?_eq_none_iff.mp hchild n hn he
  | some n =>
    have hn := h.mem_of_child? hchild
    have hold : b.childOrNew e = n := by rw [Branches.childOrNew, hchild]; rfl
    rw [hold]
    refine ⟨hn.2, h.children hn.1, fun rest => ?_⟩
    rw [cons_mem_paths]
    constructor
    · exact fun hrest => ⟨n, hn.1, hn.2, hrest⟩
    · rintro ⟨m, hm, he, hrest⟩
      rwa [h.eq_of_element_eq hn.1 hm (hn.2.trans he.symm)]

end Tidy

theorem insert_singleton (b : Branches) (e : Element) : b.insert [e] =
    (b.setChild e { b.childOrNew e with isEnd := true }, !(b.childOrNew e).isEnd) := rfl

theorem insert_cons (hne : rest ≠ []) (b : Branches) (e : Element) : b.insert (e :: rest) =
    (b.setChild e { b.childOrNew e with children := (b.childOrNew e).children.add rest },
      ((b.childOrNew e).children.insert rest).2) := by
  cases rest with
  | nil => exact absurd rfl hne
  | cons next rest => rfl

namespace Tidy

theorem mem_paths_add (h : b.Tidy) {new : List Element} (hnew : new ≠ []) :
    path ∈ (b.add new).paths ↔ path = new ∨ path ∈ b.paths := by
  induction new generalizing b path with
  | nil => exact absurd rfl hnew
  | cons e new ih =>
    obtain ⟨he, hchildren, hcontinues⟩ := h.childOrNew e
    cases path with
    | nil => exact iff_of_false (mt ne_nil_of_mem_paths (· rfl)) (by simp [mt ne_nil_of_mem_paths])
    | cons e' rest =>
      by_cases hnil : new = []
      · subst hnil
        rw [add, insert_singleton, h.cons_mem_paths_setChild (by exact he)]
        split_ifs with heq
        · subst heq
          rw [← hcontinues]
          simp [Branch.Continues]
          grind
        · simp [heq]
      · rw [add, insert_cons hnil, h.cons_mem_paths_setChild (by exact he)]
        split_ifs with heq
        · subst heq
          rw [← hcontinues]
          simp [Branch.Continues, ih hchildren hnil]
          grind
        · simp [heq]

theorem add (h : b.Tidy) (new : List Element) : (b.add new).Tidy := by
  induction new generalizing b with
  | nil => exact h
  | cons e new ih =>
    obtain ⟨he, hchildren, -⟩ := h.childOrNew e
    by_cases hnil : new = []
    · subst hnil
      exact h.setChild he (.inl rfl) hchildren
    · rw [Branches.add, insert_cons hnil]
      have hmem : new ∈ ((b.childOrNew e).children.add new).paths :=
        (hchildren.mem_paths_add hnil).mpr (.inl rfl)
      exact h.setChild he (.inr (isEmpty_eq_false_of_mem_paths hmem)) (ih hchildren)

theorem mem_paths_foldl_add {paths : List (List Element)} (h : b.Tidy)
    (hne : ∀ path ∈ paths, path ≠ []) :
    path ∈ (paths.foldl Branches.add b).paths ↔ path ∈ paths ∨ path ∈ b.paths := by
  induction paths generalizing b with
  | nil => simp
  | cons first paths ih =>
    rw [List.forall_mem_cons] at hne
    rw [List.foldl_cons, ih (h.add first) hne.2, h.mem_paths_add hne.1, List.mem_cons]
    grind

theorem isNew_insert_iff (h : b.Tidy) (hne : path ≠ []) :
    (b.insert path).2 = true ↔ path ∉ b.paths := by
  induction path generalizing b with
  | nil => exact absurd rfl hne
  | cons e rest ih =>
    obtain ⟨-, hchildren, hcontinues⟩ := h.childOrNew e
    rw [← hcontinues]
    by_cases hnil : rest = []
    · subst hnil
      rw [insert_singleton, continues_nil_iff, Bool.not_eq_true, Bool.not_eq_true']
    · rw [insert_cons hnil, continues_iff_of_ne_nil hnil]
      exact ih hchildren hnil

theorem add_eq_self (h : b.Tidy) (hmem : path ∈ b.paths) : b.add path = b := by
  induction path generalizing b with
  | nil => rfl
  | cons e rest ih =>
    obtain ⟨n, hn, he, hrest⟩ := cons_mem_paths.mp hmem
    have hchild : b.child? e = some n := h.child?_eq_some_iff.mpr ⟨hn, he⟩
    have hold : b.childOrNew e = n := by rw [Branches.childOrNew, hchild]; rfl
    by_cases hnil : rest = []
    · subst hnil
      have hsame : ({ n with isEnd := true } : Branch) = n := by
        rw [← continues_nil_iff.mp hrest]
        cases n
        rfl
      rw [Branches.add, insert_singleton, hold, hsame, setChild_eq_self hchild]
    · have hsame : ({ n with children := n.children.add rest } : Branch) = n := by
        rw [ih (h.children hn) ((continues_iff_of_ne_nil hnil).mp hrest)]
        cases n
        rfl
      rw [Branches.add, insert_cons hnil, hold, hsame, setChild_eq_self hchild]

/-! ## Listing -/

theorem nodup_paths (h : b.Tidy) : b.paths.Nodup := by
  induction b using Branches.induction with
  | step b ih =>
    rw [paths_eq_flatMap, List.nodup_flatMap]
    refine ⟨fun n hn => ?_, ?_⟩
    · obtain ⟨element, isEnd, children⟩ := n
      have hbelow : (children.paths.map (element :: ·)).Nodup :=
        (ih _ hn (h.children hn)).map fun _ _ heq => (List.cons.inj heq).2
      rw [Branch.paths]
      cases isEnd with
      | false => exact hbelow
      | true =>
        refine List.nodup_cons.mpr ⟨fun hmem => ?_, hbelow⟩
        obtain ⟨rest, hrest, heq⟩ := List.mem_map.mp hmem
        exact ne_nil_of_mem_paths hrest (List.cons.inj heq).2
    · refine (List.pairwise_map.mp h.nodup_elements).imp fun hne path hpath hpath' => hne ?_
      obtain ⟨_, rfl, -⟩ := Branch.mem_paths.mp hpath
      obtain ⟨_, heq, -⟩ := Branch.mem_paths.mp hpath'
      exact (List.cons.inj heq).1

end Tidy

theorem pairwise_le_rules (separator : Char) (b : Branches) :
    (b.rules separator).Pairwise (· ≤ ·) := by
  have hsorted : (b.rules separator).Pairwise fun s t => decide (s ≤ t) = true := by
    refine List.pairwise_mergeSort (fun s t u hst htu => ?_) (fun s t => ?_) _
    · simpa using String.le_trans (by simpa using hst) (by simpa using htu)
    · simpa using String.le_total s t
  exact hsorted.imp of_decide_eq_true

theorem perm_rules (separator : Char) (b : Branches) :
    (b.rules separator).Perm (b.paths.map fun path => Namespace.text ⟨separator, path⟩) :=
  List.mergeSort_perm _ _

theorem Tidy.rules_congr {b' : Branches} (h : b.Tidy) (h' : b'.Tidy)
    (hpaths : ∀ path, path ∈ b.paths ↔ path ∈ b'.paths) (separator : Char) :
    b.rules separator = b'.rules separator := by
  have hperm : b.paths.Perm b'.paths :=
    (List.perm_ext_iff_of_nodup h.nodup_paths h'.nodup_paths).mpr hpaths
  refine List.Perm.eq_of_pairwise (fun s t _ _ => String.le_antisymm) (pairwise_le_rules _ _)
    (pairwise_le_rules _ _) ?_
  exact ((perm_rules separator b).trans (hperm.map _)).trans (perm_rules separator b').symm

end Branches

end Telemetry
