import Mathlib.Data.List.Perm.Basic
import Telemetry.Proofs.Rule.Resolution

/-!
# The order of the rules

Whether a rule is accepted depends on the rules that were accepted before one by one
(`addRule_eq_ok_iff_conflicts`). A list of rules is therefore accepted completely exactly if no two
of them conflict and none conflicts with what was there (`foldlM_addRule_eq_ok_iff`), which is the
same for every order of the list; and the tree then has the same paths in every order.

* `Definitions.Usable`: a text that denotes a possible definition.
* `Definitions.addRule_order_independent`: both along every run of the definitions.
-/

namespace Telemetry.Definitions

open Branches

variable {d d' : Definitions} {options : DefinitionOptions} {text : String}
  {texts texts' : List String} {path : List Element} {paths : List (List Element)}

/-- The text denotes the path, and the path can be a definition on its own. -/
def Usable (options : DefinitionOptions) (text : String) (path : List Element) : Prop :=
  Namespace.parse options.separator false text = .ok ⟨options.separator, path⟩ ∧
    flaw? options path = none

/-! ## One rule -/

theorem addRule_eq_ok_iff_conflicts (h : d.WellFormed) :
    d.addRule text = .ok d' ↔ ∃ path, Usable d.options text path ∧
      (∀ rule ∈ d.branches.paths, ¬ Conflicts d.options.anyLevel path rule) ∧
        d' = { d with branches := d.branches.add path } := by
  rw [addRule_eq_ok_iff]
  constructor
  · rintro ⟨⟨separator, path⟩, hparse, hflaw, hconflict, hd⟩
    obtain rfl : separator = d.options.separator := Namespace.separator_of_parse hparse
    refine ⟨path, ⟨hparse, hflaw⟩, ?_, hd⟩
    exact (conflict?_eq_none_iff h.unambiguous 0 (ne_nil_of_flaw?_eq_none hflaw)
      (elements_of_flaw?_eq_none hflaw)).mp hconflict
  · rintro ⟨path, ⟨hparse, hflaw⟩, hfree, hd⟩
    refine ⟨⟨d.options.separator, path⟩, hparse, hflaw, ?_, hd⟩
    exact (conflict?_eq_none_iff h.unambiguous 0 (ne_nil_of_flaw?_eq_none hflaw)
      (elements_of_flaw?_eq_none hflaw)).mpr hfree

theorem ne_nil_of_usable (h : List.Forall₂ (Usable options) texts paths) :
    ∀ path ∈ paths, path ≠ [] := by
  induction h with
  | nil => simp
  | cons husable _ ih =>
    rw [List.forall_mem_cons]
    exact ⟨ne_nil_of_flaw?_eq_none husable.2, ih⟩

/-! ## A list of rules -/

theorem WellFormed.addRules (h : d.WellFormed)
    (hadd : texts.foldlM Definitions.addRule d = .ok d') : d'.WellFormed := by
  induction texts generalizing d with
  | nil =>
    cases hadd
    exact h
  | cons text texts ih =>
    rw [List.foldlM_cons] at hadd
    cases hfirst : d.addRule text with
    | error e =>
      rw [hfirst] at hadd
      cases hadd
    | ok first =>
      rw [hfirst] at hadd
      exact ih (h.addRule hfirst) hadd

theorem foldlM_addRule_eq_ok_iff (h : d.WellFormed) :
    texts.foldlM addRule d = .ok d' ↔ ∃ paths, List.Forall₂ (Usable d.options) texts paths ∧
      paths.Pairwise (fun path path' => ¬ Conflicts d.options.anyLevel path path') ∧
      (∀ path ∈ paths, ∀ rule ∈ d.branches.paths, ¬ Conflicts d.options.anyLevel path rule) ∧
        d' = { d with branches := paths.foldl Branches.add d.branches } := by
  induction texts generalizing d with
  | nil => simp [pure, Except.pure, eq_comm]
  | cons text texts ih =>
    rw [List.foldlM_cons]
    constructor
    · intro hadd
      cases hfirst : d.addRule text with
      | error e =>
        rw [hfirst] at hadd
        cases hadd
      | ok first =>
        rw [hfirst] at hadd
        obtain ⟨paths, husable, hpairwise, hfree, rfl⟩ := (ih (h.addRule hfirst)).mp hadd
        obtain ⟨path, hpath, hfreePath, rfl⟩ := (addRule_eq_ok_iff_conflicts h).mp hfirst
        have hne := ne_nil_of_flaw?_eq_none hpath.2
        simp only [h.unambiguous.tidy.mem_paths_add hne, forall_eq_or_imp] at hfree
        refine ⟨path :: paths, .cons hpath husable, ?_, ?_, rfl⟩
        · exact List.pairwise_cons.mpr
            ⟨fun other hother => mt Conflicts.symm (hfree other hother).1, hpairwise⟩
        · exact List.forall_mem_cons.mpr ⟨hfreePath, fun other hother => (hfree other hother).2⟩
    · rintro ⟨_ | ⟨path, paths⟩, husable, hpairwise, hfree, rfl⟩
      · cases husable
      · obtain ⟨hpath, husable⟩ := List.forall₂_cons.mp husable
        obtain ⟨hfreePath, hfree⟩ := List.forall_mem_cons.mp hfree
        obtain ⟨hfirst, hpairwise⟩ := List.pairwise_cons.mp hpairwise
        have hne := ne_nil_of_flaw?_eq_none hpath.2
        have hadd := (addRule_eq_ok_iff_conflicts h).mpr ⟨path, hpath, hfreePath, rfl⟩
        rw [hadd]
        refine (ih (h.addRule hadd)).mpr ⟨paths, husable, hpairwise, fun other hother => ?_, rfl⟩
        simp only [h.unambiguous.tidy.mem_paths_add hne, forall_eq_or_imp]
        exact ⟨mt Conflicts.symm (hfirst other hother), hfree other hother⟩

theorem foldlM_addRule_perm (h : d.WellFormed) (hperm : texts.Perm texts')
    (hadd : texts.foldlM addRule d = .ok d') : ∃ d'', texts'.foldlM addRule d = .ok d'' ∧
      d''.listRules = d'.listRules ∧ ∀ ns, d''.resolve ns = d'.resolve ns := by
  obtain ⟨paths, husable, hpairwise, hfree, rfl⟩ := (foldlM_addRule_eq_ok_iff h).mp hadd
  obtain ⟨paths', husable', hpaths⟩ := List.perm_comp_forall₂ hperm.symm husable
  have hadd' := (foldlM_addRule_eq_ok_iff h).mpr ⟨paths', husable',
    (hpaths.pairwise_iff (mt Conflicts.symm)).mpr hpairwise,
    fun path hpath => hfree path (hpaths.mem_iff.mp hpath), rfl⟩
  have hwell := h.addRules hadd
  have hwell' := h.addRules hadd'
  have hmem : ∀ path, path ∈ (paths'.foldl Branches.add d.branches).paths ↔
      path ∈ (paths.foldl Branches.add d.branches).paths := fun path => by
    rw [h.unambiguous.tidy.mem_paths_foldl_add (ne_nil_of_usable husable'),
      h.unambiguous.tidy.mem_paths_foldl_add (ne_nil_of_usable husable), hpaths.mem_iff]
  exact ⟨_, hadd', hwell'.unambiguous.tidy.rules_congr hwell.unambiguous.tidy hmem _,
    resolve_congr hwell' hwell rfl hmem⟩

/-! ## Along a history -/

/-- **A rule is accepted exactly if it can be read, is usable and conflicts with no accepted rule**,
and since conflicts are symmetric, a list of rules is accepted in every order or in none. -/
theorem addRule_order_independent (options : DefinitionOptions) (changes : List Change)
    (hchanges : ∀ c ∈ changes, Change.Keeps options.separator c) :
    let h := (History.start options).run changes
    (∀ text, (∃ d, h.definitions.addRule text = .ok d) ↔
      ∃ path, Usable h.definitions.options text path ∧ ∀ text' rule, h.HasRule text' rule →
        ¬ Conflicts h.definitions.options.anyLevel path rule) ∧
    (∀ anyLevel path path', Conflicts anyLevel path path' → Conflicts anyLevel path' path) ∧
    ∀ (texts texts' : List String) d, texts.Perm texts' → texts.foldlM addRule h.definitions = .ok d →
      ∃ d', texts'.foldlM addRule h.definitions = .ok d' ∧
        d'.listRules = d.listRules ∧ ∀ ns, d'.resolve ns = d.resolve ns := by
  intro h
  have hs : h.Sound options.separator := (History.sound_start options).run hchanges
  refine ⟨fun text => ?_, fun _ _ _ => Conflicts.symm,
    fun texts texts' d => foldlM_addRule_perm hs.wellFormed⟩
  simp only [addRule_eq_ok_iff_conflicts hs.wellFormed, hs.mem_paths]
  constructor
  · rintro ⟨d, path, husable, hfree, -⟩
    exact ⟨path, husable, fun text' rule hrule => hfree rule ⟨text', hrule⟩⟩
  · rintro ⟨path, husable, hfree⟩
    exact ⟨_, path, husable, fun rule ⟨text', hrule⟩ => hfree text' rule hrule, rfl⟩

/-- A rule and one that goes on behind it are accepted in both orders, beside what was there. -/
theorem addRule_reordered :
    let changes : List Change := [.addRule "/p/[g]/m", .setOptions { anyLevel := true }]
    let d := ((History.start {}).run changes).definitions
    (∀ c ∈ changes, Change.Keeps '/' c) ∧ ∃ d', ["/q/m/n", "/q/m"].foldlM addRule d = .ok d' ∧
      d'.resolve ⟨'/', [.name "q", .name "m", .name "n"]⟩ = some [none, none, none] := by
  intro changes d
  have hchanges : ∀ c ∈ changes, Change.Keeps '/' c := by decide
  let rules : List (List Element) := [[.name "q", .name "m"], [.name "q", .name "m", .name "n"]]
  have hadd : ["/q/m", "/q/m/n"].foldlM addRule d =
      .ok { d with branches := rules.foldl Branches.add d.branches } := rfl
  obtain ⟨d', hadd', -, hresolve⟩ :=
    (addRule_order_independent {} changes hchanges).2.2 _ _ _ (.swap "/q/m/n" "/q/m" []) hadd
  exact ⟨hchanges, d', hadd', by rw [hresolve]; rfl⟩

end Telemetry.Definitions
