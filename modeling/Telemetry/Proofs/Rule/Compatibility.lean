import Telemetry.Proofs.Namespace.Decomposition
import Telemetry.Proofs.Rule.Admission
import Telemetry.Proofs.Rule.Completion

/-!
# Filters that can match a definition

A filter is kept if it can match some metric. The search for one branches wherever several children
of a node could stand at a position; it comes to the same as comparing the filter with every
definition on its own, position by position up to a trailing `**` (`meetsFilter_iff_suited`). A
filter that asks for a metric which resolves is therefore always kept: the metric follows a
definition, and what asks for an element of the metric suits the element of the definition there
(`Suited.of_instantiates`).

The separator may change between the definitions. What counts is how each of them was read when it
was accepted.

* `Element.Suits`, `Definitions.Suited`: a filter beside one definition.
* `Element.AsksFor`, `Definitions.AsksFor`: a filter beside a metric that resolves.
* `Definitions.History.Accepts`: the definitions that are accepted along a run.
-/

namespace Telemetry

variable {e f c : Element} {front rest rule path elements filter : List Element}

/-! ## One position -/

/-- What a filter may have at a position of a definition: beside a group, a static element or one of
this group, and beside a name, a static element that admits the name. -/
structure Element.Suits (f c : Element) : Prop where
  group : ∀ g, c = .group g → f.isDynamic = false ∨ f.groupName? = some g
  name : ∀ v, c = .name v → f.isDynamic = false ∧ f.admits c = true

/-- A static element of a filter asks for an element that it admits, and a dynamic one for what is
bound to its group. -/
def Element.AsksFor (f e : Element) (group? : Option String) : Prop :=
  (f.isDynamic = false ∧ f.admits e = true) ∨ (f.isDynamic = true ∧ f.groupName? = group?)

theorem Element.isDynamic_eq_false_iff : f.isDynamic = false ↔ f.groupName? = none := by
  cases f <;> simp [isDynamic, groupName?]

namespace Definitions

theorem overlaps_eq_true_iff_suits (hc : isDefinitionElement c = true) :
    overlaps f c = true ↔ f.Suits c := by
  cases c with
  | name v =>
    simp only [overlaps, Bool.and_eq_true, Bool.not_eq_true']
    exact ⟨fun h => ⟨nofun, fun _ _ => h⟩, fun h => h.name v rfl⟩
  | group g =>
    rw [overlaps, Option.all_eq_true]
    constructor
    · refine fun h => ⟨fun g' hg' => ?_, nofun⟩
      cases hg'
      cases hf : f.groupName? with
      | none => exact .inl (Element.isDynamic_eq_false_iff.mpr hf)
      | some g' => exact .inr (congrArg some (beq_iff_eq.mp (h g' hf)))
    · intro h g' hg'
      rcases h.group g rfl with hstatic | hsame
      · rw [Element.isDynamic_eq_false_iff.mp hstatic] at hg'
        cases hg'
      · rw [hsame] at hg'
        exact beq_iff_eq.mpr (Option.some.inj hg').symm
  | _ => cases hc

/-! ## One definition -/

/-- The definition is at least as long as the filter, and every element of the filter suits the one
at its position. -/
def Suited (front rule : List Element) : Prop :=
  front.length ≤ rule.length ∧
    ∀ (i : Nat) f c, front[i]? = some f → rule[i]? = some c → f.Suits c

theorem suited_nil : Suited [] rule := ⟨Nat.zero_le _, nofun⟩

theorem not_suited_cons_nil : ¬ Suited (f :: front) [] := fun h => nomatch h.1

theorem suited_cons_cons : Suited (f :: front) (c :: rule) ↔ f.Suits c ∧ Suited front rule := by
  constructor
  · rintro ⟨hlength, hall⟩
    exact ⟨hall 0 f c rfl rfl, Nat.le_of_succ_le_succ hlength, fun i => hall (i + 1)⟩
  · rintro ⟨hfirst, hlength, hall⟩
    refine ⟨Nat.succ_le_succ hlength, fun i f' c' hf' hc' => ?_⟩
    cases i with
    | zero =>
      cases hf'
      cases hc'
      exact hfirst
    | succ i => exact hall i f' c' hf' hc'

/-! ## The search -/

open Branches Namespace

variable {b : Branches} {n : Branch}

theorem meets_cons (hf : f ≠ .trailing) : meets b (f :: filter) = true ↔
    ∃ m ∈ b.nodes, overlaps f m.element = true ∧ meets m.children filter = true := by
  rw [meets.eq_3 _ _ _ hf, List.any_eq_true]
  simp only [Bool.and_eq_true]

/-- **Below a node, the search finds a definition exactly if the filter suits one of those that pass
through the node.** -/
theorem meets_eq_true_iff_suited (h : n.children.Unambiguous) (hlive : n.Live)
    (hlast : TrailingLast filter) : meets n.children filter = true ↔
      ∃ rest, n.Continues rest ∧ Suited (required filter) rest := by
  induction filter generalizing n with
  | nil =>
    obtain ⟨rest, hrest⟩ := hlive.goesOn
    exact iff_of_true rfl ⟨rest, hrest, suited_nil⟩
  | cons f filter ih =>
    by_cases htrailing : f = .trailing
    · subst htrailing
      obtain rfl := hlast.eq_nil
      obtain ⟨rest, hrest⟩ := hlive.goesOn
      exact iff_of_true rfl ⟨rest, hrest, suited_nil⟩
    · have hmeets : meets n.children (f :: filter) = true ↔ ∃ m ∈ n.children.nodes,
          f.Suits m.element ∧ ∃ rest, m.Continues rest ∧ Suited (required filter) rest := by
        rw [meets_cons htrailing]
        refine exists_congr fun m => and_congr_right fun hm => ?_
        rw [overlaps_eq_true_iff_suits (h.element hm),
          ih (h.children hm) (h.tidy.live hm) hlast.of_cons]
      rw [hmeets, required_cons htrailing]
      constructor
      · rintro ⟨m, hm, hsuits, rest, hrest, hbelow⟩
        exact ⟨m.element :: rest, .inr (cons_mem_paths.mpr ⟨m, hm, rfl, hrest⟩),
          suited_cons_cons.mpr ⟨hsuits, hbelow⟩⟩
      · rintro ⟨_ | ⟨c, rest⟩, hrest, hsuited⟩
        · exact absurd hsuited not_suited_cons_nil
        · obtain ⟨m, hm, rfl, hcontinues⟩ := cons_mem_paths.mp (hrest.resolve_left nofun)
          obtain ⟨hsuits, hbelow⟩ := suited_cons_cons.mp hsuited
          exact ⟨m, hm, hsuits, rest, hcontinues, hbelow⟩

/-- The part of a filter that is compared with the definitions. -/
def compared (options : DefinitionOptions) (filter : List Element) : List Element :=
  if options.undefinedMetrics then filter.take 1 else filter

variable {d : Definitions} {ns : Namespace}

theorem trailingLast_compared (options : DefinitionOptions) (h : TrailingLast filter) :
    TrailingLast (compared options filter) := by
  unfold compared
  split_ifs
  · exact h.of_infix (List.take_prefix 1 filter).isInfix
  · exact h

theorem length_compared (options : DefinitionOptions) (h : options.undefinedMetrics = true) :
    (required (compared options filter)).length ≤ 1 := by
  rw [compared, if_pos h]
  cases filter with
  | nil => simp [required]
  | cons f filter =>
    unfold required
    split_ifs <;> simp

theorem meetsFilter_iff_mem_paths (h : d.WellFormed) (hrules : d.hasRules = true)
    (hlast : TrailingLast (compared d.options ns.elements)) : d.meetsFilter ns = true ↔
      ∃ rule ∈ d.branches.paths, Suited (required (compared d.options ns.elements)) rule := by
  have hne : d.branches.isEmpty = false := by simpa [hasRules] using hrules
  have hmeets := meets_eq_true_iff_suited (n := d.branches.root) h.unambiguous
    (h.unambiguous.tidy.live_root hne) hlast
  simp only [continues_root] at hmeets
  rw [meetsFilter, hrules, Bool.not_true, Bool.false_or]
  exact hmeets

/-! ## Metrics that resolve -/

/-- The beginning of a filter asks for a metric that resolves: each of its elements does so for the
element at its position, with the group that this one is bound to. -/
def AsksFor (front elements : List Element) (r : Resolution) : Prop :=
  front.length ≤ elements.length ∧
    ∀ (i : Nat) f e, front[i]? = some f → elements[i]? = some e → f.AsksFor e (r.groupAt i)

theorem AsksFor.first {r : Resolution} (h : AsksFor front elements r) (hshort : front.length ≤ 1)
    (he : elements.head? = some e) : AsksFor front [e] [r.groupAt 0] := by
  refine ⟨hshort, fun i f e' hf he' => ?_⟩
  cases i with
  | zero =>
    cases he'
    exact h.2 0 f e hf (by rwa [← List.head?_eq_getElem?])
  | succ i => cases he'

theorem suits_of_instantiates (he : e.Instantiates c) (h : f.AsksFor e c.groupName?) :
    f.Suits c := by
  refine ⟨fun g hg => h.imp And.left (hg ▸ And.right), fun v hv => ?_⟩
  subst hv
  cases he
  rcases h with hstatic | ⟨hdynamic, hnone⟩
  · exact hstatic
  · rw [Element.isDynamic_eq_false_iff.mpr hnone] at hdynamic
    cases hdynamic

theorem Suited.of_instantiates (hinst : List.Forall₂ Element.Instantiates elements path)
    (hbegins : path <+: rule)
    (h : AsksFor front elements (path.map Element.groupName?)) : Suited front rule := by
  obtain ⟨hfront, hasks⟩ := h
  obtain ⟨behind, rfl⟩ := hbegins
  have hlength := hinst.length_eq
  refine ⟨by rw [List.length_append]; omega, fun i f c hf hc => ?_⟩
  obtain ⟨hi, -⟩ := List.getElem?_eq_some_iff.mp hf
  have hpath : i < path.length := by omega
  rw [List.getElem?_append_left hpath] at hc
  have he : elements[i]? = some elements[i] := List.getElem?_eq_getElem (by omega)
  have hgroup : Resolution.groupAt (path.map Element.groupName?) i = c.groupName? := by
    rw [Resolution.groupAt, List.getElem?_map, hc, Option.map_some, Option.join_some]
  have hfollows : elements[i].Instantiates c := by
    obtain ⟨_, rfl⟩ := List.getElem?_eq_some_iff.mp hc
    exact hinst.get (by omega) hpath
  exact suits_of_instantiates hfollows (hgroup ▸ hasks i f _ hf he)

theorem exists_suited_of_resolve (h : d.WellFormed) (hrules : d.hasRules = true) {r : Resolution}
    (hresolve : d.resolve ns = some r) (hfront : AsksFor front ns.elements r)
    (hshort : d.options.undefinedMetrics = true → front.length ≤ 1) :
    ∃ rule ∈ d.branches.paths, Suited front rule := by
  simp only [resolve, hrules, Bool.not_true, Bool.false_eq_true, if_false] at hresolve
  rcases Option.or_eq_some_iff.mp hresolve with hrule | ⟨-, hundefined⟩
  · obtain ⟨path, hpath, hinst, rfl⟩ := (resolveFrom_eq_some_iff h.unambiguous false).mp hrule
    obtain ⟨rule, hmem, hbegins⟩ : ∃ rule ∈ d.branches.paths, path <+: rule := by
      rcases hpath with ⟨rfl, -⟩ | hoffer
      · have hne : d.branches.isEmpty = false := by simpa [hasRules] using hrules
        obtain ⟨rule, hmem⟩ := h.unambiguous.tidy.exists_mem_paths hne
        exact ⟨rule, hmem, List.nil_prefix⟩
      · exact hoffer.isPrefix
    exact ⟨rule, hmem, .of_instantiates hinst hbegins hfront⟩
  · rw [Option.ite_none_right_eq_some, acceptsUndefined, Bool.and_eq_true] at hundefined
    obtain ⟨⟨hallowed, hfirst⟩, hr⟩ := hundefined
    obtain ⟨e, he, hfollow⟩ := (Option.any_eq_true _ _).mp hfirst
    obtain ⟨c, rest, hmem, hinst⟩ := (follow?_isSome_iff h.unambiguous).mp hfollow
    have hname : c.isName = true := by simpa using h.head _ hmem
    have hnone : c.groupName? = none := by cases c <;> simp_all [Element.isName, Element.groupName?]
    have hunbound : r.groupAt 0 = c.groupName? := by
      rw [hnone, ← Option.some.inj hr]
      cases ns.elements <;> rfl
    have hasks : AsksFor front [e] [c.groupName?] :=
      hunbound ▸ hfront.first (hshort hallowed) he
    exact ⟨c :: rest, hmem, .of_instantiates (.cons hinst .nil) (by simp) hasks⟩

/-! ## Along a history -/

namespace History

/-- The change adds a rule that is accepted, and read as the path when it comes. -/
def Adds (h : History) (path : List Element) : Change → Prop
  | .setOptions _ => False
  | .addRule text =>
    ∃ ns d, h.definitions.parse text = .ok ns ∧ h.definitions.addRule text = .ok d ∧
      path = ns.elements

/-- Some of the changes, made one after the other, adds a rule that is read as the path. -/
def Accepts (h : History) (path : List Element) : List Change → Prop
  | [] => False
  | change :: changes => h.Adds path change ∨ (h.step change).Accepts path changes

variable {h : History} {changes : List Change}

theorem mem_paths_step (hd : h.definitions.Completable) (change : Change) :
    path ∈ (h.step change).definitions.branches.paths ↔
      path ∈ h.definitions.branches.paths ∨ h.Adds path change := by
  cases change with
  | setOptions options => exact (or_iff_left id).symm
  | addRule text =>
    cases hadd : h.definitions.addRule text with
    | error e => simp [step, Adds, hadd]
    | ok d =>
      obtain ⟨ns, hread, hflaw, -, rfl⟩ := addRule_eq_ok_iff.mp hadd
      simp only [step, Adds, hadd, hread]
      rw [hd.wellFormed.unambiguous.tidy.mem_paths_add (ne_nil_of_flaw?_eq_none hflaw), or_comm]
      simp

theorem mem_paths_run (hd : h.definitions.Completable) :
    path ∈ (h.run changes).definitions.branches.paths ↔
      path ∈ h.definitions.branches.paths ∨ h.Accepts path changes := by
  induction changes generalizing h with
  | nil => exact (or_iff_left id).symm
  | cons change changes ih =>
    have hrun : h.run (change :: changes) = (h.step change).run changes := rfl
    rw [hrun, ih (hd.step change), mem_paths_step hd, or_assoc]
    rfl

end History

/-- **A filter is kept exactly if it suits a definition that was accepted**, or the beginning of one
with its first element where undefined metrics are accepted. So it is kept whenever it asks for a
metric that resolves. -/
theorem meetsFilter_iff_suited (options : DefinitionOptions) (changes : List Change)
    {separator : Char} {text : String} {filter : Namespace}
    (hread : Namespace.parse separator true text = .ok filter) :
    let d := ((History.start options).run changes).definitions
    let front := required (compared d.options filter.elements)
    d.hasRules = true →
      (d.meetsFilter filter = true ↔
        ∃ rule, (History.start options).Accepts rule changes ∧ Suited front rule) ∧
      ∀ (ns : Namespace) r, d.resolve ns = some r → AsksFor front ns.elements r →
        d.meetsFilter filter = true := by
  intro d front hrules
  have hd : d.WellFormed := ((completable_empty options).run changes).wellFormed
  have hlast : TrailingLast (compared d.options filter.elements) :=
    trailingLast_compared d.options (trailingLast_of_parse hread)
  have hpaths : ∀ rule, rule ∈ d.branches.paths ↔ (History.start options).Accepts rule changes :=
    fun rule => (History.mem_paths_run (completable_empty options)).trans
      (or_iff_right not_mem_paths_empty)
  have hmeets : d.meetsFilter filter = true ↔
      ∃ rule, (History.start options).Accepts rule changes ∧ Suited front rule := by
    rw [meetsFilter_iff_mem_paths hd hrules hlast]
    simp only [hpaths, front]
  refine ⟨hmeets, fun ns r hresolve hfront => ?_⟩
  rw [meetsFilter_iff_mem_paths hd hrules hlast]
  exact exists_suited_of_resolve hd hrules hresolve hfront (length_compared d.options)

/-- The `*` crosses to the only definition with the group, which came with another separator; beside
the other definition the group does not suit. -/
theorem meetsFilter_iff_suited_crossing :
    let changes : List Change :=
      [.addRule "/p/a/[g]/m", .setOptions { separator := ':' }, .addRule ":p:b:[h]:m"]
    let d := ((History.start {}).run changes).definitions
    Namespace.parse '/' true "/p/*/[h=v]/**" =
      .ok ⟨'/', [.name "p", .wildcard, .bound "h" "v", .trailing]⟩ ∧
    Namespace.parse '/' true "/p/a/[h]" = .ok ⟨'/', [.name "p", .name "a", .group "h"]⟩ ∧
    d.hasRules = true ∧
    d.meetsFilter ⟨'/', [.name "p", .wildcard, .bound "h" "v", .trailing]⟩ = true ∧
    ¬ ∃ rule, (History.start {}).Accepts rule changes ∧
      Suited [.name "p", .name "a", .group "h"] rule := by
  intro changes d
  have hcrossing : Namespace.parse '/' true "/p/*/[h=v]/**" =
      .ok ⟨'/', [.name "p", .wildcard, .bound "h" "v", .trailing]⟩ := rfl
  have hbeside : Namespace.parse '/' true "/p/a/[h]" =
      .ok ⟨'/', [.name "p", .name "a", .group "h"]⟩ := rfl
  have hrules : d.hasRules = true := rfl
  refine ⟨hcrossing, hbeside, hrules, ?_, ?_⟩
  · refine (meetsFilter_iff_suited {} changes hcrossing hrules).2
      ⟨'/', [.name "p", .name "b", .name "v", .name "m"]⟩ [none, none, some "h", none] rfl ?_
    refine ⟨by decide, fun i f e hf he => ?_⟩
    match i with
    | 0 | 1 =>
      cases hf
      cases he
      exact .inl ⟨rfl, rfl⟩
    | 2 =>
      cases hf
      cases he
      exact .inr ⟨rfl, rfl⟩
    | _ + 3 => cases hf
  · exact mt (meetsFilter_iff_suited {} changes hbeside hrules).1.mpr (Bool.eq_false_iff.mp rfl)

end Definitions

end Telemetry
