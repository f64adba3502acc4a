import Mathlib.Data.List.Forall2
import Telemetry.Proofs.Rule.History

/-!
# What a metric resolves to

A metric instantiates the path of a rule if it has a name where the rule has that name, and a value
where the rule has a group. Resolving a metric finds the path that it instantiates
(`resolveFrom_eq_some_iff`), and since rules never part at a group there is only one
(`eq_of_instantiates`).

* `Element.Instantiates`: an element of a metric at a position of a rule.
* `Branches.Offers`: the paths that metrics can instantiate.
* `Definitions.resolve_iff_instantiates`: resolution along every run of the definitions.
-/

namespace Telemetry

variable {e defined : Element} {elements path path' rule rule' : List Element} {anyLevel : Bool}

/-- A name stands for itself, and a group for any value, bare or bound to that group. -/
inductive Element.Instantiates : Element → Element → Prop where
  | name (v : String) : Instantiates (.name v) (.name v)
  | value (v g : String) : Instantiates (.name v) (.group g)
  | bound (g v : String) : Instantiates (.bound g v) (.group g)

theorem Element.Instantiates.eq_of_static {c c' : Element} (h : e.Instantiates c)
    (h' : e.Instantiates c') (hc : c.isDynamic = false) (hc' : c'.isDynamic = false) : c = c' := by
  cases h with
  | name v =>
    cases h' with
    | name => rfl
    | value => cases hc'
  | value => cases hc
  | bound => cases hc

/-! ## At most one path -/

theorem PartAtGroup.mono (h : PartAtGroup path path') (hrule : path <+: rule)
    (hrule' : path' <+: rule') : PartAtGroup rule rule' := by
  obtain ⟨i, htake, e, he, e', he', hne, hdynamic⟩ := h
  obtain ⟨hi, -⟩ := List.getElem?_eq_some_iff.mp he
  obtain ⟨hi', -⟩ := List.getElem?_eq_some_iff.mp he'
  obtain ⟨rest, rfl⟩ := hrule
  obtain ⟨rest', rfl⟩ := hrule'
  refine ⟨i, ?_, e, ?_, e', ?_, hne, hdynamic⟩
  · rw [List.take_append_of_le_length (Nat.le_of_lt hi),
      List.take_append_of_le_length (Nat.le_of_lt hi'), htake]
  · rwa [List.getElem?_append_left hi]
  · rwa [List.getElem?_append_left hi']

theorem eq_of_instantiates (h : List.Forall₂ Element.Instantiates elements path)
    (h' : List.Forall₂ Element.Instantiates elements path') (hpart : ¬ PartAtGroup path path') :
    path = path' := by
  induction h generalizing path' with
  | nil =>
    cases h'
    rfl
  | @cons e c elements path he _ ih =>
    cases h' with
    | @cons _ c' _ path' he' hrest =>
      by_cases hc : c = c'
      · subst hc
        rw [ih hrest (mt partAtGroup_cons_self.mpr hpart)]
      · rw [partAtGroup_cons_of_ne hc, not_or, Bool.not_eq_true, Bool.not_eq_true] at hpart
        exact absurd (he.eq_of_static he' hpart.1 hpart.2) hc

/-! ## Following one element -/

namespace Branches

variable {b : Branches} {n m : Branch} {isEnd : Bool}

theorem Unambiguous.eq_of_element_instantiates (h : b.Unambiguous) (hn : n ∈ b.nodes)
    (hm : m ∈ b.nodes) (hen : e.Instantiates n.element) (hem : e.Instantiates m.element) :
    n = m := by
  refine h.tidy.eq_of_element_eq hn hm ?_
  by_cases hdn : n.element.isDynamic = true
  · exact (h.element_eq_of_isDynamic hn hm hdn).symm
  · by_cases hdm : m.element.isDynamic = true
    · exact h.element_eq_of_isDynamic hm hn hdm
    · exact hen.eq_of_static hem (by simpa using hdn) (by simpa using hdm)

/-! ## Paths on offer -/

/-- The path is a rule of the tree, or, where metrics may end on any level, a beginning of one. -/
def Offers (anyLevel : Bool) (b : Branches) (path : List Element) : Prop :=
  ∃ rule ∈ b.paths, path = rule ∨ (anyLevel = true ∧ path ≠ [] ∧ path <+: rule)

theorem Offers.isPrefix (h : b.Offers anyLevel path) : ∃ rule ∈ b.paths, path <+: rule := by
  obtain ⟨rule, hrule, rfl | ⟨-, -, hprefix⟩⟩ := h
  · exact ⟨path, hrule, List.prefix_rfl⟩
  · exact ⟨rule, hrule, hprefix⟩

theorem Offers.ne_nil (h : b.Offers anyLevel path) : path ≠ [] := by
  obtain ⟨rule, hrule, rfl | ⟨-, hne, -⟩⟩ := h
  · exact ne_nil_of_mem_paths hrule
  · exact hne

theorem Unambiguous.not_part_of_offers (h : b.Unambiguous) (hpath : b.Offers anyLevel path)
    (hpath' : b.Offers anyLevel path') : ¬ PartAtGroup path path' := by
  obtain ⟨rule, hrule, hprefix⟩ := hpath.isPrefix
  obtain ⟨rule', hrule', hprefix'⟩ := hpath'.isPrefix
  exact fun hpart => h.not_part rule hrule rule' hrule' (hpart.mono hprefix hprefix')

/-- A node offers to end at it, or to go on with what its children offer. -/
theorem offers_cons_iff (h : b.Tidy) :
    b.Offers anyLevel (e :: path) ↔ ∃ n ∈ b.nodes, n.element = e ∧
      ((path = [] ∧ (n.isEnd = true ∨ anyLevel = true)) ∨ n.children.Offers anyLevel path) := by
  constructor
  · rintro ⟨rule, hrule, rfl | ⟨hlevel, -, hprefix⟩⟩
    · obtain ⟨n, hn, he, ⟨rfl, hend⟩ | hrest⟩ := cons_mem_paths.mp hrule
      · exact ⟨n, hn, he, .inl ⟨rfl, .inl hend⟩⟩
      · exact ⟨n, hn, he, .inr ⟨path, hrest, .inl rfl⟩⟩
    · obtain ⟨n, hn, rest, rfl, hrest⟩ := mem_paths_iff.mp hrule
      obtain ⟨rfl, hbelow⟩ := List.cons_prefix_cons.mp hprefix
      refine ⟨n, hn, rfl, ?_⟩
      by_cases hnil : path = []
      · exact .inl ⟨hnil, .inr hlevel⟩
      · rcases hrest with ⟨rfl, -⟩ | hrest
        · exact absurd (List.prefix_nil.mp hbelow) hnil
        · exact .inr ⟨rest, hrest, .inr ⟨hlevel, hnil, hbelow⟩⟩
  · rintro ⟨n, hn, rfl, ⟨rfl, hend | hlevel⟩ | ⟨rule, hrule, rfl | ⟨hlevel, -, hprefix⟩⟩⟩
    · exact ⟨_, cons_mem_paths.mpr ⟨n, hn, rfl, .inl ⟨rfl, hend⟩⟩, .inl rfl⟩
    · obtain ⟨rest, hrest⟩ := h.exists_continues hn
      exact ⟨_, cons_mem_paths.mpr ⟨n, hn, rfl, hrest⟩,
        .inr ⟨hlevel, List.cons_ne_nil _ _, by simp [List.cons_prefix_cons]⟩⟩
    · exact ⟨_, cons_mem_paths.mpr ⟨n, hn, rfl, .inr hrule⟩, .inl rfl⟩
    · exact ⟨_, cons_mem_paths.mpr ⟨n, hn, rfl, .inr hrule⟩,
        .inr ⟨hlevel, List.cons_ne_nil _ _, List.cons_prefix_cons.mpr ⟨rfl, hprefix⟩⟩⟩

end Branches

namespace Definitions

open Branches

variable {b : Branches} {n : Branch}

theorem admits_iff_instantiates (hdefined : isDefinitionElement defined = true)
    (hname : defined.isName = false) (hvalue : e.value?.isSome = true) :
    defined.admits e = true ↔ e.Instantiates defined := by
  cases defined with
  | group g =>
    cases e with
    | name v => exact iff_of_true rfl (.value v g)
    | bound g' v =>
      have hadmits : (Element.group g).admits (.bound g' v) = true ↔ g' = g := by
        simp [Element.admits, Element.isWildcard, Element.sameGroup, Element.groupName?]
      rw [hadmits]
      constructor
      · rintro rfl
        exact .bound g' v
      · intro h
        cases h
        rfl
    | _ => cases hvalue
  | name => cases hname
  | _ => cases hdefined

theorem pattern?_eq_some_iff_instantiates (h : b.Unambiguous) (hvalue : e.value?.isSome = true) :
    b.pattern? (·.admits e) = some n ↔
      n ∈ b.nodes ∧ n.element.isName = false ∧ e.Instantiates n.element := by
  have hadmits : ∀ m ∈ b.patterns, m.element.admits e = true ↔ e.Instantiates m.element :=
    fun m hm =>
      let ⟨hm, hname⟩ := h.tidy.mem_patterns_iff.mp hm
      admits_iff_instantiates (h.element hm) hname hvalue
  rw [Branches.pattern?_eq_some_iff, ← and_assoc, ← h.tidy.mem_patterns_iff]
  · exact and_congr_right fun hn => hadmits n hn
  · intro n hn m hm hen hem
    exact h.eq_of_element_instantiates (h.tidy.mem_patterns_iff.mp hn).1
      (h.tidy.mem_patterns_iff.mp hm).1 ((hadmits n hn).mp hen) ((hadmits m hm).mp hem)

theorem follow?_eq_some_iff (h : b.Unambiguous) :
    follow? b e = some n ↔ n ∈ b.nodes ∧ e.Instantiates n.element := by
  cases e with
  | name v =>
    have hgroup := pattern?_eq_some_iff_instantiates (e := .name v) (n := n) h rfl
    have hchild : b.literal? v = b.child? (.name v) := rfl
    rw [follow?, Option.or_eq_some_iff, hchild, h.tidy.child?_eq_some_iff, hgroup,
      h.tidy.child?_eq_none_iff]
    constructor
    · rintro (⟨hn, hname⟩ | ⟨-, hn, -, hinst⟩)
      · exact ⟨hn, hname ▸ .name v⟩
      · exact ⟨hn, hinst⟩
    · rintro ⟨hn, hinst⟩
      by_cases hname : n.element = .name v
      · exact .inl ⟨hn, hname⟩
      · have hnone : ∀ m ∈ b.nodes, m.element ≠ .name v := fun m hm hmv => by
          obtain rfl := h.eq_of_element_instantiates hn hm hinst (hmv ▸ .name v)
          exact hname hmv
        refine .inr ⟨hnone, hn, ?_, hinst⟩
        generalize n.element = c at hinst hname
        cases hinst with
        | name => exact absurd rfl hname
        | value => rfl
  | bound g v =>
    rw [follow?, pattern?_eq_some_iff_instantiates h rfl]
    constructor
    · rintro ⟨hn, -, hinst⟩
      exact ⟨hn, hinst⟩
    · rintro ⟨hn, hinst⟩
      refine ⟨hn, ?_, hinst⟩
      generalize n.element = c at hinst
      cases hinst
      rfl
  | _ =>
    refine iff_of_false nofun ?_
    rintro ⟨-, hinst⟩
    generalize n.element = c at hinst
    cases hinst

/-! ## Following a path -/

theorem resolveFrom_eq_some_iff (h : b.Unambiguous) (isEnd : Bool) {r : Resolution} :
    resolveFrom anyLevel isEnd b elements = some r ↔
      ∃ path, ((path = [] ∧ (isEnd = true ∨ anyLevel = true)) ∨ b.Offers anyLevel path) ∧
        List.Forall₂ Element.Instantiates elements path ∧ r = path.map Element.groupName? := by
  induction elements generalizing b isEnd r with
  | nil =>
    simp only [resolveFrom, List.forall₂_nil_left_iff, Bool.or_eq_true, Option.ite_none_right_eq_some,
      Option.some.injEq]
    constructor
    · rintro ⟨hend, rfl⟩
      exact ⟨[], .inl ⟨rfl, hend⟩, rfl, rfl⟩
    · rintro ⟨path, ⟨-, hend⟩ | hoffer, rfl, rfl⟩
      · exact ⟨hend, rfl⟩
      · exact absurd rfl hoffer.ne_nil
  | cons e elements ih =>
    rw [resolveFrom]
    constructor
    · intro hresolve
      cases hfollow : follow? b e with
      | none => simp [hfollow] at hresolve
      | some n =>
        obtain ⟨hn, hinst⟩ := (follow?_eq_some_iff h).mp hfollow
        simp only [hfollow, Option.map_eq_some_iff] at hresolve
        obtain ⟨r', hr', rfl⟩ := hresolve
        obtain ⟨path, hoffer, hrest, rfl⟩ := (ih (h.children hn) n.isEnd).mp hr'
        exact ⟨n.element :: path, .inr ((offers_cons_iff h.tidy).mpr ⟨n, hn, rfl, hoffer⟩),
          .cons hinst hrest, rfl⟩
    · rintro ⟨path, hoffer, hinst, rfl⟩
      cases hinst with
      | @cons _ c _ path hc hrest =>
        rcases hoffer with ⟨hnil, -⟩ | hoffer
        · cases hnil
        · obtain ⟨n, hn, rfl, hbelow⟩ := (offers_cons_iff h.tidy).mp hoffer
          have hfollow := (follow?_eq_some_iff h).mpr ⟨hn, hc⟩
          have hr' := (ih (h.children hn) n.isEnd).mpr ⟨path, hbelow, hrest, rfl⟩
          simp only [hfollow, hr', Option.map_some, List.map_cons]

variable {d d' : Definitions} {ns : Namespace}

theorem resolveRule_eq_some_iff (h : d.WellFormed) (hne : ns.elements ≠ []) {r : Resolution} :
    d.resolveRule ns = some r ↔ ∃ path, d.branches.Offers d.options.anyLevel path ∧
      List.Forall₂ Element.Instantiates ns.elements path ∧ r = path.map Element.groupName? := by
  rw [resolveRule, resolveFrom_eq_some_iff h.unambiguous]
  refine exists_congr fun path => ?_
  constructor
  · rintro ⟨⟨rfl, -⟩ | hoffer, hinst, hr⟩
    · exact absurd (List.forall₂_nil_right_iff.mp hinst) hne
    · exact ⟨hoffer, hinst, hr⟩
  · rintro ⟨hoffer, hinst, hr⟩
    exact ⟨.inr hoffer, hinst, hr⟩

theorem hasRules_of_offers (h : d.WellFormed)
    (hoffer : d.branches.Offers d.options.anyLevel path) : d.hasRules = true := by
  obtain ⟨rule, hrule, -⟩ := hoffer.isPrefix
  have hempty : d.branches.isEmpty ≠ true := fun hempty =>
    (h.unambiguous.tidy.isEmpty_iff).mp hempty rule hrule
  simpa [hasRules] using hempty

theorem resolve_of_instantiates (h : d.WellFormed)
    (hoffer : d.branches.Offers d.options.anyLevel path)
    (hinst : List.Forall₂ Element.Instantiates ns.elements path) :
    d.resolve ns = some (path.map Element.groupName?) := by
  have hne : ns.elements ≠ [] := by
    intro hnil
    rw [hnil, List.forall₂_nil_left_iff] at hinst
    exact hoffer.ne_nil hinst
  have hresolve := (resolveRule_eq_some_iff h hne).mpr ⟨path, hoffer, hinst, rfl⟩
  simp [resolve, hasRules_of_offers h hoffer, hresolve]

theorem isStatic_or_offers (h : d.WellFormed) (hne : ns.elements ≠ []) {r : Resolution}
    (hresolve : d.resolve ns = some r) :
    r.isStatic = true ∨ ∃ path, d.branches.Offers d.options.anyLevel path ∧
      List.Forall₂ Element.Instantiates ns.elements path ∧ r = path.map Element.groupName? := by
  have hstatic : Resolution.isStatic (ns.elements.map fun _ => none) = true := by
    simp [Resolution.isStatic]
  rw [resolve] at hresolve
  split at hresolve
  · exact .inl (Option.some.inj hresolve ▸ hstatic)
  · rcases Option.or_eq_some_iff.mp hresolve with hrule | ⟨-, hundefined⟩
    · exact .inr ((resolveRule_eq_some_iff h hne).mp hrule)
    · rw [Option.ite_none_right_eq_some] at hundefined
      exact .inl (Option.some.inj hundefined.2 ▸ hstatic)

theorem key_eq_text (hinst : List.Forall₂ Element.Instantiates ns.elements path) :
    Resolution.key (path.map Element.groupName?) ns = Namespace.text ⟨ns.separator, path⟩ := by
  obtain ⟨separator, elements⟩ := ns
  dsimp only at hinst
  rw [Resolution.key, Namespace.text, Namespace.charsOf]
  congr 1
  dsimp only
  induction hinst with
  | nil => rfl
  | cons he _ ih =>
    rw [List.map_cons, List.zip_cons_cons, List.flatMap_cons, List.flatMap_cons, ih]
    cases he <;> rfl

/-! ## The same rules, the same answers -/

theorem offers_congr {b b' : Branches} (hpaths : ∀ path, path ∈ b.paths ↔ path ∈ b'.paths) :
    b.Offers anyLevel path ↔ b'.Offers anyLevel path := by
  simp only [Offers, hpaths]

theorem resolveRule_congr (h : d.WellFormed) (h' : d'.WellFormed) (hoptions : d.options = d'.options)
    (hpaths : ∀ path, path ∈ d.branches.paths ↔ path ∈ d'.branches.paths) (ns : Namespace) :
    d.resolveRule ns = d'.resolveRule ns := by
  refine Option.ext fun r => ?_
  rw [resolveRule, resolveRule, resolveFrom_eq_some_iff h.unambiguous,
    resolveFrom_eq_some_iff h'.unambiguous, hoptions]
  simp only [offers_congr hpaths]

theorem follow?_isSome_iff (h : b.Unambiguous) :
    (follow? b e).isSome = true ↔ ∃ c rest, c :: rest ∈ b.paths ∧ e.Instantiates c := by
  rw [Option.isSome_iff_exists]
  constructor
  · rintro ⟨n, hfollow⟩
    obtain ⟨hn, hinst⟩ := (follow?_eq_some_iff h).mp hfollow
    obtain ⟨rest, hrest⟩ := h.tidy.exists_continues hn
    exact ⟨n.element, rest, cons_mem_paths.mpr ⟨n, hn, rfl, hrest⟩, hinst⟩
  · rintro ⟨c, rest, hrule, hinst⟩
    obtain ⟨n, hn, rfl, -⟩ := cons_mem_paths.mp hrule
    exact ⟨n, (follow?_eq_some_iff h).mpr ⟨hn, hinst⟩⟩

theorem resolve_congr (h : d.WellFormed) (h' : d'.WellFormed) (hoptions : d.options = d'.options)
    (hpaths : ∀ path, path ∈ d.branches.paths ↔ path ∈ d'.branches.paths) (ns : Namespace) :
    d.resolve ns = d'.resolve ns := by
  have hrules : d.hasRules = d'.hasRules := by
    rw [hasRules, hasRules, Bool.eq_iff_iff, Bool.not_eq_true', Bool.not_eq_true', ← Bool.not_eq_true,
      ← Bool.not_eq_true, h.unambiguous.tidy.isEmpty_iff, h'.unambiguous.tidy.isEmpty_iff]
    simp only [hpaths]
  have hundefined : d.acceptsUndefined ns = d'.acceptsUndefined ns := by
    have hfollow : ∀ e, (follow? d.branches e).isSome = (follow? d'.branches e).isSome := fun e => by
      rw [Bool.eq_iff_iff, follow?_isSome_iff h.unambiguous, follow?_isSome_iff h'.unambiguous]
      simp only [hpaths]
    simp only [acceptsUndefined, hoptions, hfollow]
  rw [resolve, resolve, hrules, resolveRule_congr h h' hoptions hpaths, hundefined]

/-! ## Along a history -/

namespace History

/-- A rule that was accepted, and the path that it denotes. -/
def HasRule (h : History) (text : String) (rule : List Element) : Prop :=
  text ∈ h.accepted ∧ h.definitions.parse text = .ok ⟨h.definitions.options.separator, rule⟩

/-- The path is that of an accepted rule, or, where metrics may end on any level, a beginning of
one. -/
def Offers (h : History) (path : List Element) : Prop :=
  ∃ text rule, h.HasRule text rule ∧
    (path = rule ∨ (h.definitions.options.anyLevel = true ∧ path ≠ [] ∧ path <+: rule))

variable {h : History} {separator : Char} {text text' : String} {changes : List Change}

theorem HasRule.offers (hrule : h.HasRule text rule) : h.Offers rule :=
  ⟨text, rule, hrule, .inl rfl⟩

theorem HasRule.text_eq (hrule : h.HasRule text rule) :
    Namespace.text ⟨h.definitions.options.separator, rule⟩ = text :=
  Namespace.text_of_parse hrule.2

namespace Sound

variable (hs : h.Sound separator)

include hs

theorem mem_paths : rule ∈ h.definitions.branches.paths ↔ ∃ text, h.HasRule text rule := by
  simp only [HasRule, Definitions.parse, hs.separator_eq, hs.holds.mem_paths]

theorem offers_iff :
    h.Offers path ↔ h.definitions.branches.Offers h.definitions.options.anyLevel path := by
  constructor
  · rintro ⟨text, rule, hrule, hpath⟩
    exact ⟨rule, hs.mem_paths.mpr ⟨text, hrule⟩, hpath⟩
  · rintro ⟨rule, hrule, hpath⟩
    obtain ⟨text, hrule⟩ := hs.mem_paths.mp hrule
    exact ⟨text, rule, hrule, hpath⟩

theorem resolve_of_offers (hoffer : h.Offers path)
    (hinst : List.Forall₂ Element.Instantiates ns.elements path) :
    h.definitions.resolve ns = some (path.map Element.groupName?) :=
  resolve_of_instantiates hs.wellFormed (hs.offers_iff.mp hoffer) hinst

theorem resolve_isSome_iff (hrules : h.definitions.hasRules = true)
    (hundefined : h.definitions.options.undefinedMetrics = false) (hne : ns.elements ≠ []) :
    (h.definitions.resolve ns).isSome = true ↔
      ∃ path, h.Offers path ∧ List.Forall₂ Element.Instantiates ns.elements path := by
  constructor
  · intro hsome
    obtain ⟨r, hr⟩ := Option.isSome_iff_exists.mp hsome
    simp only [resolve, hrules, acceptsUndefined, hundefined, Bool.not_true, Bool.false_eq_true,
      Bool.false_and, if_false, Option.or_none] at hr
    obtain ⟨path, hoffer, hinst, -⟩ := (resolveRule_eq_some_iff hs.wellFormed hne).mp hr
    exact ⟨path, hs.offers_iff.mpr hoffer, hinst⟩
  · rintro ⟨path, hoffer, hinst⟩
    rw [hs.resolve_of_offers hoffer hinst, Option.isSome_some]

theorem eq_of_offers (hpath : h.Offers path) (hpath' : h.Offers path')
    (hinst : List.Forall₂ Element.Instantiates ns.elements path)
    (hinst' : List.Forall₂ Element.Instantiates ns.elements path') : path = path' :=
  eq_of_instantiates hinst hinst' <| hs.wellFormed.unambiguous.not_part_of_offers
    (hs.offers_iff.mp hpath) (hs.offers_iff.mp hpath')

theorem text_eq_of_hasRule (hrule : h.HasRule text rule) (hrule' : h.HasRule text' rule')
    (hinst : List.Forall₂ Element.Instantiates ns.elements rule)
    (hinst' : List.Forall₂ Element.Instantiates ns.elements rule') : text = text' := by
  rw [← hrule.text_eq, ← hrule'.text_eq, hs.eq_of_offers hrule.offers hrule'.offers hinst hinst']

theorem hasRule_run (hkeeps : ∀ c ∈ changes, Change.Keeps separator c)
    (hrule : h.HasRule text rule) : (h.run changes).HasRule text rule := by
  obtain ⟨htext, hparse⟩ := hrule
  rw [Definitions.parse, hs.separator_eq] at hparse
  refine ⟨mem_accepted_run htext, ?_⟩
  rw [Definitions.parse, (hs.run hkeeps).separator_eq, hparse]

theorem resolve_run (hkeeps : ∀ c ∈ changes, Change.Keeps separator c)
    (hrule : h.HasRule text rule) (hinst : List.Forall₂ Element.Instantiates ns.elements rule) :
    (h.run changes).definitions.resolve ns = h.definitions.resolve ns := by
  rw [hs.resolve_of_offers hrule.offers hinst,
    (hs.run hkeeps).resolve_of_offers (hs.hasRule_run hkeeps hrule).offers hinst]

end Sound

end History

/-- **A metric resolves exactly if it instantiates a path on offer**; there is no other such path,
its groups and its text are the answer, and the answer stays what it is for the metrics of a rule.
Elements are never empty in what was read (`Namespace.elements_ne_nil_of_parse`). -/
theorem resolve_iff_instantiates (options : DefinitionOptions) (changes more : List Change)
    (hchanges : ∀ c ∈ changes, Change.Keeps options.separator c)
    (hmore : ∀ c ∈ more, Change.Keeps options.separator c) :
    let h := (History.start options).run changes
    (h.definitions.hasRules = true → h.definitions.options.undefinedMetrics = false →
      ∀ ns : Namespace, ns.elements ≠ [] → ((h.definitions.resolve ns).isSome = true ↔
        ∃ path, h.Offers path ∧ List.Forall₂ Element.Instantiates ns.elements path)) ∧
    (∀ (ns : Namespace) text text' rule rule', h.HasRule text rule → h.HasRule text' rule' →
      List.Forall₂ Element.Instantiates ns.elements rule →
      List.Forall₂ Element.Instantiates ns.elements rule' → text = text' ∧ rule = rule') ∧
    (∀ (ns : Namespace) path, h.Offers path →
      List.Forall₂ Element.Instantiates ns.elements path →
        (∀ path', h.Offers path' → List.Forall₂ Element.Instantiates ns.elements path' →
          path' = path) ∧
        h.definitions.resolve ns = some (path.map Element.groupName?) ∧
        (ns.separator = options.separator → Resolution.key (path.map Element.groupName?) ns =
          Namespace.text ⟨options.separator, path⟩)) ∧
    (∀ (ns : Namespace) text rule, h.HasRule text rule →
      List.Forall₂ Element.Instantiates ns.elements rule →
        (ns.separator = options.separator →
          Resolution.key (rule.map Element.groupName?) ns = text) ∧
        (h.run more).definitions.resolve ns = some (rule.map Element.groupName?)) := by
  intro h
  have hs : h.Sound options.separator := (History.sound_start options).run hchanges
  refine ⟨fun hrules hundefined ns => hs.resolve_isSome_iff hrules hundefined, ?_, ?_, ?_⟩
  · intro ns text text' rule rule' hrule hrule' hinst hinst'
    exact ⟨hs.text_eq_of_hasRule hrule hrule' hinst hinst',
      hs.eq_of_offers hrule.offers hrule'.offers hinst hinst'⟩
  · intro ns path hoffer hinst
    refine ⟨fun path' hoffer' hinst' => hs.eq_of_offers hoffer' hoffer hinst' hinst,
      hs.resolve_of_offers hoffer hinst, fun hseparator => ?_⟩
    rw [key_eq_text hinst, hseparator]
  · intro ns text rule hrule hinst
    refine ⟨fun hseparator => ?_, ?_⟩
    · rw [key_eq_text hinst, hseparator, ← hs.separator_eq, hrule.text_eq]
    · rw [hs.resolve_run hmore hrule hinst, hs.resolve_of_offers hrule.offers hinst]

/-- The rule `/p/x/m` is refused beside `/p/[g]/m`, and what comes later does not alter the answer. -/
theorem resolve_later_changes :
    let changes : List Change := [.addRule "/p/[g]/m", .addRule "/p/x/m",
      .setOptions { anyLevel := true }, .addRule "/p/[g]/m/n"]
    let more : List Change := [.setOptions { undefinedMetrics := true }, .addRule "/q/m"]
    let ns : Namespace := ⟨'/', [.name "p", .bound "g" "v", .name "m"]⟩
    (∀ c ∈ changes, Change.Keeps '/' c) ∧ (∀ c ∈ more, Change.Keeps '/' c) ∧
      Resolution.key [none, some "g", none] ns = "/p/[g]/m" ∧
      (((History.start {}).run changes).run more).definitions.resolve ns =
        some [none, some "g", none] := by
  intro changes more ns
  have hchanges : ∀ c ∈ changes, Change.Keeps '/' c := by decide
  have hmore : ∀ c ∈ more, Change.Keeps '/' c := by decide
  have hinst : List.Forall₂ Element.Instantiates ns.elements [.name "p", .group "g", .name "m"] :=
    .cons (.name "p") (.cons (.bound "g" "v") (.cons (.name "m") .nil))
  have hrule : ((History.start {}).run changes).HasRule "/p/[g]/m"
      [.name "p", .group "g", .name "m"] := ⟨by decide, rfl⟩
  obtain ⟨hkey, hlater⟩ :=
    (resolve_iff_instantiates {} changes more hchanges hmore).2.2.2 ns _ _ hrule hinst
  exact ⟨hchanges, hmore, hkey rfl, hlater⟩

end Definitions

end Telemetry
