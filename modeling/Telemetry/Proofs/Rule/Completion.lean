import Telemetry.Proofs.Namespace.Reading
import Telemetry.Proofs.Rule.Excerpt
import Telemetry.Proofs.Rule.Resolution

/-!
# Completing a beginning

Asked about the beginning of a path, definitions answer yes exactly if it can be completed to a
metric that they resolve (`resolvesPrefix_iff_completes`). No such metric is turned down, since a
beginning is an excerpt of it. And no branch of the tree is a dead end: the walk along a beginning
ends at some node, behind which a rule goes on (`exists_continues_of_isPrefixOf`), and the metric
that takes from this rule what the beginning leaves open follows the rule.

* `Namespace.Completes`: the paths that a beginning can be the beginning of.
* `Namespace.complete`: the one that is made from a rule.
* `Definitions.Opens`: a beginning leads along a rule.
-/

namespace Telemetry

open Namespace (isConcreteElement)

variable {e : Element} {elements part rule : List Element}

theorem ne_nil_of_any_head? {p : Element → Bool} (h : elements.head?.any p = true) :
    elements ≠ [] := by
  rintro rfl
  cases h

/-! ## Completions -/

/-- Names and bound elements, at least as many as there are in the part, and the same wherever that
has no `*`. -/
structure Namespace.Completes (whole part : Namespace) : Prop where
  concrete : ∀ e ∈ whole.elements, isConcreteElement false e = true
  length_le : part.length ≤ whole.length
  agrees : ∀ (i : Nat) e, part.elements[i]? = some e → e ≠ .wildcard →
    whole.elements[i]? = some e

namespace Namespace.Completes

variable {whole ns : Namespace}

theorem head?_eq (h : whole.Completes ns) (hhead : ns.elements.head?.any Element.isName = true) :
    whole.elements.head? = ns.elements.head? := by
  obtain ⟨first, hfirst, hname⟩ := (Option.any_eq_true _ _).mp hhead
  have hvisible : first ≠ .wildcard := by
    rintro rfl
    cases hname
  rw [hfirst]
  rw [List.head?_eq_getElem?] at hfirst ⊢
  exact h.agrees 0 first hfirst hvisible

theorem parse_text (h : whole.Completes ns) (hne : ns.elements ≠ [])
    (hwell : ∀ e ∈ whole.elements, e.WellFormed) (hseparator : Separates whole.separator) :
    parse whole.separator false whole.text = .ok whole := by
  have hwhole : whole.elements ≠ [] :=
    List.ne_nil_of_length_pos ((List.length_pos_iff.mpr hne).trans_le h.length_le)
  refine parse_text_of_single hseparator hwhole fun e he => ⟨hwell e he, ?_⟩
  have hconcrete := h.concrete e he
  cases e <;> simp_all [isConcreteElement, Element.pattern?]

end Namespace.Completes

/-- A value that follows a defined element. -/
def Element.sample : Element → Element
  | name v => name v
  | _ => name "0"

/-- The part with a sample of the rule wherever it has `*`, and behind its end. -/
def Namespace.complete : (part rule : List Element) → List Element
  | [], rule => rule.map Element.sample
  | e :: part, rule =>
    (if e = .wildcard then (rule.head?.getD .wildcard).sample else e) :: complete part rule.tail

namespace Namespace

theorem excerpt_complete (part rule : List Element) : Excerpt (complete part rule) part := by
  induction part generalizing rule with
  | nil => exact .nil _
  | cons e part ih =>
    rw [complete]
    split_ifs with hhidden
    · subst hhidden
      exact .hide _ (ih rule.tail)
    · exact .keep e (ih rule.tail)

theorem forall_mem_complete {P : Element → Prop} (hfree : P (.name "0"))
    (hrule : ∀ c ∈ rule, P c.sample) (hpart : ∀ e ∈ part, e ≠ .wildcard → P e) :
    ∀ e ∈ complete part rule, P e := by
  induction part generalizing rule with
  | nil => exact List.forall_mem_map.mpr hrule
  | cons e part ih =>
    rw [complete, List.forall_mem_cons]
    refine ⟨?_, ih (fun c hc => hrule c (List.mem_of_mem_tail hc))
      fun e' he' => hpart e' (List.mem_cons_of_mem _ he')⟩
    split_ifs with hhidden
    · cases rule with
      | nil => exact hfree
      | cons c rule => exact hrule c List.mem_cons_self
    · exact hpart e List.mem_cons_self hhidden

theorem completes_complete {ns : Namespace} (rule : List Element)
    (hns : ∀ e ∈ ns.elements, isConcreteElement true e = true) :
    Completes ⟨ns.separator, complete ns.elements rule⟩ ns := by
  obtain ⟨hlength, hagrees⟩ := excerpt_iff.mp (excerpt_complete ns.elements rule)
  refine ⟨forall_mem_complete rfl (fun c _ => ?_) fun e he hne => ?_, hlength, hagrees⟩
  · cases c <;> rfl
  · have hconcrete := hns e he
    cases e <;> simp_all [isConcreteElement]

theorem wellFormed_complete (hrule : ∀ c ∈ rule, c.WellFormed) (hpart : ∀ e ∈ part, e.WellFormed) :
    ∀ e ∈ complete part rule, e.WellFormed := by
  have hfree : isIdentifier "0".toList = true := by decide
  refine forall_mem_complete hfree (fun c hc => ?_) fun e he _ => hpart e he
  have hwell := hrule c hc
  cases c <;> first | exact hwell | exact hfree

end Namespace

/-! ## Following a rule -/

namespace Definitions

open Branches

variable {b : Branches} {n : Branch} {d : Definitions} {ns : Namespace}

/-- The rule begins like the part, where `*` stands for any element. -/
inductive Opens : List Element → List Element → Prop where
  | nil (rule : List Element) : Opens [] rule
  | cons {e c : Element} {part rule} (he : e = .wildcard ∨ e.Instantiates c) (h : Opens part rule) :
    Opens (e :: part) (c :: rule)

theorem instantiates_sample (he : isDefinitionElement e = true) : e.sample.Instantiates e := by
  cases e with
  | name v => exact .name v
  | group g => exact .value "0" g
  | _ => cases he

theorem Opens.instantiates_complete (h : Opens part rule)
    (hrule : ∀ c ∈ rule, isDefinitionElement c = true) :
    List.Forall₂ Element.Instantiates (Namespace.complete part rule) rule := by
  induction h with
  | nil rule =>
    rw [Namespace.complete, List.forall₂_map_left_iff, List.forall₂_same]
    exact fun c hc => instantiates_sample (hrule c hc)
  | @cons e c part rule he _ ih =>
    obtain ⟨hc, hrest⟩ := List.forall_mem_cons.mp hrule
    refine .cons ?_ (ih hrest)
    split_ifs with hhidden
    · exact instantiates_sample hc
    · exact he.resolve_left hhidden

theorem exists_node_of_isPrefixOf (h : b.Unambiguous) (hleads : isPrefixOf b (e :: part) = true) :
    ∃ n ∈ b.nodes, (e = .wildcard ∨ e.Instantiates n.element) ∧
      isPrefixOf n.children part = true := by
  by_cases hhidden : e = .wildcard
  · rw [hhidden, isPrefixOf, List.any_eq_true] at hleads
    obtain ⟨n, hn, hrest⟩ := hleads
    exact ⟨n, hn, .inl hhidden, hrest⟩
  · cases hfollow : follow? b e with
    | none => simp [isPrefixOf, hfollow] at hleads
    | some n =>
      obtain ⟨hn, hinst⟩ := (follow?_eq_some_iff h).mp hfollow
      rw [isPrefixOf_cons hfollow] at hleads
      exact ⟨n, hn, .inr hinst, hleads⟩

theorem exists_continues_of_isPrefixOf (h : b.Unambiguous) (hn : n ∈ b.nodes)
    (hleads : isPrefixOf n.children part = true) : ∃ rest, n.Continues rest ∧ Opens part rest := by
  induction part generalizing b n with
  | nil =>
    obtain ⟨rest, hrest⟩ := h.tidy.exists_continues hn
    exact ⟨rest, hrest, .nil rest⟩
  | cons e part ih =>
    obtain ⟨m, hm, he, hbelow⟩ := exists_node_of_isPrefixOf (h.children hn) hleads
    obtain ⟨rest, hrest, hopens⟩ := ih (h.children hn) hm hbelow
    exact ⟨m.element :: rest, .inr (cons_mem_paths.mpr ⟨m, hm, rfl, hrest⟩), .cons he hopens⟩

theorem exists_opens_of_isPrefixOf (h : b.Unambiguous) (hne : part ≠ [])
    (hleads : isPrefixOf b part = true) : ∃ rule ∈ b.paths, Opens part rule := by
  obtain ⟨e, part, rfl⟩ := List.exists_cons_of_ne_nil hne
  obtain ⟨n, hn, he, hbelow⟩ := exists_node_of_isPrefixOf h hleads
  obtain ⟨rest, hrest, hopens⟩ := exists_continues_of_isPrefixOf h hn hbelow
  exact ⟨n.element :: rest, cons_mem_paths.mpr ⟨n, hn, rfl, hrest⟩, .cons he hopens⟩

/-! ## Along a history -/

/-- The rules can be completed: they are well-formed, and so are all of their elements. -/
structure Completable (d : Definitions) : Prop where
  wellFormed : d.WellFormed
  elements : ∀ rule ∈ d.branches.paths, ∀ e ∈ rule, e.WellFormed

theorem completable_empty (options : DefinitionOptions) : Completable { options } :=
  ⟨wellFormed_empty options, by simp⟩

theorem Completable.step {h : History} (hd : h.definitions.Completable) (change : Change) :
    (h.step change).definitions.Completable := by
  cases change with
  | addRule text =>
    cases hadd : h.definitions.addRule text with
    | error e => simpa only [History.step, hadd] using hd
    | ok d =>
      simp only [History.step, hadd]
      refine ⟨hd.wellFormed.addRule hadd, fun rule hrule => ?_⟩
      obtain ⟨ns, hread, hflaw, -, rfl⟩ := addRule_eq_ok_iff.mp hadd
      have htidy := hd.wellFormed.unambiguous.tidy
      rcases (htidy.mem_paths_add (ne_nil_of_flaw?_eq_none hflaw)).mp hrule with rfl | hrule
      · exact Namespace.wellFormed_of_parse hread
      · exact hd.elements rule hrule
  | setOptions options => exact ⟨hd.wellFormed.setOptions options, hd.elements⟩

theorem Completable.run {h : History} (hd : h.definitions.Completable) (changes : List Change) :
    (h.run changes).definitions.Completable := by
  induction changes generalizing h with
  | nil => exact hd
  | cons change changes ih => exact ih (hd.step change)

/-! ## Beginnings and metrics -/

theorem resolvesPrefix_of_completes {whole : Namespace} (hcompletes : whole.Completes ns)
    (hhead : ns.elements.head?.any Element.isName = true)
    (hresolve : (d.resolve whole).isSome = true) : d.resolvesPrefix ns = true := by
  obtain ⟨r, hr⟩ := Option.isSome_iff_exists.mp hresolve
  have hexcerpt : Excerpt whole.elements ns.elements :=
    excerpt_iff.mpr ⟨hcompletes.length_le, hcompletes.agrees⟩
  have hleads : d.resolvesPrefix ⟨whole.separator, ns.elements⟩ = true :=
    resolvesPrefix_of_resolve hr hexcerpt (hcompletes.head?_eq hhead).symm
  exact hleads

theorem exists_resolve_complete (hd : d.Completable) (hleads : d.resolvesPrefix ns = true)
    (hhead : ns.elements.head?.any Element.isName = true)
    (hns : ∀ e ∈ ns.elements, isConcreteElement true e = true) :
    ∃ rule : List Element, (∀ c ∈ rule, c.WellFormed) ∧
      (d.resolve ⟨ns.separator, Namespace.complete ns.elements rule⟩).isSome = true := by
  rw [resolvesPrefix, Bool.or_eq_true, Bool.or_eq_true] at hleads
  rcases hleads with (hempty | hundefined) | hleads
  · rw [Bool.not_eq_true'] at hempty
    exact ⟨[], List.forall_mem_nil _, by simp [resolve, hempty]⟩
  · have hwhole : d.acceptsUndefined ⟨ns.separator, Namespace.complete ns.elements []⟩ = true := by
      rw [acceptsUndefined, (Namespace.completes_complete [] hns).head?_eq hhead]
      exact hundefined
    refine ⟨[], List.forall_mem_nil _, ?_⟩
    rw [resolve, if_pos hwhole]
    split_ifs <;> simp
  · have hunambiguous := hd.wellFormed.unambiguous
    obtain ⟨rule, hrule, hopens⟩ :=
      exists_opens_of_isPrefixOf hunambiguous (ne_nil_of_any_head? hhead) hleads
    have hinst := hopens.instantiates_complete (hunambiguous.elements rule hrule)
    refine ⟨rule, hd.elements rule hrule, ?_⟩
    rw [resolve_of_instantiates hd.wellFormed ⟨rule, hrule, .inl rfl⟩ hinst, Option.isSome_some]

/-- **Definitions accept a beginning exactly if it can be completed to a metric that they resolve**,
and elements that can be read are enough to complete it. -/
theorem resolvesPrefix_iff_completes (options : DefinitionOptions) (changes : List Change)
    (ns : Namespace) (hhead : ns.elements.head?.any Element.isName = true)
    (hns : ∀ e ∈ ns.elements, isConcreteElement true e = true) :
    let d := ((History.start options).run changes).definitions
    (d.resolvesPrefix ns = true ↔
      ∃ whole, whole.Completes ns ∧ (d.resolve whole).isSome = true) ∧
    (d.resolvesPrefix ns = true → (∀ e ∈ ns.elements, e.WellFormed) →
      ∃ whole, whole.Completes ns ∧ (d.resolve whole).isSome = true ∧
        (∀ e ∈ whole.elements, e.WellFormed) ∧
        (Namespace.Separates whole.separator →
          Namespace.parse whole.separator false whole.text = .ok whole)) := by
  intro d
  have hd : d.Completable := (completable_empty options).run changes
  refine ⟨⟨fun hleads => ?_, ?_⟩, fun hleads hwell => ?_⟩
  · obtain ⟨rule, -, hresolve⟩ := exists_resolve_complete hd hleads hhead hns
    exact ⟨_, Namespace.completes_complete rule hns, hresolve⟩
  · rintro ⟨whole, hcompletes, hresolve⟩
    exact resolvesPrefix_of_completes hcompletes hhead hresolve
  · obtain ⟨rule, hrule, hresolve⟩ := exists_resolve_complete hd hleads hhead hns
    have hcompletes := Namespace.completes_complete rule hns
    have hwhole := Namespace.wellFormed_complete hrule hwell
    exact ⟨_, hcompletes, hresolve, hwhole,
      hcompletes.parse_text (ne_nil_of_any_head? hhead) hwhole⟩

/-- The middle can be completed by any value, since the group is all there is; at the end a value
can only be the name that is defined. -/
theorem resolvesPrefix_iff_completes_hidden :
    let d := ((History.start {}).run [.addRule "/p/[g]/m", .addRule "/q/a/b"]).definitions
    (∃ whole, whole.Completes ⟨'/', [.name "p", .wildcard]⟩ ∧ (d.resolve whole).isSome = true) ∧
      ¬ ∃ whole, whole.Completes ⟨'/', [.name "q", .wildcard, .name "m"]⟩ ∧
        (d.resolve whole).isSome = true := by
  intro d
  have hexact := resolvesPrefix_iff_completes {} [.addRule "/p/[g]/m", .addRule "/q/a/b"]
  refine ⟨(hexact ⟨'/', [.name "p", .wildcard]⟩ rfl (by decide)).1.mp rfl, ?_⟩
  exact mt (hexact ⟨'/', [.name "q", .wildcard, .name "m"]⟩ rfl (by decide)).1.mpr
    (Bool.eq_false_iff.mp rfl)

end Definitions

end Telemetry
