import Telemetry.Proofs.Collection.Selection
import Telemetry.Proofs.Namespace.Decomposition
import Telemetry.Proofs.Rule.Listing

/-!
# One filter without a tree

A written path is matched to a written filter in two ways. The direct one compares the elements one
by one and asks for enough of them; the other one builds a tree of a single rule and searches it. A
filter that is matched directly stands for everything that begins as it does, which a rule of a tree
says with `**`, so both ways agree once that is behind the filter
(`matchText_iff_accepts_openEnded`).

What is written with `**` behind it is read as it is meant (`parse_openEnded`), since no element but
`**` itself is written with two stars at its end. Such a rule covers a path exactly if the direct
comparison goes well (`covers_openEnded`).

* `Namespace.openEnded`: the text of a filter with `**` behind it.
-/

namespace Telemetry

variable {separator : Char} {elements path : List Element} {ns rule : Namespace}

/-! ## Two stars at the end -/

theorem Element.getLast?_chars_ne_star {e : Element} (he : e.WellFormed) (hwildcard : e ≠ .wildcard)
    (htrailing : e ≠ .trailing) : e.chars.getLast? ≠ some '*' := by
  intro hlast
  have hmem : '*' ∈ e.chars := List.mem_of_getLast? hlast
  cases e with
  | name text =>
    have hident : isIdentifier text.toList = true := he
    exact not_mem_of_isIdentifier hident (by decide) hmem
  | wildcard => exact hwildcard rfl
  | trailing => exact htrailing rfl
  | pattern p => simp [chars, List.getLast?_cons] at hlast
  | group g => simp [chars, List.getLast?_cons] at hlast
  | bound g v => simp [chars, List.getLast?_cons] at hlast
  | groupPattern g p => simp [chars, List.getLast?_cons] at hlast

namespace Namespace

/-- The text of a filter with `**` behind it, unless it ends so already. -/
def openEnded (separator : Char) (filter : String) : String :=
  if ['*', '*'] <:+ filter.toList then filter else filter ++ String.ofList [separator, '*', '*']

theorem charsOf_append (separator : Char) (elements more : List Element) :
    charsOf separator (elements ++ more) = charsOf separator elements ++ charsOf separator more :=
  List.flatMap_append

theorem Readable.stars_isSuffix_iff {filter : Bool} (h : rule.Readable filter)
    (hseparator : Separates rule.separator) :
    ['*', '*'] <:+ rule.text.toList ↔ rule.elements.getLast? = some .trailing := by
  obtain ⟨separator, elements⟩ := rule
  obtain ⟨front, last, rfl⟩ := List.eq_nil_or_concat elements |>.resolve_left h.ne_nil
  have hlast : last.WellFormed := (h.element last (by simp)).1
  have htext : (text ⟨separator, front.concat last⟩).toList =
      charsOf separator front ++ separator :: last.chars := by
    rw [text, String.toList_ofList, List.concat_eq_append, charsOf_append]
    simp [charsOf]
  rw [htext, List.concat_eq_append, List.getLast?_append, List.getLast?_singleton,
    Option.some_or, Option.some_inj]
  constructor
  · rintro ⟨before, hbefore⟩
    by_contra htrailing
    -- The last star ends the last element, which is `*` then, and the other one is its separator.
    have hstar : last.chars.getLast? = some '*' := by
      obtain ⟨c, rest, hchars⟩ := List.exists_cons_of_ne_nil (Element.chars_ne_nil hlast)
      have hends := congrArg List.getLast? hbefore
      rw [hchars] at hends ⊢
      rw [List.getLast?_append_cons, List.getLast?_append_cons, List.getLast?_cons_cons] at hends
      exact hends.symm
    by_cases hwildcard : last = .wildcard
    · subst hwildcard
      have hcut : (before ++ ['*']) ++ ['*'] = (charsOf separator front ++ [separator]) ++ ['*'] := by
        simpa [Element.chars] using hbefore
      have hsame := List.append_inj_right' (List.append_cancel_right hcut) rfl
      obtain rfl : '*' = separator := by simpa using hsame
      have hreserved : '*' ∈ reservedChars := by decide
      exact hseparator.1 hreserved
    · exact Element.getLast?_chars_ne_star hlast hwildcard htrailing hstar
  · rintro rfl
    exact ⟨charsOf separator front ++ [separator], by simp [Element.chars]⟩

theorem required_append_trailing (elements : List Element) :
    required (elements ++ [.trailing]) = elements := by
  simp [required]

theorem trailing_notMem_required (h : TrailingLast elements) : .trailing ∉ required elements := by
  intro hmem
  rw [required] at hmem
  split at hmem
  · exact h hmem
  · next hlast =>
    refine h ?_
    have hne : elements ≠ [] := List.ne_nil_of_mem hmem
    rw [← List.dropLast_append_getLast hne] at hmem
    refine (List.mem_append.mp hmem).resolve_right fun hend => hlast ?_
    rw [List.getLast?_eq_some_getLast hne, ← List.mem_singleton.mp hend]

/-- **With `**` behind it a filter is read as it is meant.** -/
theorem parse_openEnded {filter : String} (hseparator : Separates separator)
    (h : parse separator true filter = .ok rule) :
    parse separator true (openEnded separator filter) =
      .ok ⟨separator, required rule.elements ++ [.trailing]⟩ := by
  obtain ⟨rfl, hreadable, rfl⟩ := (parse_eq_ok_iff hseparator.not_bracket).mp h
  rw [openEnded]
  split_ifs with hstars
  · have hlast := (hreadable.stars_isSuffix_iff hseparator).mp hstars
    have hsame : required rule.elements ++ [.trailing] = rule.elements := by
      rw [required, if_pos hlast]
      exact List.dropLast_append_getLast? _ hlast
    rw [hsame]
    exact h
  · have hlast := (hreadable.stars_isSuffix_iff hseparator).not.mp hstars
    have hsame : required rule.elements = rule.elements := if_neg hlast
    have hnone : .trailing ∉ rule.elements := hsame ▸ trailing_notMem_required hreadable.trailingLast
    have hopen : Readable true ⟨rule.separator, rule.elements ++ [.trailing]⟩ := by
      refine ⟨by simp, fun e he => ?_, ?_, fun _ => rfl⟩
      · rcases List.mem_append.mp he with he | he
        · exact hreadable.element e he
        · rw [List.mem_singleton.mp he]
          exact ⟨trivial, isToken_chars hseparator trivial rfl⟩
      · rw [TrailingLast, List.dropLast_concat]
        exact hnone
    have htext : rule.text ++ String.ofList [rule.separator, '*', '*'] =
        text ⟨rule.separator, rule.elements ++ [.trailing]⟩ := by
      rw [← String.toList_inj, String.toList_append, String.toList_ofList, text,
        String.toList_ofList, text, String.toList_ofList, charsOf_append]
      simp [charsOf, Element.chars]
    rw [hsame, htext]
    exact hopen.parse hseparator.not_bracket

/-! ## Matching one filter -/

theorem covers_openEnded (elements path : List Element) :
    covers (elements ++ [.trailing]) path =
      (decide (elements.length ≤ path.length) && (elements.zip path).all fun (f, e) => f.admits e) := by
  rw [covers, required_append_trailing, if_pos (by simp)]

theorem forall_isConcreteElement (h : ns.isConcrete true = true) :
    ∀ e ∈ ns.elements, isConcreteElement true e = true := by
  obtain ⟨separator, elements⟩ := ns
  match elements, h with
  | first :: second :: rest, h =>
    rw [isConcrete, Bool.and_eq_true, List.all_eq_true] at h
    refine List.forall_mem_cons.mpr ⟨?_, h.2⟩
    have hname : first.isName = true := h.1
    cases first with
    | name v => rfl
    | _ => cases hname

theorem matchText_of_parse {text filter : String} (hread : parse separator false text = .ok ns)
    (hconcrete : ns.isConcrete true = true) (hfilter : parse separator true filter = .ok rule) :
    matchText separator text filter =
      if ns.length < (required rule.elements).length then
        .error (.tooFewElements ns.length (required rule.elements).length)
      else .ok (((required rule.elements).zip ns.elements).all fun (f, e) => f.admits e) := by
  have hsome : ¬ (filter.toList = [] ∨ filter.toList = [separator]) := by
    obtain ⟨rest, tokens, elements, htext, htokens, -, -⟩ := exists_of_ofChars hfilter
    rintro (hnil | hsingle)
    · rw [hnil] at htext
      cases htext
    · rw [parse, hsingle, ofChars] at hfilter
      simp at hfilter
  rw [matchText, hread]
  simp only [hconcrete, Bool.not_true, Bool.false_eq_true, if_false, if_neg hsome, hfilter]
  exact matchesFilter_eq (trailingLast_of_parse hfilter)

end Namespace

/-! ## One rule in a tree -/

open Namespace (parse matchText openEnded required)

/-- **Matching a path to a filter directly agrees with a tree that holds this filter alone**, with
`**` behind it: they admit the same paths, and what has too few elements for the one is refused by
the other. -/
theorem matchText_iff_accepts_openEnded {text filter : String}
    (hseparator : isSeparator separator = true) (hread : parse separator false text = .ok ns)
    (hconcrete : ns.isConcrete true = true) (hfilter : parse separator true filter = .ok rule) :
    ∃ single, Filters.addRule { separator } (openEnded separator filter) = .ok single ∧
      (matchText separator text filter = .ok true ↔ single.accepts ns = true) ∧
      (∀ e, matchText separator text filter = .error e ↔
        ns.length < (required rule.elements).length ∧
          e = .tooFewElements ns.length (required rule.elements).length) ∧
      (ns.length < (required rule.elements).length → single.accepts ns = false) := by
  have hopen := Namespace.parse_openEnded (Namespace.separates_of_isSeparator hseparator) hfilter
  obtain ⟨hadd, haccepted⟩ :=
    Filters.History.add_of_parse (Filters.History.sound_start separator) hopen
  have hsound := (Filters.History.sound_start separator).add (openEnded separator filter)
  refine ⟨_, hadd, ?_⟩
  have haccepts : ((Filters.History.start separator).add (openEnded separator filter)).filters.accepts
      ns = true ↔ Namespace.covers (required rule.elements ++ [.trailing]) ns.elements = true := by
    rw [hsound.accepts_iff (Namespace.forall_isConcreteElement hconcrete), haccepted]
    constructor
    · rintro (hnone | ⟨rule', hrule', elements, hparse, hcovers⟩)
      · simp [Filters.History.start] at hnone
      · rw [Filters.History.start, List.nil_append, List.mem_singleton] at hrule'
        rw [hrule', hopen] at hparse
        injection hparse with hparse
        injection hparse with _ hparse
        rwa [hparse]
    · exact fun hcovers => .inr ⟨_, by simp, _, hopen, hcovers⟩
  have hmatch := Namespace.matchText_of_parse hread hconcrete hfilter
  rw [Namespace.covers_openEnded, Bool.and_eq_true, decide_eq_true_eq] at haccepts
  by_cases hlength : ns.length < (required rule.elements).length
  · rw [if_pos hlength] at hmatch
    have hrefused : ¬ (required rule.elements).length ≤ ns.elements.length :=
      Nat.not_le.mpr hlength
    refine ⟨?_, fun e => ?_, fun _ => ?_⟩
    · rw [haccepts, hmatch]
      exact iff_of_false (by simp) fun h => hrefused h.1
    · rw [hmatch, Except.error.injEq]
      exact ⟨fun h => ⟨hlength, h.symm⟩, fun h => h.2.symm⟩
    · exact Bool.eq_false_iff.mpr fun h => hrefused (haccepts.mp h).1
  · rw [if_neg hlength] at hmatch
    refine ⟨?_, fun e => ?_, fun h => absurd h hlength⟩
    · rw [haccepts, hmatch, Except.ok.injEq]
      exact ⟨fun h => ⟨Nat.not_lt.mp hlength, h⟩, fun h => h.2⟩
    · rw [hmatch]
      exact iff_of_false (by simp) fun h => hlength h.1

/-- The bound element and `*` meet a group and a name, and a third element is left for `**`. -/
theorem matchText_iff_accepts_openEnded_colon :
    isSeparator ':' = true ∧
    parse ':' false ":p:[g=v]:*:m" = .ok ⟨':', [.name "p", .bound "g" "v", .wildcard, .name "m"]⟩ ∧
    parse ':' true ":*:[g]:x" = .ok ⟨':', [.wildcard, .group "g", .name "x"]⟩ ∧
    ∃ single, Filters.addRule { separator := ':' } ":*:[g]:x:**" = .ok single ∧
      single.accepts ⟨':', [.name "p", .bound "g" "v", .wildcard, .name "m"]⟩ = true := by
  have hseparator : isSeparator ':' = true := by decide
  have hread : parse ':' false ":p:[g=v]:*:m" =
      .ok ⟨':', [.name "p", .bound "g" "v", .wildcard, .name "m"]⟩ := rfl
  have hfilter : parse ':' true ":*:[g]:x" = .ok ⟨':', [.wildcard, .group "g", .name "x"]⟩ := rfl
  obtain ⟨single, hadd, hmatch, -, -⟩ :=
    matchText_iff_accepts_openEnded hseparator hread (by decide) hfilter
  exact ⟨hseparator, hread, hfilter, single, hadd, hmatch.mp rfl⟩

end Telemetry
