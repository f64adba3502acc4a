import Mathlib.Data.List.Forall2
import Telemetry.Proofs.Namespace.Reading

/-!
# The one way to cut a path

A text is a path exactly if it can be cut into tokens: each behind a separator, with no separator
outside of its own brackets, and each denoting an element. There is only one such cut, since the
brackets that are open tell at every separator whether it cuts (`isToken_of_tokensFrom`). So reading
and writing are inverse to each other, for a whole path and for every run of its elements
(`parse_iff_cuts`).

* `Namespace.written`: tokens behind separators.
* `Namespace.Cuts`: the cut of a text into the tokens of some elements.
* `Namespace.Readable`: the paths that are read as they are written.
-/

namespace Telemetry

/-! ## Trailing elements -/

theorem trailingLast_iff {path : List Element} :
    TrailingLast path ↔ ∀ i, path[i]? = some .trailing → i + 1 = path.length := by
  rw [TrailingLast, List.mem_iff_getElem?, not_exists]
  simp only [List.getElem?_dropLast]
  refine forall_congr' fun i => ?_
  constructor
  · intro hnot htrailing
    have hlt : i < path.length := (List.getElem?_eq_some_iff.mp htrailing).1
    have hge : ¬ i < path.length - 1 := fun h => hnot (by rw [if_pos h, htrailing])
    omega
  · intro hlast htrailing
    obtain ⟨hlt, htrailing⟩ := Option.ite_none_right_eq_some.mp htrailing
    have := hlast htrailing
    omega

theorem TrailingLast.of_infix {path run : List Element} (h : TrailingLast path)
    (hrun : run <:+: path) : TrailingLast run := by
  obtain ⟨before, after, rfl⟩ := hrun
  refine fun htrailing => h ?_
  have hne : run ≠ [] := by
    rintro rfl
    cases htrailing
  cases after with
  | nil =>
    rw [List.append_nil, List.dropLast_append_of_ne_nil hne]
    exact List.mem_append_right _ htrailing
  | cons next after =>
    rw [List.dropLast_append_of_ne_nil (List.cons_ne_nil _ _)]
    exact List.mem_append_left _ (List.mem_append_right _ (List.dropLast_subset _ htrailing))

/-! ## Elements as texts -/

namespace Element

variable {e : Element}

theorem text_of_parse {token : String} (h : parse token = .ok e) : e.text = token := by
  rw [text, chars_of_ofChars h, String.ofList_toList]

theorem parse_text (h : e.WellFormed) : parse e.text = .ok e := by
  rw [parse, toList_text, ofChars_chars h]

theorem text_eq_iff_trailing (h : e.WellFormed) : e.text = "**" ↔ e = .trailing := by
  constructor
  · intro htext
    have hread := parse_text h
    rw [htext] at hread
    exact (Except.ok.inj hread).symm
  · rintro rfl
    rfl

end Element

namespace Namespace

variable {separator : Char} {filter : Bool} {elements : List Element} {ns : Namespace}

/-! ## Tokens -/

/-- Every token that is cut off closes its brackets; `token` is what has been read of the first. -/
theorem isToken_of_tokensFrom {depth : Nat} {token cs : List Char} {tokens : List (List Char)}
    (h : tokensFrom separator depth token cs = .ok tokens)
    (hdepth : depthAfter separator 0 token.reverse = some depth) :
    ∀ t ∈ tokens, IsToken separator t := by
  induction cs generalizing depth token tokens with
  | nil =>
    unfold tokensFrom at h
    split_ifs at h with hzero
    rw [← Except.ok.inj h, List.forall_mem_singleton, IsToken, hdepth, hzero]
  | cons c cs ih =>
    have hnext : depthAfter separator 0 (c :: token).reverse = depthAfter separator depth [c] := by
      rw [List.reverse_cons, depthAfter_append, hdepth, Option.bind_some]
    unfold tokensFrom at h
    -- The branches are those of `depthAfter`, except that a separator outside begins a new token.
    split_ifs at h with hopen hclose hsep
    · exact ih h (by rw [hnext, depthAfter, if_pos hopen, depthAfter])
    · exact ih h (by rw [hnext, depthAfter, if_neg hopen, if_pos hclose, depthAfter])
    · obtain ⟨more, hmore, rfl⟩ := Except.exists_of_map_eq_ok h
      refine List.forall_mem_cons.mpr ⟨?_, ih hmore rfl⟩
      rw [IsToken, hdepth, hsep.2]
    · refine ih h ?_
      rw [hnext, depthAfter, if_neg hopen, if_neg hclose, if_neg hsep, depthAfter]

theorem filter_of_elementsFrom {position : Nat} {tokens : List (List Char)}
    (h : elementsFrom filter position tokens = .ok elements) :
    .trailing ∈ elements → filter = true := by
  induction tokens generalizing position elements with
  | nil =>
    cases h
    exact nofun
  | cons token rest ih =>
    unfold elementsFrom at h
    split_ifs at h
    split at h
    · cases h
    · next e he =>
      split_ifs at h with hallowed hlast
      obtain ⟨more, hmore, rfl⟩ := Except.exists_of_map_eq_ok h
      intro htrailing
      rcases List.mem_cons.mp htrailing with rfl | htrailing
      · simpa using hallowed
      · exact ih hmore htrailing

/-! ## Paths that can be read -/

/-- Well-formed elements that no separator cuts, at least one, and `**` in filters at the end only. -/
structure Readable (filter : Bool) (ns : Namespace) : Prop where
  ne_nil : ns.elements ≠ []
  element : ∀ e ∈ ns.elements, e.WellFormed ∧ IsToken ns.separator e.chars
  trailingLast : TrailingLast ns.elements
  trailing_mem : .trailing ∈ ns.elements → filter = true

theorem readable_of_parse {raw : String} (h : parse separator filter raw = .ok ns) :
    ns.Readable filter := by
  have hwell := wellFormed_of_parse h
  have hne := elements_ne_nil_of_parse h
  have hlast := trailingLast_of_parse h
  obtain ⟨rest, tokens, elements, -, htokens, helements, rfl⟩ := exists_of_ofChars h
  refine ⟨hne, fun e he => ⟨hwell e he, ?_⟩, hlast, filter_of_elementsFrom helements⟩
  refine isToken_of_tokensFrom htokens rfl e.chars ?_
  rw [← chars_of_elementsFrom helements]
  exact List.mem_map_of_mem he

theorem Readable.parse (h : ns.Readable filter)
    (hseparator : ns.separator ∉ ['[', '{', ']', '}']) :
    Namespace.parse ns.separator filter ns.text = .ok ns :=
  parse_text_of_isToken hseparator h.ne_nil h.element h.trailingLast h.trailing_mem

theorem Readable.of_infix (h : ns.Readable filter) {run : List Element} (hne : run ≠ [])
    (hrun : run <:+: ns.elements) : Readable filter ⟨ns.separator, run⟩ where
  ne_nil := hne
  element e he := h.element e (hrun.subset he)
  trailingLast := h.trailingLast.of_infix hrun
  trailing_mem htrailing := h.trailing_mem (hrun.subset htrailing)

theorem parse_eq_ok_iff (hseparator : separator ∉ ['[', '{', ']', '}']) {raw : String} :
    parse separator filter raw = .ok ns ↔
      ns.separator = separator ∧ ns.Readable filter ∧ ns.text = raw := by
  constructor
  · exact fun h => ⟨separator_of_parse h, readable_of_parse h, text_of_parse h⟩
  · rintro ⟨rfl, hreadable, rfl⟩
    exact hreadable.parse hseparator

/-! ## The cut of a text -/

/-- Every token behind a separator. -/
def written (separator : Char) (tokens : List String) : String :=
  String.ofList (tokens.flatMap fun token => separator :: token.toList)

/-- The text is cut into tokens that no separator cuts further, and that denote the elements. -/
structure Cuts (separator : Char) (filter : Bool) (raw : String) (tokens : List String)
    (elements : List Element) : Prop where
  raw_eq : raw = written separator tokens
  ne_nil : tokens ≠ []
  token : ∀ token ∈ tokens, token ≠ "" ∧ IsToken separator token.toList
  parse : List.Forall₂ (fun token e => Element.parse token = .ok e) tokens elements
  trailing : ∀ i, tokens[i]? = some "**" → filter = true ∧ i + 1 = tokens.length

theorem text_eq_written (ns : Namespace) :
    ns.text = written ns.separator (ns.elements.map Element.text) := by
  simp [text, charsOf, written, List.flatMap_map]

theorem eq_map_text {tokens : List String}
    (h : List.Forall₂ (fun token e => Element.parse token = .ok e) tokens elements) :
    tokens = elements.map Element.text := by
  induction h with
  | nil => rfl
  | cons hparse _ ih => rw [List.map_cons, ← ih, Element.text_of_parse hparse]

theorem forall₂_parse_map_text (h : ∀ e ∈ elements, e.WellFormed) :
    List.Forall₂ (fun token e => Element.parse token = .ok e) (elements.map Element.text)
      elements := by
  rw [List.forall₂_map_left_iff, List.forall₂_same]
  exact fun e he => Element.parse_text (h e he)

theorem trailing_iff_of_wellFormed (h : ∀ e ∈ elements, e.WellFormed) :
    (∀ i, (elements.map Element.text)[i]? = some "**" →
      filter = true ∧ i + 1 = (elements.map Element.text).length) ↔
    TrailingLast elements ∧ (.trailing ∈ elements → filter = true) := by
  have htoken : ∀ i, (elements.map Element.text)[i]? = some "**" ↔
      elements[i]? = some Element.trailing := fun i => by
    rw [List.getElem?_map, Option.map_eq_some_iff]
    constructor
    · rintro ⟨e, he, htext⟩
      rw [he, (Element.text_eq_iff_trailing (h e (List.mem_of_getElem? he))).mp htext]
    · exact fun he => ⟨Element.trailing, he, rfl⟩
  simp only [htoken, List.length_map, trailingLast_iff, List.mem_iff_getElem?]
  constructor
  · intro hall
    exact ⟨fun i hi => (hall i hi).2, fun ⟨i, hi⟩ => (hall i hi).1⟩
  · rintro ⟨hlast, hfilter⟩ i hi
    exact ⟨hfilter ⟨i, hi⟩, hlast i hi⟩

theorem cuts_iff {raw : String} {tokens : List String} :
    Cuts separator filter raw tokens elements ↔ tokens = elements.map Element.text ∧
      Readable filter ⟨separator, elements⟩ ∧ text ⟨separator, elements⟩ = raw := by
  constructor
  · intro h
    obtain rfl := eq_map_text h.parse
    have hwell : ∀ e ∈ elements, e.WellFormed := fun e he => by
      have hparse := List.forall₂_same.mp (List.forall₂_map_left_iff.mp h.parse) e he
      exact Element.wellFormed_of_ofChars hparse
    obtain ⟨hlast, hfilter⟩ := (trailing_iff_of_wellFormed hwell).mp h.trailing
    refine ⟨rfl, ⟨by simpa using h.ne_nil, fun e he => ⟨hwell e he, ?_⟩, hlast, hfilter⟩, ?_⟩
    · have htoken := (h.token e.text (List.mem_map_of_mem he)).2
      rwa [Element.toList_text] at htoken
    · rw [h.raw_eq, text_eq_written]
  · rintro ⟨rfl, hreadable, rfl⟩
    have hwell : ∀ e ∈ elements, e.WellFormed := fun e he => (hreadable.element e he).1
    refine ⟨text_eq_written _, by simpa using hreadable.ne_nil, ?_, forall₂_parse_map_text hwell,
      (trailing_iff_of_wellFormed hwell).mpr ⟨hreadable.trailingLast, hreadable.trailing_mem⟩⟩
    refine List.forall_mem_map.mpr fun e he => ⟨?_, ?_⟩
    · rw [ne_eq, ← String.toList_eq_nil_iff, Element.toList_text]
      exact Element.chars_ne_nil (hwell e he)
    · rw [Element.toList_text]
      exact (hreadable.element e he).2

/-- **A text is a path exactly if it can be cut into tokens of elements**, in one way only; it is
written as it was read, and so is every run of its elements. -/
theorem parse_iff_cuts (hseparator : separator ∉ ['[', '{', ']', '}']) (filter : Bool)
    (raw : String) :
    (∀ ns, parse separator filter raw = .ok ns ↔
      ns.separator = separator ∧ ∃ tokens, Cuts separator filter raw tokens ns.elements) ∧
    (∀ tokens tokens' elements elements', Cuts separator filter raw tokens elements →
      Cuts separator filter raw tokens' elements' → tokens = tokens' ∧ elements = elements') ∧
    ∀ ns, parse separator filter raw = .ok ns → ns.text = raw ∧
      (∀ raw', parse separator filter raw' = .ok ns → raw' = raw) ∧
      ∀ run, run ≠ [] → run <:+: ns.elements →
        parse separator filter (text ⟨separator, run⟩) = .ok ⟨separator, run⟩ := by
  refine ⟨fun ns => ?_, fun tokens tokens' elements elements' hcuts hcuts' => ?_,
    fun ns hread => ?_⟩
  · rw [parse_eq_ok_iff hseparator]
    refine and_congr_right ?_
    rintro rfl
    simp only [cuts_iff, exists_eq_left]
  · obtain ⟨rfl, hreadable, htext⟩ := cuts_iff.mp hcuts
    obtain ⟨rfl, hreadable', htext'⟩ := cuts_iff.mp hcuts'
    have hread := (parse_eq_ok_iff hseparator).mpr ⟨rfl, hreadable, htext⟩
    have hread' := (parse_eq_ok_iff hseparator).mpr ⟨rfl, hreadable', htext'⟩
    obtain rfl : elements = elements' :=
      congrArg Namespace.elements (Except.ok.inj (hread.symm.trans hread'))
    exact ⟨rfl, rfl⟩
  · obtain ⟨rfl, hreadable, htext⟩ := (parse_eq_ok_iff hseparator).mp hread
    refine ⟨htext, fun raw' hread' => ?_, fun run hne hrun => ?_⟩
    · rw [← htext, text_of_parse hread']
    · exact (hreadable.of_infix hne hrun).parse hseparator

/-- Separators within brackets do not cut, and a bracket may close one of the other kind. -/
theorem parse_cut_nested :
    ':' ∉ ['[', '{', ']', '}'] ∧
      ∃ ns, parse ':' true ":p:[g={a:]b}]:**" = .ok ns ∧
        Cuts ':' true ":p:[g={a:]b}]:**" ["p", "[g={a:]b}]", "**"] ns.elements := by
  have hseparator : ':' ∉ ['[', '{', ']', '}'] := by decide
  have htokens : (parse ':' true ":p:[g={a:]b}]:**").map (·.elements.map Element.text) =
      .ok ["p", "[g={a:]b}]", "**"] := by decide +kernel
  obtain ⟨ns, hread, htext⟩ := Except.exists_of_map_eq_ok htokens
  obtain ⟨-, tokens, hcuts⟩ := ((parse_iff_cuts hseparator true _).1 ns).mp hread
  rw [(cuts_iff.mp hcuts).1, htext] at hcuts
  exact ⟨hseparator, ns, hread, hcuts⟩

end Namespace

end Telemetry
