import Mathlib.Data.List.Basic
import Telemetry.Namespace.Parser

/-!
# Reading paths is lossless

Every path is written as it was read (`text_of_parse`): the tokens are the text cut at separators,
and each element is written as its token. Read paths are not empty, and `**` stands nowhere in them
but at the end of a filter.

* `TrailingLast`: `**` can only be the last element.
-/

namespace Telemetry

theorem Except.exists_of_map_eq_ok {ε α β : Type} {x : Except ε α} {f : α → β} {b : β}
    (h : x.map f = .ok b) : ∃ a, x = .ok a ∧ f a = b := by
  cases x with
  | error e => cases h
  | ok a => exact ⟨a, rfl, Except.ok.inj h⟩

namespace Element

variable {token inner raw : List Char} {e : Element}

/-! ## Elements -/

theorem eq_of_enclosed {opening closing : Char}
    (h : enclosed opening closing token = .ok (some inner)) :
    token = opening :: (inner ++ [closing]) := by
  unfold enclosed at h
  cases token with
  | nil => cases h
  | cons c rest =>
    dsimp only at h
    split_ifs at h with hc hclose
    · simp only [Bool.and_eq_true, beq_iff_eq, Bool.not_eq_true', List.isEmpty_eq_false_iff]
        at hclose
      obtain ⟨hlast, hne⟩ := hclose
      obtain rfl : rest.dropLast = inner := Option.some.inj (Except.ok.inj h)
      rw [List.getLast?_cons, List.getLast?_eq_some_getLast hne] at hlast
      rw [hc, ← Option.some.inj hlast, Option.getD_some, List.dropLast_append_getLast hne]
    · cases h

theorem raw_of_compilePattern {p : Pattern} (h : compilePattern token raw = .ok p) :
    p.raw.toList = raw := by
  unfold compilePattern at h
  split_ifs at h
  cases hp : Pattern.compile (String.ofList raw) with
  | error fault => simp [hp] at h
  | ok q =>
    rw [hp] at h
    rw [← Except.ok.inj h, Pattern.raw_of_compile hp, String.toList_ofList]

theorem chars_of_ofBracketed (h : ofBracketed token inner = .ok e) :
    e.chars = '[' :: (inner ++ [']']) := by
  have hinner := List.takeWhile_append_dropWhile (p := (· != '=')) (l := inner)
  unfold ofBracketed at h
  dsimp only at h
  split_ifs at h
  split at h
  · next hdrop =>
    rw [hdrop, List.append_nil] at hinner
    rw [← Except.ok.inj h, chars, String.toList_ofList, hinner]
  · next eq value hdrop =>
    have heq : eq = '=' := by
      have := List.head_dropWhile_not (p := (· != '=')) (l := inner) (by simp [hdrop])
      simpa [hdrop] using this
    rw [hdrop, heq] at hinner
    split at h
    · cases h
    · next raw hraw =>
      obtain ⟨p, hp, rfl⟩ := Except.exists_of_map_eq_ok h
      rw [chars, raw_of_compilePattern hp, String.toList_ofList]
      conv_rhs => rw [← hinner, eq_of_enclosed hraw]
      simp
    · split_ifs at h
      rw [← Except.ok.inj h]
      conv_rhs => rw [← hinner]
      simp [chars]

theorem chars_of_ofUnbracketed (h : ofUnbracketed token = .ok e) : e.chars = token := by
  unfold ofUnbracketed at h
  split at h
  · cases h
  · next raw hraw =>
    obtain ⟨p, hp, rfl⟩ := Except.exists_of_map_eq_ok h
    rw [chars, raw_of_compilePattern hp, eq_of_enclosed hraw]
  · split_ifs at h
    rw [← Except.ok.inj h, chars, String.toList_ofList]

theorem chars_of_ofChars (h : ofChars token = .ok e) : e.chars = token := by
  unfold ofChars at h
  split at h
  · cases h
  · rw [← Except.ok.inj h, chars]
  · rw [← Except.ok.inj h, chars]
  · split at h
    · cases h
    · next inner hinner => rw [chars_of_ofBracketed h, eq_of_enclosed hinner]
    · exact chars_of_ofUnbracketed h

end Element

/-- `**` stands nowhere but at the end. -/
def TrailingLast (path : List Element) : Prop := .trailing ∉ path.dropLast

theorem TrailingLast.of_cons {e : Element} {rest : List Element} (h : TrailingLast (e :: rest)) :
    TrailingLast rest := by
  cases rest with
  | nil => exact List.not_mem_nil
  | cons next rest =>
    rw [TrailingLast, List.dropLast_cons_cons, List.mem_cons, not_or] at h
    exact h.2

theorem TrailingLast.eq_nil {rest : List Element} (h : TrailingLast (.trailing :: rest)) :
    rest = [] := by
  cases rest with
  | nil => rfl
  | cons next rest =>
    rw [TrailingLast, List.dropLast_cons_cons] at h
    exact absurd List.mem_cons_self h

namespace Namespace

variable {separator : Char} {filter : Bool} {ns : Namespace}

/-! ## Tokens -/

theorem tokensFrom_lossless {depth : Nat} {token cs : List Char} {tokens : List (List Char)}
    (h : tokensFrom separator depth token cs = .ok tokens) :
    tokens.flatMap (separator :: ·) = separator :: (token.reverse ++ cs) := by
  induction cs generalizing depth token tokens with
  | nil =>
    unfold tokensFrom at h
    split_ifs at h
    rw [← Except.ok.inj h]
    simp
  | cons c cs ih =>
    unfold tokensFrom at h
    split_ifs at h with hopen hclose hsep
    · simpa using ih h
    · simpa using ih h
    · obtain ⟨more, hmore, rfl⟩ := Except.exists_of_map_eq_ok h
      rw [List.flatMap_cons, ih hmore, hsep.1]
      simp
    · simpa using ih h

theorem tokens_ne_nil {cs : List Char} {ts : List (List Char)} (h : tokens separator cs = .ok ts) :
    ts ≠ [] := by
  rintro rfl
  simpa using tokensFrom_lossless h

/-! ## Elements in turn -/

theorem chars_of_elementsFrom {position : Nat} {tokens : List (List Char)} {elements : List Element}
    (h : elementsFrom filter position tokens = .ok elements) :
    elements.map Element.chars = tokens := by
  induction tokens generalizing position elements with
  | nil => rw [← Except.ok.inj h, List.map_nil]
  | cons token rest ih =>
    unfold elementsFrom at h
    split_ifs at h
    split at h
    · cases h
    · next e he =>
      split_ifs at h
      obtain ⟨more, hmore, rfl⟩ := Except.exists_of_map_eq_ok h
      rw [List.map_cons, ih hmore, Element.chars_of_ofChars he]

theorem trailingLast_of_elementsFrom {position : Nat} {tokens : List (List Char)}
    {elements : List Element} (h : elementsFrom filter position tokens = .ok elements) :
    TrailingLast elements := by
  induction tokens generalizing position elements with
  | nil =>
    rw [← Except.ok.inj h]
    exact List.not_mem_nil
  | cons token rest ih =>
    unfold elementsFrom at h
    split_ifs at h
    split at h
    · cases h
    · next e he =>
      split_ifs at h with _ hlast
      obtain ⟨more, hmore, rfl⟩ := Except.exists_of_map_eq_ok h
      cases more with
      | nil => exact List.not_mem_nil
      | cons next more =>
        have hrest : rest ≠ [] := by
          rintro rfl
          exact absurd (Except.ok.inj hmore) (List.cons_ne_nil _ _).symm
        rw [TrailingLast, List.dropLast_cons_cons, List.mem_cons, not_or]
        exact ⟨fun htrailing => hlast ⟨htrailing.symm, hrest⟩, ih hmore⟩

/-! ## Paths -/

theorem exists_of_ofChars {cs : List Char} (h : ofChars separator filter cs = .ok ns) :
    ∃ rest ts elements, cs = separator :: rest ∧ tokens separator rest = .ok ts ∧
      elementsFrom filter 0 ts = .ok elements ∧ ns = ⟨separator, elements⟩ := by
  cases cs with
  | nil => cases h
  | cons c rest =>
    rw [ofChars] at h
    split_ifs at h with hc
    split at h
    · cases h
    · next ts hts =>
      obtain ⟨elements, helements, rfl⟩ := Except.exists_of_map_eq_ok h
      exact ⟨rest, ts, elements, by rw [not_not.mp hc], hts, helements, rfl⟩

/-- **A path is written as it was read.** -/
theorem text_of_parse {text : String} (h : parse separator filter text = .ok ns) :
    ns.text = text := by
  obtain ⟨rest, ts, elements, hcs, hts, helements, rfl⟩ := exists_of_ofChars h
  have hchars : charsOf separator elements = ts.flatMap (separator :: ·) := by
    rw [← chars_of_elementsFrom helements, List.flatMap_map]
    rfl
  rw [Namespace.text, hchars, tokensFrom_lossless hts, List.reverse_nil, List.nil_append, ← hcs,
    String.ofList_toList]

theorem separator_of_parse {text : String} (h : parse separator filter text = .ok ns) :
    ns.separator = separator := by
  obtain ⟨rest, ts, elements, -, -, -, rfl⟩ := exists_of_ofChars h
  rfl

theorem elements_ne_nil_of_parse {text : String} (h : parse separator filter text = .ok ns) :
    ns.elements ≠ [] := by
  obtain ⟨rest, ts, elements, -, hts, helements, rfl⟩ := exists_of_ofChars h
  rintro rfl
  exact tokens_ne_nil hts (chars_of_elementsFrom helements).symm

theorem trailingLast_of_parse {text : String} (h : parse separator filter text = .ok ns) :
    TrailingLast ns.elements := by
  obtain ⟨rest, ts, elements, -, -, helements, rfl⟩ := exists_of_ofChars h
  exact trailingLast_of_elementsFrom helements

end Namespace

end Telemetry
