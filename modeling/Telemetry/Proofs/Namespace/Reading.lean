import Mathlib.Data.List.TakeWhile
import Telemetry.Proofs.Namespace.Text
import Telemetry.Settings.Basic

/-!
# What is written can be read

Reading undoes writing: well-formed elements are read back from their tokens (`ofChars_chars`), and
a path is cut where its elements meet, as long as no element is cut itself (`tokens_flatMap`). So
every path of names, groups, bound values and wildcards is read as it was (`parse_text`), whatever
the separator, because separators are neither brackets nor part of identifiers.

* `Namespace.depthAfter`: the brackets that are open behind a text.
* `Namespace.IsToken`: a text that no separator cuts.
* `Namespace.Separates`: what makes a character fit to be a separator.
-/

namespace Telemetry

/-! ## Elements -/

theorem Pattern.compile_raw (p : Pattern) : Pattern.compile p.raw = .ok p := by
  unfold Pattern.compile
  split
  · next regex hregex => exact congrArg Except.ok (Pattern.ext_raw rfl)
  · next fault hfault => exact nomatch hfault.symm.trans p.compiled

namespace Element

variable {token inner raw value : List Char} {e : Element}

theorem raw_ne_nil_of_compilePattern {p : Pattern} (h : compilePattern token raw = .ok p) :
    p.raw.toList ≠ [] := by
  rw [raw_of_compilePattern h]
  rintro rfl
  cases h

theorem wellFormed_of_ofBracketed (h : ofBracketed token inner = .ok e) : e.WellFormed := by
  unfold ofBracketed at h
  dsimp only at h
  split_ifs at h with hgroup
  simp only [Bool.not_eq_true', Bool.not_eq_false] at hgroup
  split at h
  · rw [← Except.ok.inj h, WellFormed, String.toList_ofList]
    exact hgroup
  · split at h
    · cases h
    · obtain ⟨p, hp, rfl⟩ := Except.exists_of_map_eq_ok h
      rw [WellFormed, String.toList_ofList]
      exact ⟨hgroup, raw_ne_nil_of_compilePattern hp⟩
    · split_ifs at h with hvalue
      rw [← Except.ok.inj h, WellFormed, String.toList_ofList, String.toList_ofList]
      exact ⟨hgroup, hvalue⟩

theorem wellFormed_of_ofUnbracketed (h : ofUnbracketed token = .ok e) : e.WellFormed := by
  unfold ofUnbracketed at h
  split at h
  · cases h
  · obtain ⟨p, hp, rfl⟩ := Except.exists_of_map_eq_ok h
    exact raw_ne_nil_of_compilePattern hp
  · split_ifs at h with hname
    rw [← Except.ok.inj h, WellFormed, String.toList_ofList]
    exact hname

theorem wellFormed_of_ofChars (h : ofChars token = .ok e) : e.WellFormed := by
  unfold ofChars at h
  split at h
  · cases h
  · rw [← Except.ok.inj h]
    trivial
  · rw [← Except.ok.inj h]
    trivial
  · split at h
    · cases h
    · exact wellFormed_of_ofBracketed h
    · exact wellFormed_of_ofUnbracketed h

/-! ### Elements from their tokens -/

theorem not_mem_of_isIdentifier {cs : List Char} {x : Char} (h : isIdentifier cs = true)
    (hx : isIdentifierChar x = false) : x ∉ cs := by
  intro hmem
  rw [isIdentifier, Bool.and_eq_true, List.all_eq_true] at h
  rw [h.2 x hmem] at hx
  cases hx

theorem exists_cons_of_isIdentifier {cs : List Char} (h : isIdentifier cs = true) :
    ∃ c rest, cs = c :: rest ∧ isIdentifierChar c = true := by
  cases cs with
  | nil => cases h
  | cons c rest =>
    rw [isIdentifier, Bool.and_eq_true, List.all_cons, Bool.and_eq_true] at h
    exact ⟨c, rest, rfl, h.2.1⟩

theorem enclosed_of_enclosed (opening closing : Char) (inner : List Char) :
    enclosed opening closing (opening :: (inner ++ [closing])) = .ok (some inner) := by
  simp [enclosed, List.getLast?_cons]

theorem enclosed_of_open {opening closing c : Char} {rest : List Char} (hc : c ≠ opening)
    (hlast : (c :: rest).getLast? ≠ some closing) :
    enclosed opening closing (c :: rest) = .ok none := by
  simp [enclosed, hc, hlast]

theorem enclosed_of_isIdentifier {opening closing : Char} {cs : List Char}
    (h : isIdentifier cs = true) (hopening : isIdentifierChar opening = false)
    (hclosing : isIdentifierChar closing = false) : enclosed opening closing cs = .ok none := by
  obtain ⟨c, rest, rfl, hc⟩ := exists_cons_of_isIdentifier h
  refine enclosed_of_open ?_ fun hlast => ?_
  · rintro rfl
    rw [hc] at hopening
    cases hopening
  · exact not_mem_of_isIdentifier h hclosing (List.mem_of_getLast? hlast)

theorem compilePattern_raw (token : List Char) {p : Pattern} (h : p.raw.toList ≠ []) :
    compilePattern token p.raw.toList = .ok p := by
  simp [compilePattern, h, Pattern.compile_raw]

theorem bne_of_isIdentifier {cs : List Char} (h : isIdentifier cs = true) :
    ∀ c ∈ cs, (c != '=') = true := fun c hc => by
  simpa using fun heq : c = '=' => not_mem_of_isIdentifier h (by decide) (heq ▸ hc)

theorem takeWhile_group {g : String} (h : isIdentifier g.toList = true) (rest : List Char) :
    (g.toList ++ '=' :: rest).takeWhile (· != '=') = g.toList := by
  rw [List.takeWhile_append_of_pos (bne_of_isIdentifier h)]
  simp

theorem dropWhile_group {g : String} (h : isIdentifier g.toList = true) (rest : List Char) :
    (g.toList ++ '=' :: rest).dropWhile (· != '=') = '=' :: rest := by
  rw [List.dropWhile_append_of_pos (bne_of_isIdentifier h)]
  simp

theorem ofBracketed_group (token : List Char) {g : String} (h : isIdentifier g.toList = true) :
    ofBracketed token g.toList = .ok (.group g) := by
  have hne := bne_of_isIdentifier h
  simp [ofBracketed, List.takeWhile_eq_self_iff.mpr hne, List.dropWhile_eq_nil_iff.mpr hne, h]

theorem ofBracketed_bound (token : List Char) {g v : String} (hg : isIdentifier g.toList = true)
    (hv : isIdentifier v.toList = true) :
    ofBracketed token (g.toList ++ '=' :: v.toList) = .ok (.bound g v) := by
  have hunbraced : enclosed '{' '}' v.toList = .ok none :=
    enclosed_of_isIdentifier hv (by decide) (by decide)
  simp [ofBracketed, takeWhile_group hg, dropWhile_group hg, hg, hv, hunbraced]

theorem ofBracketed_groupPattern (token : List Char) {g : String} {p : Pattern}
    (hg : isIdentifier g.toList = true) (hp : p.raw.toList ≠ []) :
    ofBracketed token (g.toList ++ '=' :: ('{' :: (p.raw.toList ++ ['}']))) =
      .ok (.groupPattern g p) := by
  simp only [ofBracketed, takeWhile_group hg, dropWhile_group hg, hg, enclosed_of_enclosed,
    compilePattern_raw token hp]
  simp [Except.map]

theorem ofChars_cons {c : Char} (hc : c ≠ '*') (rest : List Char) :
    ofChars (c :: rest) = match enclosed '[' ']' (c :: rest) with
      | .error e => .error e
      | .ok (some inner) => ofBracketed (c :: rest) inner
      | .ok none => ofUnbracketed (c :: rest) := by
  unfold ofChars
  split
  · next h => cases h
  · next h => exact absurd (List.cons.inj h).1 hc
  · next h => exact absurd (List.cons.inj h).1 hc
  · rfl

/-- **Well-formed elements are read as they are written.** -/
theorem ofChars_chars (h : e.WellFormed) : ofChars e.chars = .ok e := by
  cases e with
  | wildcard => rfl
  | trailing => rfl
  | name text =>
    obtain ⟨c, rest, hcs, hc⟩ := exists_cons_of_isIdentifier h
    have hstar : c ≠ '*' := by
      rintro rfl
      cases hc
    have hname : isIdentifier text.toList = true := h
    have hunbraced : enclosed '{' '}' text.toList = .ok none :=
      enclosed_of_isIdentifier hname (by decide) (by decide)
    rw [chars, hcs, ofChars_cons hstar, ← hcs,
      enclosed_of_isIdentifier hname (by decide) (by decide)]
    simp [ofUnbracketed, hname, hunbraced]
  | pattern p =>
    have hopen : enclosed '[' ']' ('{' :: (p.raw.toList ++ ['}'])) = .ok none :=
      enclosed_of_open (by decide) (by simp [List.getLast?_cons])
    rw [chars, ofChars_cons (by decide), hopen]
    simp only [ofUnbracketed, enclosed_of_enclosed, compilePattern_raw _ h]
    rfl
  | group g =>
    rw [chars, ofChars_cons (by decide), enclosed_of_enclosed]
    exact ofBracketed_group _ h
  | bound g v =>
    have hchars : (bound g v).chars = '[' :: ((g.toList ++ '=' :: v.toList) ++ [']']) := by
      simp [chars]
    rw [hchars, ofChars_cons (by decide), enclosed_of_enclosed]
    exact ofBracketed_bound _ h.1 h.2
  | groupPattern g p =>
    have hchars : (groupPattern g p).chars =
        '[' :: ((g.toList ++ '=' :: ('{' :: (p.raw.toList ++ ['}']))) ++ [']']) := by
      simp [chars]
    rw [hchars, ofChars_cons (by decide), enclosed_of_enclosed]
    exact ofBracketed_groupPattern _ h.1 h.2

theorem chars_ne_nil (h : e.WellFormed) : e.chars ≠ [] := by
  intro hnil
  have hread := ofChars_chars h
  rw [hnil] at hread
  cases hread

end Element

/-! ## Tokens -/

namespace Namespace

variable {separator : Char} {depth depth' : Nat} {token cs rest : List Char}

/-- How many brackets are open behind a text, unless a separator cuts it. -/
def depthAfter (separator : Char) : (depth : Nat) → List Char → Option Nat
  | depth, [] => some depth
  | depth, c :: cs =>
    if c = '[' ∨ c = '{' then depthAfter separator (depth + 1) cs
    else if c = ']' ∨ c = '}' then depthAfter separator (depth - 1) cs
    else if c = separator ∧ depth = 0 then none
    else depthAfter separator depth cs

/-- Neither a separator nor a bracket. -/
def IsPlain (separator c : Char) : Prop := c ≠ separator ∧ c ∉ ['[', '{', ']', '}']

/-- A text that no separator cuts and that closes its brackets. -/
def IsToken (separator : Char) (cs : List Char) : Prop := depthAfter separator 0 cs = some 0

theorem depthAfter_append (cs rest : List Char) :
    depthAfter separator depth (cs ++ rest) =
      (depthAfter separator depth cs).bind (depthAfter separator · rest) := by
  induction cs generalizing depth with
  | nil => rfl
  | cons c cs ih =>
    simp only [List.cons_append, depthAfter, ih]
    split_ifs <;> rfl

theorem depthAfter_of_plain (h : ∀ c ∈ cs, IsPlain separator c) :
    depthAfter separator depth cs = some depth := by
  induction cs with
  | nil => rfl
  | cons c cs ih =>
    obtain ⟨⟨hseparator, hbracket⟩, hcs⟩ := List.forall_mem_cons.mp h
    simp only [List.mem_cons, List.not_mem_nil, or_false, not_or] at hbracket
    simp [depthAfter, hseparator, hbracket, ih hcs]

theorem tokensFrom_append (h : depthAfter separator depth cs = some depth') :
    tokensFrom separator depth token (cs ++ rest) =
      tokensFrom separator depth' (cs.reverse ++ token) rest := by
  induction cs generalizing depth token with
  | nil =>
    cases h
    rfl
  | cons c cs ih =>
    simp only [depthAfter] at h
    simp only [List.cons_append, tokensFrom]
    split_ifs at h ⊢ <;> simpa using ih h

theorem tokens_flatMap (hseparator : separator ∉ ['[', '{', ']', '}'])
    (htoken : IsToken separator token)
    {ts : List (List Char)} (hts : ∀ t ∈ ts, IsToken separator t) :
    tokens separator (token ++ ts.flatMap (separator :: ·)) = .ok (token :: ts) := by
  simp only [List.mem_cons, List.not_mem_nil, or_false, not_or] at hseparator
  induction ts generalizing token with
  | nil =>
    rw [tokens, tokensFrom_append htoken]
    simp [tokensFrom]
  | cons t ts ih =>
    obtain ⟨ht, hts⟩ := List.forall_mem_cons.mp hts
    rw [tokens, tokensFrom_append htoken, List.flatMap_cons, List.cons_append, tokensFrom]
    rw [if_neg (by simp [hseparator]), if_neg (by simp [hseparator]), if_pos ⟨rfl, rfl⟩, ← tokens,
      ih ht hts]
    simp [Except.map]

/-! ## Paths -/

variable {filter : Bool} {elements : List Element}

theorem elementsFrom_map_chars (position : Nat) (h : ∀ e ∈ elements, e.WellFormed)
    (hlast : TrailingLast elements) (hfilter : .trailing ∈ elements → filter = true) :
    elementsFrom filter position (elements.map Element.chars) = .ok elements := by
  induction elements generalizing position with
  | nil => rfl
  | cons e rest ih =>
    obtain ⟨he, hrest⟩ := List.forall_mem_cons.mp h
    have hbelow : elementsFrom filter (position + 1) (rest.map Element.chars) = .ok rest :=
      ih (position + 1) hrest hlast.of_cons fun hmem => hfilter (List.mem_cons_of_mem _ hmem)
    have hallowed : ¬ (e = .trailing ∧ filter = false) := by
      rintro ⟨rfl, hfalse⟩
      rw [hfilter List.mem_cons_self] at hfalse
      cases hfalse
    have hend : ¬ (e = .trailing ∧ rest.map Element.chars ≠ []) := by
      rintro ⟨rfl, hne⟩
      exact hne (by rw [hlast.eq_nil, List.map_nil])
    rw [List.map_cons, elementsFrom, if_neg (by simpa using Element.chars_ne_nil he),
      Element.ofChars_chars he]
    simp only [if_neg hallowed, if_neg hend, hbelow]
    rfl

theorem parse_text_of_isToken (hseparator : separator ∉ ['[', '{', ']', '}']) (hne : elements ≠ [])
    (h : ∀ e ∈ elements, e.WellFormed ∧ IsToken separator e.chars) (hlast : TrailingLast elements)
    (hfilter : .trailing ∈ elements → filter = true) :
    parse separator filter (text ⟨separator, elements⟩) = .ok ⟨separator, elements⟩ := by
  obtain ⟨e, rest, rfl⟩ := List.exists_cons_of_ne_nil hne
  have hread := elementsFrom_map_chars 0 (fun e he => (h e he).1) hlast hfilter
  obtain ⟨⟨hwell, htoken⟩, hrest⟩ := List.forall_mem_cons.mp h
  have hcs : charsOf separator (e :: rest) =
      separator :: (e.chars ++ (rest.map Element.chars).flatMap (separator :: ·)) := by
    simp [charsOf, List.flatMap_map]
  have htokens : ∀ t ∈ rest.map Element.chars, IsToken separator t :=
    List.forall_mem_map.mpr fun e he => (hrest e he).2
  have hcut := tokens_flatMap hseparator htoken htokens
  rw [parse, text, String.toList_ofList, hcs, ofChars, if_neg (by simp),
    if_neg (by simp [Element.chars_ne_nil hwell]), hcut]
  dsimp only
  rw [← List.map_cons, hread]
  rfl

/-! ## Settings keep separators out of elements -/

/-- What paths rely on in a separator: it stands in no identifier and has no meaning in elements. -/
def Separates (separator : Char) : Prop :=
  separator ∉ reservedChars ∧ separator.isAlphanum = false

instance (separator : Char) : Decidable (Separates separator) := inferInstanceAs (Decidable (_ ∧ _))

theorem separates_of_isSeparator (h : isSeparator separator = true) : Separates separator := by
  rw [isSeparator, Bool.not_eq_true', Bool.or_eq_false_iff, Bool.or_eq_false_iff] at h
  refine ⟨by simpa using h.2, Bool.eq_false_iff.mpr fun hc => ?_⟩
  simp [Unicode.isAlphanumeric_of_isAlphanum hc] at h

namespace Separates

theorem not_isIdentifierChar (h : Separates separator) : isIdentifierChar separator = false := by
  have hmarks : separator ≠ '_' ∧ separator ≠ '-' ∧ separator ≠ '.' := by
    refine ⟨?_, ?_, ?_⟩ <;> rintro rfl <;> exact h.1 (by decide)
  simp [isIdentifierChar, h.2, hmarks]

theorem not_bracket (h : Separates separator) : separator ∉ ['[', '{', ']', '}'] := by
  simp only [List.mem_cons, List.not_mem_nil, or_false, not_or]
  refine ⟨?_, ?_, ?_, ?_⟩ <;> rintro rfl <;> exact h.1 (by decide)

end Separates

theorem plain_of_isIdentifier (h : Separates separator) (hcs : isIdentifier cs = true) :
    ∀ c ∈ cs, IsPlain separator c := by
  intro c hc
  have hident : isIdentifierChar c = true := by
    rw [isIdentifier, Bool.and_eq_true, List.all_eq_true] at hcs
    exact hcs.2 c hc
  refine ⟨?_, fun hbracket => ?_⟩
  · rintro rfl
    rw [h.not_isIdentifierChar] at hident
    cases hident
  · have hnone : ∀ c ∈ ['[', '{', ']', '}'], isIdentifierChar c = false := by
      rw [List.forall_mem_cons, List.forall_mem_cons, List.forall_mem_cons,
        List.forall_mem_singleton]
      decide
    rw [hnone c hbracket] at hident
    cases hident

theorem isToken_of_plain (h : ∀ c ∈ cs, IsPlain separator c) :
    IsToken separator ('[' :: (cs ++ [']'])) := by
  rw [IsToken, depthAfter, if_pos (.inl rfl), depthAfter_append, depthAfter_of_plain h]
  simp [depthAfter]

theorem isToken_chars {e : Element} (h : Separates separator) (he : e.WellFormed)
    (hpattern : e.pattern? = none) : IsToken separator e.chars := by
  have hreserved : ∀ c ∈ ['*', '='], c ∈ reservedChars ∧ c ∉ ['[', '{', ']', '}'] := by
    rw [List.forall_mem_cons, List.forall_mem_singleton]
    decide
  have hplain : ∀ c ∈ ['*', '='], IsPlain separator c := by
    intro c hc
    refine ⟨?_, (hreserved c hc).2⟩
    rintro rfl
    exact h.1 (hreserved c hc).1
  cases e with
  | name text => exact depthAfter_of_plain (plain_of_isIdentifier h he)
  | wildcard => exact depthAfter_of_plain fun c hc => hplain c (by simp_all [Element.chars])
  | trailing => exact depthAfter_of_plain fun c hc => hplain c (by simp_all [Element.chars])
  | group g => exact isToken_of_plain (plain_of_isIdentifier h he)
  | bound g v =>
    have hchars : (Element.bound g v).chars = '[' :: ((g.toList ++ '=' :: v.toList) ++ [']']) := by
      simp [Element.chars]
    rw [hchars]
    refine isToken_of_plain (List.forall_mem_append.mpr ⟨plain_of_isIdentifier h he.1, ?_⟩)
    exact List.forall_mem_cons.mpr ⟨hplain '=' (by simp), plain_of_isIdentifier h he.2⟩
  | pattern p => cases hpattern
  | groupPattern g p => cases hpattern

/-- **A path without patterns is read as it is written.** -/
theorem parse_text (hseparator : Separates separator) (hne : elements ≠ [])
    (h : ∀ e ∈ elements, e.WellFormed) (hpattern : ∀ e ∈ elements, e.pattern? = none)
    (hlast : TrailingLast elements) (hfilter : .trailing ∈ elements → filter = true) :
    parse separator filter (text ⟨separator, elements⟩) = .ok ⟨separator, elements⟩ :=
  parse_text_of_isToken hseparator.not_bracket hne
    (fun e he => ⟨h e he, isToken_chars hseparator (h e he) (hpattern e he)⟩) hlast hfilter

theorem parse_text_of_single (hseparator : Separates separator) (hne : elements ≠ [])
    (h : ∀ e ∈ elements, e.WellFormed ∧ e.pattern? = none ∧ e ≠ .trailing) :
    parse separator filter (text ⟨separator, elements⟩) = .ok ⟨separator, elements⟩ := by
  have htrailing : .trailing ∉ elements := fun he => (h _ he).2.2 rfl
  exact parse_text hseparator hne (fun e he => (h e he).1) (fun e he => (h e he).2.1)
    (fun he => htrailing (List.dropLast_subset _ he)) fun he => absurd he htrailing

/-! ## What was read -/

theorem wellFormed_of_elementsFrom {position : Nat} {tokens : List (List Char)}
    (h : elementsFrom filter position tokens = .ok elements) : ∀ e ∈ elements, e.WellFormed := by
  induction tokens generalizing position elements with
  | nil =>
    cases h
    simp
  | cons token rest ih =>
    unfold elementsFrom at h
    split_ifs at h
    split at h
    · cases h
    · next e he =>
      split_ifs at h
      obtain ⟨more, hmore, rfl⟩ := Except.exists_of_map_eq_ok h
      exact List.forall_mem_cons.mpr ⟨Element.wellFormed_of_ofChars he, ih hmore⟩

theorem wellFormed_of_parse {text : String} {ns : Namespace}
    (h : parse separator filter text = .ok ns) : ∀ e ∈ ns.elements, e.WellFormed := by
  obtain ⟨rest, ts, elements, -, -, helements, rfl⟩ := exists_of_ofChars h
  exact wellFormed_of_elementsFrom helements

end Namespace

end Telemetry
