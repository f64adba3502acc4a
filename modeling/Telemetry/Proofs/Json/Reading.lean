import Telemetry.Json.Writer
import Telemetry.Proofs.Json.Number

/-!
# JSON reads back

A value that fits into JSON is read back from its text (`Json.parse_write`). Every value ends where
it was written to end: strings are closed by the first quote that is not escaped, numbers by what
stops them, and arrays and objects by their own brackets.

* `Json.Fits`: values without numbers beyond their kinds.
* `Json.Reads`: a value is read back wherever it is written.
-/

namespace Telemetry.Json

variable {c : Char} {cs rest : List Char}

/-! ## Strings -/

theorem hexValue_hexDigit {n : Nat} (h : n < 16) : hexValue (hexDigit n) = some n := by
  have hall : ∀ n < 16, hexValue (hexDigit n) = some n := by decide
  exact hall n h

/-- A part of a string stands for a character. -/
def Piece.Denotes (p : Piece) (c : Char) : Prop :=
  ∀ ps, joinPieces (p :: ps) = (joinPieces ps).map (c :: ·)

theorem denotes_char (c : Char) : (Piece.char c).Denotes c := fun _ => rfl

theorem denotes_unit (h : c.toNat < 0xD800) : (Piece.unit c.toNat).Denotes c := by
  intro ps
  have hhigh : ¬ (0xD800 ≤ c.toNat ∧ c.toNat < 0xDC00) := by omega
  have hlow : ¬ (0xDC00 ≤ c.toNat ∧ c.toNat < 0xE000) := by omega
  rw [joinPieces.eq_def]
  simp only [if_neg hhigh, if_neg hlow, Char.ofNat_toNat]

theorem readPieces_simple {e : Char} (he : simpleEscape e = some c) (hu : e ≠ 'u') :
    readPieces ('\\' :: e :: cs) = (readPieces cs).map fun read => (.char c :: read.1, read.2) := by
  rw [readPieces]
  · rw [he]
    cases readPieces cs <;> rfl
  · intro a b c d cs heq
    exact absurd heq hu

theorem readPieces_unit (h : c.toNat < 0x20) :
    readPieces ('\\' :: 'u' :: '0' :: '0' :: hexDigit (c.toNat / 16) :: hexDigit (c.toNat % 16) :: cs) =
      (readPieces cs).map fun read => (.unit c.toNat :: read.1, read.2) := by
  have hunit : hexUnit '0' '0' (hexDigit (c.toNat / 16)) (hexDigit (c.toNat % 16)) = some c.toNat := by
    have hzero : hexValue '0' = some 0 := by decide
    rw [hexUnit, hzero, hexValue_hexDigit (by omega), hexValue_hexDigit (by omega)]
    refine congrArg some ?_
    omega
  rw [readPieces, hunit]
  cases readPieces cs <;> rfl

theorem readPieces_plain (hquote : c ≠ '"') (hslash : c ≠ '\\') (h : ¬ c.toNat < 0x20) :
    readPieces (c :: cs) = (readPieces cs).map fun read => (.char c :: read.1, read.2) := by
  rw [readPieces]
  · rw [if_neg (not_or.mpr ⟨hslash, h⟩)]
  all_goals
    intros
    simp_all

theorem readPieces_escapeChar (c : Char) : ∃ p : Piece, p.Denotes c ∧
    ∀ cs, readPieces (escapeChar c ++ cs) = (readPieces cs).map fun read => (p :: read.1, read.2) := by
  have hsimple : ∀ c e, simpleEscape e = some c → e ≠ 'u' → ∃ p : Piece, p.Denotes c ∧
      ∀ cs, readPieces (['\\', e] ++ cs) = (readPieces cs).map fun read => (p :: read.1, read.2) :=
    fun c e he hu => ⟨.char c, denotes_char c, fun cs => readPieces_simple he hu⟩
  unfold escapeChar
  split_ifs with h₁ h₂ h₃ h₄ h₅ h₆ h₇ h₈
  · subst h₁
    exact hsimple _ _ rfl (by decide)
  · subst h₂
    exact hsimple _ _ rfl (by decide)
  · subst h₃
    exact hsimple _ _ rfl (by decide)
  · subst h₄
    exact hsimple _ _ rfl (by decide)
  · subst h₅
    exact hsimple _ _ rfl (by decide)
  · subst h₆
    exact hsimple _ _ rfl (by decide)
  · subst h₇
    exact hsimple _ _ rfl (by decide)
  · exact ⟨.unit c.toNat, denotes_unit (by omega), fun cs => readPieces_unit h₈⟩
  · exact ⟨.char c, denotes_char c, fun cs => readPieces_plain h₁ h₂ h₈⟩

theorem readPieces_escaped (text : List Char) : ∃ ps, joinPieces ps = some text ∧
    ∀ rest, readPieces (text.flatMap escapeChar ++ '"' :: rest) = some (ps, rest) := by
  induction text with
  | nil => exact ⟨[], rfl, fun rest => rfl⟩
  | cons c text ih =>
    obtain ⟨ps, hps, hread⟩ := ih
    obtain ⟨p, hp, hchar⟩ := readPieces_escapeChar c
    refine ⟨p :: ps, by rw [hp, hps]; rfl, fun rest => ?_⟩
    rw [List.flatMap_cons, List.append_assoc, hchar, hread]
    rfl

theorem readString_quote (s : String) : ∃ cs, (∀ rest, quote s ++ rest = '"' :: (cs ++ rest)) ∧
    ∀ rest, readString (cs ++ rest) = some (some s, rest) := by
  obtain ⟨ps, hps, hread⟩ := readPieces_escaped s.toList
  refine ⟨s.toList.flatMap escapeChar ++ ['"'], fun rest => rfl, fun rest => ?_⟩
  rw [List.append_assoc, readString, List.singleton_append, hread, Option.map_some]
  dsimp only
  rw [hps, Option.map_some, String.ofList_toList]

/-! ## Values -/

variable (readFloat : String → Option Double)

mutual
/-- All numbers within the value fit into their kinds and are read back, and all of it has a value. -/
def Fits : Json → Prop
  | invalid => False
  | number n => n.Fits readFloat
  | array items => FitItems items
  | object members => FitMembers members
  | _ => True

def FitItems : List Json → Prop
  | [] => True
  | item :: rest => item.Fits ∧ FitItems rest

def FitMembers : List (String × Json) → Prop
  | [] => True
  | (_, value) :: rest => value.Fits ∧ FitMembers rest
end

/-- The value is read back wherever it is written. -/
structure Reads (j : Json) : Prop where
  head : ∃ c cs, j.chars = c :: cs ∧ isSpace c = false ∧ c ≠ ']'
  read : ∀ fuel rest, j.chars.length ≤ fuel → Stops rest →
    readValue readFloat fuel (j.chars ++ rest) = some (j, rest)

/-- The items of an array up to its closing bracket. -/
def itemsChars : List Json → List Char
  | [] => []
  | item :: rest => item.chars ++ charsOfItems rest

/-- The members of an object up to its closing brace. -/
def membersChars : List (String × Json) → List Char
  | [] => []
  | (key, value) :: rest => quote key ++ ':' :: (value.chars ++ charsOfMembers rest)

def ReadsItems (items : List Json) : Prop :=
  ∀ fuel rest, (itemsChars items).length ≤ fuel →
    readItems readFloat fuel (itemsChars items ++ rest) = some (items, rest)

def ReadsMembers (members : List (String × Json)) : Prop :=
  ∀ fuel rest, (membersChars members).length ≤ fuel →
    readMembers readFloat fuel (membersChars members ++ rest) = some (some members, rest)

variable {readFloat}

theorem skipSpaces_cons (h : isSpace c = false) : skipSpaces (c :: cs) = c :: cs := by
  rw [skipSpaces, List.dropWhile_cons, h]
  rfl

theorem stops_charsOfItems (items : List Json) : Stops (charsOfItems items ++ rest) := by
  intro c hc
  cases items with
  | nil =>
    obtain rfl := Option.some.inj hc
    exact .inr (.inl rfl)
  | cons item items =>
    obtain rfl := Option.some.inj hc
    exact .inl rfl

theorem stops_charsOfMembers (members : List (String × Json)) :
    Stops (charsOfMembers members ++ rest) := by
  intro c hc
  cases members with
  | nil =>
    obtain rfl := Option.some.inj hc
    exact .inr (.inr rfl)
  | cons member members =>
    obtain rfl := Option.some.inj hc
    exact .inl rfl

theorem Reads.of_succ {j : Json} (hhead : ∃ c cs, j.chars = c :: cs ∧ isSpace c = false ∧ c ≠ ']')
    (hread : ∀ fuel rest, j.chars.length ≤ fuel + 1 → Stops rest →
      readValue readFloat (fuel + 1) (j.chars ++ rest) = some (j, rest)) : Reads readFloat j := by
  refine ⟨hhead, fun fuel rest hfuel hstops => ?_⟩
  cases fuel with
  | zero =>
    obtain ⟨c, cs, hcs, -⟩ := hhead
    rw [hcs] at hfuel
    exact absurd hfuel (Nat.not_succ_le_zero _)
  | succ fuel => exact hread fuel rest hfuel hstops

/-! ### Scalars -/

theorem reads_null : Reads readFloat null :=
  .of_succ ⟨_, _, rfl, rfl, by decide⟩ fun _ _ _ _ => rfl

theorem reads_bool (b : Bool) : Reads readFloat (bool b) := by
  cases b
  · exact .of_succ ⟨_, _, rfl, rfl, by decide⟩ fun _ _ _ _ => rfl
  · exact .of_succ ⟨_, _, rfl, rfl, by decide⟩ fun _ _ _ _ => rfl

theorem reads_string (s : String) : Reads readFloat (string s) := by
  obtain ⟨cs, hquote, hread⟩ := readString_quote s
  refine .of_succ ⟨_, _, rfl, rfl, by decide⟩ fun fuel rest _ _ => ?_
  rw [chars, hquote, readValue, skipSpaces_cons rfl]
  simp only [hread]
  rfl

theorem head_of_readNumber {read : Json × List Char} (h : readNumber readFloat cs = some read) :
    ∃ c more, cs = c :: more ∧ (c = '-' ∨ c.isDigit = true) := by
  by_cases hminus : ∃ more, cs = '-' :: more
  · obtain ⟨more, rfl⟩ := hminus
    exact ⟨'-', more, rfl, .inl rfl⟩
  · rw [readNumber_of_ne (not_exists.mp hminus)] at h
    obtain ⟨⟨whole, rest⟩, hwhole, -⟩ := Option.bind_eq_some_iff.mp h
    unfold readWhole at hwhole
    cases cs with
    | nil => cases hwhole
    | cons c cs =>
      refine ⟨c, cs, rfl, .inr ?_⟩
      by_contra hdigit
      rw [List.takeWhile_cons, if_neg hdigit] at hwhole
      cases hwhole

theorem isSpace_of_number (hc : c = '-' ∨ c.isDigit = true) : isSpace c = false := by
  by_contra hspace
  simp only [isSpace, Bool.not_eq_false, Bool.or_eq_true, beq_iff_eq] at hspace
  rcases hspace with ((rfl | rfl) | rfl) | rfl <;> exact absurd hc (by decide)

theorem readValue_number {fuel : Nat} {read : Json × List Char}
    (h : readNumber readFloat cs = some read) : readValue readFloat (fuel + 1) cs = some read := by
  obtain ⟨c, more, rfl, hc⟩ := head_of_readNumber h
  rw [readValue, skipSpaces_cons (isSpace_of_number hc)]
  split
  case h_7 => exact h
  all_goals
    next heq =>
      obtain ⟨rfl, -⟩ := List.cons.inj heq
      exact absurd hc (by decide)

theorem reads_number {n : JsonNumber} (hn : n.Fits readFloat) : Reads readFloat (number n) := by
  obtain ⟨c, more, hcs, hc⟩ := head_of_readNumber (readNumber_text hn stops_nil)
  refine .of_succ ⟨c, more, ?_, isSpace_of_number hc, ?_⟩ fun fuel rest _ hstops => ?_
  · rw [← hcs, List.append_nil]
    rfl
  · rintro rfl
    exact absurd hc (by decide)
  · exact readValue_number (readNumber_text hn hstops)

/-! ### Arrays and objects -/

theorem exists_fuel {fuel : Nat} {last : List Char} (h : (cs ++ last).length ≤ fuel)
    (hlast : last ≠ []) : ∃ less, fuel = less + 1 ∧ cs.length ≤ less := by
  have hpos := List.length_pos_of_ne_nil hlast
  rw [List.length_append] at h
  exact ⟨fuel - 1, by omega, by omega⟩

theorem ReadsItems.singleton {item : Json} (h : Reads readFloat item) :
    ReadsItems readFloat [item] := by
  intro fuel rest hfuel
  obtain ⟨fuel, rfl, hitem⟩ := exists_fuel hfuel (List.cons_ne_nil _ _)
  have hread := h.read fuel (charsOfItems [] ++ rest) hitem (stops_charsOfItems [])
  rw [itemsChars, List.append_assoc, readItems, hread]
  rfl

theorem ReadsItems.cons {item next : Json} {items : List Json} (h : Reads readFloat item)
    (hrest : ReadsItems readFloat (next :: items)) :
    ReadsItems readFloat (item :: next :: items) := by
  intro fuel rest hfuel
  have hlength : (itemsChars (next :: items)).length + 1 ≤ fuel := by
    have hshape : itemsChars (item :: next :: items) =
        item.chars ++ ',' :: itemsChars (next :: items) := rfl
    rw [hshape, List.length_append, List.length_cons] at hfuel
    omega
  obtain ⟨fuel, rfl, hitem⟩ := exists_fuel hfuel (List.cons_ne_nil _ _)
  have hread := h.read fuel (charsOfItems (next :: items) ++ rest) hitem (stops_charsOfItems _)
  have hmore := hrest fuel rest (Nat.le_of_succ_le_succ hlength)
  rw [itemsChars, List.append_assoc, readItems, hread]
  show (readItems readFloat fuel (itemsChars (next :: items) ++ rest)).bind
    (fun read => some (item :: read.1, read.2)) = _
  rw [hmore]
  rfl

theorem reads_array {item : Json} {items : List Json} (hitem : Reads readFloat item)
    (h : ReadsItems readFloat (item :: items)) : Reads readFloat (array (item :: items)) := by
  refine .of_succ ⟨_, _, rfl, rfl, by decide⟩ fun fuel rest hfuel _ => ?_
  obtain ⟨c, cs, hcs, hspace, hc⟩ := hitem.head
  have hread := h fuel rest (Nat.le_of_succ_le_succ hfuel)
  have hskip : skipSpaces (itemsChars (item :: items) ++ rest) =
      itemsChars (item :: items) ++ rest := by
    rw [itemsChars, hcs]
    exact skipSpaces_cons hspace
  show readValue readFloat (fuel + 1) ('[' :: (itemsChars (item :: items) ++ rest)) = _
  rw [readValue, skipSpaces_cons rfl]
  simp only [hskip]
  split
  · next heq =>
    rw [itemsChars, hcs] at heq
    exact absurd (List.cons.inj heq).1 hc
  · rw [hread]
    rfl

theorem ReadsMembers.singleton {value : Json} (key : String) (h : Reads readFloat value) :
    ReadsMembers readFloat [(key, value)] := by
  intro fuel rest hfuel
  obtain ⟨cs, hquote, hkey⟩ := readString_quote key
  have hshape : membersChars [(key, value)] = quote key ++ ':' :: value.chars ++ charsOfMembers [] := by
    simp [membersChars]
  rw [hshape] at hfuel
  obtain ⟨fuel, rfl, hlength⟩ := exists_fuel hfuel (List.cons_ne_nil _ _)
  rw [List.length_append, List.length_cons] at hlength
  have hread := h.read fuel (charsOfMembers [] ++ rest) (by omega) (stops_charsOfMembers [])
  rw [hshape, List.append_assoc, List.append_assoc, hquote, readMembers, skipSpaces_cons rfl]
  simp only [List.cons_append, hkey, skipSpaces_cons (show isSpace ':' = false from rfl), hread,
    Option.bind_eq_bind, Option.bind_some]
  rfl

theorem ReadsMembers.cons {value : Json} {member : String × Json} {members : List (String × Json)}
    (key : String) (h : Reads readFloat value) (hrest : ReadsMembers readFloat (member :: members)) :
    ReadsMembers readFloat ((key, value) :: member :: members) := by
  intro fuel rest hfuel
  obtain ⟨cs, hquote, hkey⟩ := readString_quote key
  have hshape : membersChars ((key, value) :: member :: members) =
      quote key ++ ':' :: value.chars ++ charsOfMembers (member :: members) := by simp [membersChars]
  have hcomma : charsOfMembers (member :: members) = ',' :: membersChars (member :: members) := rfl
  rw [hshape] at hfuel
  have hmore : (membersChars (member :: members)).length + 1 ≤ fuel := by
    rw [hcomma, List.length_append, List.length_cons] at hfuel
    omega
  obtain ⟨fuel, rfl, hlength⟩ := exists_fuel hfuel (List.cons_ne_nil _ _)
  rw [List.length_append, List.length_cons] at hlength
  have hread := h.read fuel (charsOfMembers (member :: members) ++ rest) (by omega)
    (stops_charsOfMembers _)
  have hmembers := hrest fuel rest (Nat.le_of_succ_le_succ hmore)
  rw [hshape, List.append_assoc, List.append_assoc, hquote, readMembers, skipSpaces_cons rfl]
  simp only [List.cons_append, hkey, skipSpaces_cons (show isSpace ':' = false from rfl), hread,
    Option.bind_eq_bind, Option.bind_some]
  rw [hcomma, List.cons_append, skipSpaces_cons rfl]
  simp only [hmembers]
  rfl

theorem reads_object {member : String × Json} {members : List (String × Json)}
    (h : ReadsMembers readFloat (member :: members)) :
    Reads readFloat (object (member :: members)) := by
  refine .of_succ ⟨_, _, rfl, rfl, by decide⟩ fun fuel rest hfuel _ => ?_
  have hread := h fuel rest (Nat.le_of_succ_le_succ hfuel)
  obtain ⟨cs, hcs⟩ : ∃ cs, membersChars (member :: members) ++ rest = '"' :: cs := ⟨_, rfl⟩
  have hskip : skipSpaces (membersChars (member :: members) ++ rest) =
      membersChars (member :: members) ++ rest := by
    rw [hcs]
    exact skipSpaces_cons rfl
  show readValue readFloat (fuel + 1) ('{' :: (membersChars (member :: members) ++ rest)) = _
  rw [readValue, skipSpaces_cons rfl]
  simp only [hskip]
  split
  · next heq =>
    rw [hcs] at heq
    exact absurd (List.cons.inj heq).1 (by decide)
  · rw [hread]
    rfl

mutual
theorem reads : (j : Json) → j.Fits readFloat → Reads readFloat j
  | null, _ => reads_null
  | bool b, _ => reads_bool b
  | number _, h => reads_number h
  | string s, _ => reads_string s
  | array [], _ => .of_succ ⟨_, _, rfl, rfl, by decide⟩ fun _ _ _ _ => rfl
  | array (item :: items), h =>
    reads_array (reads item h.1) (readsItems items h.2 item (reads item h.1))
  | object [], _ => .of_succ ⟨_, _, rfl, rfl, by decide⟩ fun _ _ _ _ => rfl
  | object ((key, value) :: members), h =>
    reads_object (readsMembers members h.2 key value (reads value h.1))
  | invalid, h => h.elim

theorem readsItems : (items : List Json) → FitItems readFloat items → ∀ item,
    Reads readFloat item → ReadsItems readFloat (item :: items)
  | [], _, _, hitem => .singleton hitem
  | next :: items, h, _, hitem => .cons hitem (readsItems items h.2 next (reads next h.1))

theorem readsMembers : (members : List (String × Json)) → FitMembers readFloat members →
    ∀ key value, Reads readFloat value → ReadsMembers readFloat ((key, value) :: members)
  | [], _, key, _, hvalue => .singleton key hvalue
  | (key', value') :: members, h, key, _, hvalue =>
    .cons key hvalue (readsMembers members h.2 key' value' (reads value' h.1))
end

/-- **A value is read back from its text.** -/
theorem parse_write {j : Json} (h : j.Fits readFloat) : parse readFloat j.write = some j := by
  have hread := (reads j h).read (2 * j.chars.length + 2) [] (by omega) stops_nil
  rw [List.append_nil] at hread
  rw [parse, write, String.toList_ofList, hread]
  rfl

end Telemetry.Json
