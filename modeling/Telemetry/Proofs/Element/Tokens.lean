import Mathlib.Data.Set.Function
import Telemetry.Proofs.Namespace.Decomposition

/-!
# The tokens of elements

Each kind of element has one form in which it is written (`Spells`), and what may stand between its
brackets is free enough to contain brackets and equals signs of its own. Still no token has two
forms: reading accepts exactly the tokens of these forms and returns what each was written from, so
that it is the inverse of writing, and the other way round (`parse_bijOn_text`).

* `Element.Compiles`: the patterns that may stand between braces.
* `Element.Spells`: the forms of the seven kinds.
-/

namespace Telemetry.Element

variable {token : String} {e : Element}

/-! ## Forms -/

def bracketed (inner : String) : String := "[" ++ inner ++ "]"

def braced (raw : String) : String := "\x7b" ++ raw ++ "\x7d"

/-- The text denotes the pattern, and is not empty. -/
def Compiles (raw : String) (p : Pattern) : Prop := raw ≠ "" ∧ Pattern.compile raw = .ok p

/-- How each kind of element is written. -/
inductive Spells : String → Element → Prop where
  | name (v : String) (hv : isIdentifier v.toList = true) : Spells v (.name v)
  | wildcard : Spells "*" .wildcard
  | pattern (raw : String) (p : Pattern) (hp : Compiles raw p) : Spells (braced raw) (.pattern p)
  | group (g : String) (hg : isIdentifier g.toList = true) : Spells (bracketed g) (.group g)
  | bound (g v : String) (hg : isIdentifier g.toList = true) (hv : isIdentifier v.toList = true) :
    Spells (bracketed (g ++ "=" ++ v)) (.bound g v)
  | groupPattern (g raw : String) (p : Pattern) (hg : isIdentifier g.toList = true)
    (hp : Compiles raw p) : Spells (bracketed (g ++ "=" ++ braced raw)) (.groupPattern g p)
  | trailing : Spells "**" .trailing

theorem Compiles.raw_eq {raw : String} {p : Pattern} (h : Compiles raw p) : p.raw = raw :=
  Pattern.raw_of_compile h.2

theorem compiles_raw {p : Pattern} (h : p.raw.toList ≠ []) : Compiles p.raw p :=
  ⟨mt String.toList_eq_nil_iff.mpr h, p.compile_raw⟩

theorem Compiles.raw_ne_nil {raw : String} {p : Pattern} (h : Compiles raw p) :
    p.raw.toList ≠ [] := by
  rw [h.raw_eq]
  exact mt String.toList_eq_nil_iff.mp h.1

/-! ## Texts -/

theorem text_name (v : String) : (name v).text = v := String.ofList_toList

theorem text_pattern (p : Pattern) : (pattern p).text = braced p.raw := by
  simp [← String.toList_inj, chars, braced]

theorem text_group (g : String) : (group g).text = bracketed g := by
  simp [← String.toList_inj, chars, bracketed]

theorem text_bound (g v : String) : (bound g v).text = bracketed (g ++ "=" ++ v) := by
  simp [← String.toList_inj, chars, bracketed]

theorem text_groupPattern (g : String) (p : Pattern) :
    (groupPattern g p).text = bracketed (g ++ "=" ++ braced p.raw) := by
  simp [← String.toList_inj, chars, bracketed, braced]

theorem spells_iff : Spells token e ↔ e.WellFormed ∧ e.text = token := by
  constructor
  · intro h
    cases h with
    | name _ hv => exact ⟨hv, text_name token⟩
    | wildcard => exact ⟨trivial, rfl⟩
    | pattern raw p hp => exact ⟨hp.raw_ne_nil, by rw [text_pattern, hp.raw_eq]⟩
    | group g hg => exact ⟨hg, text_group g⟩
    | bound g v hg hv => exact ⟨⟨hg, hv⟩, text_bound g v⟩
    | groupPattern g raw p hg hp =>
      exact ⟨⟨hg, hp.raw_ne_nil⟩, by rw [text_groupPattern, hp.raw_eq]⟩
    | trailing => exact ⟨trivial, rfl⟩
  · rintro ⟨h, rfl⟩
    cases e with
    | name v =>
      rw [text_name]
      exact .name v h
    | wildcard => exact .wildcard
    | pattern p =>
      rw [text_pattern]
      exact .pattern p.raw p (compiles_raw h)
    | group g =>
      rw [text_group]
      exact .group g h
    | bound g v =>
      rw [text_bound]
      exact .bound g v h.1 h.2
    | groupPattern g p =>
      rw [text_groupPattern]
      exact .groupPattern g p.raw p h.1 (compiles_raw h.2)
    | trailing => exact .trailing

/-! ## Reading -/

theorem parse_eq_ok_iff_wellFormed : parse token = .ok e ↔ e.WellFormed ∧ e.text = token := by
  constructor
  · exact fun h => ⟨wellFormed_of_ofChars h, text_of_parse h⟩
  · rintro ⟨h, rfl⟩
    exact parse_text h

/-- **Reading and writing are inverse bijections** between the accepted tokens and the well-formed
elements: what is read is well-formed and written as its token, every well-formed element is read as
it is written, the accepted tokens are those of the seven forms, and no two tokens are read alike. -/
theorem parse_bijOn_text :
    (∀ token e, parse token = .ok e → e.text = token ∧ e.WellFormed) ∧
    (∀ e : Element, e.WellFormed → parse e.text = .ok e) ∧
    (∀ token e, parse token = .ok e ↔ Spells token e) ∧
    Set.BijOn text {e | e.WellFormed} {token | ∃ e, parse token = .ok e} ∧
    ∀ token token' e, parse token = .ok e → parse token' = .ok e → token = token' := by
  refine ⟨fun token e h => ?_, fun e => parse_text, fun token e => ?_, ?_,
    fun token token' e h h' => ?_⟩
  · exact ⟨text_of_parse h, (parse_eq_ok_iff_wellFormed.mp h).1⟩
  · rw [parse_eq_ok_iff_wellFormed, spells_iff]
  · refine ⟨fun e h => ⟨e, parse_text h⟩, fun e h e' h' htext => ?_, ?_⟩
    · have hread : parse e.text = .ok e' := htext ▸ parse_text h'
      exact Except.ok.inj ((parse_text h).symm.trans hread)
    · rintro token ⟨e, h⟩
      exact ⟨e, (parse_eq_ok_iff_wellFormed.mp h).1, text_of_parse h⟩
  · rw [← text_of_parse h, text_of_parse h']

/-- The equals sign and the bracket within the braces belong to the pattern. -/
theorem parse_bijOn_text_nested :
    ∃ e, parse "[g={a=]b}]" = .ok e ∧ e.WellFormed ∧ e.text = "[g={a=]b}]" ∧
      e.groupName? = some "g" ∧ ∀ token, parse token = .ok e → token = "[g={a=]b}]" := by
  have hread : (parse "[g={a=]b}]").map groupName? = .ok (some "g") := by decide +kernel
  obtain ⟨e, hparse, hgroup⟩ := Except.exists_of_map_eq_ok hread
  obtain ⟨hsound, -, -, -, hunique⟩ := parse_bijOn_text
  obtain ⟨htext, hwell⟩ := hsound _ e hparse
  exact ⟨e, hparse, hwell, htext, hgroup, fun token h => hunique _ _ e h hparse⟩

end Telemetry.Element
