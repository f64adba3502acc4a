import Telemetry.Regex.Syntax

/-!
# Patterns

A pattern is a regular expression that is meant to match whole values. Its text is compiled between
anchors, once, and is what it is compared by.

* `Pattern.compile`: the pattern of a text.
* `Pattern.accepts`: whether a value matches.
-/

namespace Telemetry

/-- A text with the expression that it denotes between anchors. -/
structure Pattern where
  raw : String
  regex : Regex
  compiled : Regex.parse ("^(?:".toList ++ raw.toList ++ ")$".toList) = .ok regex

namespace Pattern

theorem ext_raw {p q : Pattern} (h : p.raw = q.raw) : p = q := by
  obtain ⟨raw, regex, hp⟩ := p
  obtain ⟨raw', regex', hq⟩ := q
  subst h
  have : regex = regex' := Except.ok.inj (hp.symm.trans hq)
  subst this
  rfl

instance : DecidableEq Pattern := fun p q =>
  if h : p.raw = q.raw then isTrue (ext_raw h) else isFalse fun hpq => h (hpq ▸ rfl)

def compile (raw : String) : Except Regex.Fault Pattern :=
  match h : Regex.parse ("^(?:".toList ++ raw.toList ++ ")$".toList) with
  | .ok regex => .ok ⟨raw, regex, h⟩
  | .error fault => .error fault

/-- Whether the value matches. -/
def accepts (p : Pattern) (value : String) : Bool := p.regex.isFound value.toList

theorem raw_of_compile {raw : String} {p : Pattern} (h : compile raw = .ok p) : p.raw = raw := by
  unfold compile at h
  split at h
  · exact Except.ok.inj h ▸ rfl
  · cases h

end Pattern

end Telemetry
