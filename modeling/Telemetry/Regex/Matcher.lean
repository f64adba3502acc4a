import Telemetry.Regex.Basic

/-!
# Matching

An expression maps a set of positions to the set of positions that its matches from there end at.
Position sets are numbers: bit `i` stands for position `i`. All steps are unions and shifts of whole
sets, so a text is matched in time polynomial in its length, whatever the expression.

* `Regex.positions`: the positions whose neighbours satisfy a condition.
* `Regex.advance`: the map of an expression.
* `Regex.isFound`: the expression matches somewhere in the text.
-/

namespace Telemetry.Regex

/-- The positions of `text` around which `p` holds, where `last` is the character before the first. -/
def positionsFrom (p : Option Char → Option Char → Bool) (last : Option Char) : List Char → Nat
  | [] => if p last none then 1 else 0
  | c :: rest =>
    (if p last (some c) then 1 else 0) + 2 * positionsFrom p (some c) rest

def positions (text : List Char) (p : Option Char → Option Char → Bool) : Nat :=
  positionsFrom p none text

/-- Applies `f` as often as told, or until nothing changes any more. -/
def times (f : Nat → Nat) : Nat → Nat → Nat
  | 0, here => here
  | n + 1, here => if f here = here then here else times f n (f here)

/-- Adds what `f` reaches in at most so many steps. -/
def within (f : Nat → Nat) : Nat → Nat → Nat
  | 0, here => here
  | n + 1, here => if here ||| f here = here then here else within f n (here ||| f here)

/-- The positions that matches from a position of the here end at. -/
def advance (text : List Char) : Regex → Nat → Nat
  | .empty, here => here
  | .look l, here => here &&& positions text l.holds
  | .oneOf s, here => (here &&& positions text fun _ next => next.any fun c => s.contains c.toNat) <<< 1
  | .cat a b, here => advance text b (advance text a here)
  | .alt a b, here => advance text a here ||| advance text b here
  | .repeated r least most, here =>
    let start := times (advance text r) least here
    match most with
    | none => within (advance text r) (text.length + 1) start
    | some most => if most < least then 0 else within (advance text r) (most - least) start

/-- Whether the expression matches some part of the text. -/
def isFound (r : Regex) (text : List Char) : Bool :=
  r.advance text (1 <<< (text.length + 1) - 1) != 0

end Telemetry.Regex
