import Mathlib.Tactic.Common
import Telemetry.Proofs.Rule.Paths
import Telemetry.Rule.Definitions

/-!
# Excerpts of paths

An excerpt is the beginning of a path with elements hidden behind `*`. Where definitions lead along
the whole path, they do so along every excerpt, at the same nodes (`isPrefixOf_of_resolveFrom`).

* `Namespace.excerpt`: the beginning of a path with some elements hidden.
* `Excerpt`: the same as a relation, element by element.
-/

namespace Telemetry

/-- The first elements of a path, some of them hidden behind `*`, but never the first of all. -/
def Namespace.excerpt (elements : List Element) (length : Nat) (hidden : Nat → Bool) :
    List Element :=
  (elements.take length).mapIdx fun i e => if i ≠ 0 ∧ hidden i = true then .wildcard else e

/-- A beginning of a path, with `*` in place of some elements. -/
inductive Excerpt : List Element → List Element → Prop where
  | nil (elements : List Element) : Excerpt elements []
  | keep (e : Element) {elements part} (h : Excerpt elements part) :
      Excerpt (e :: elements) (e :: part)
  | hide (e : Element) {elements part} (h : Excerpt elements part) :
      Excerpt (e :: elements) (.wildcard :: part)

variable {elements part : List Element}

namespace Excerpt

theorem mapIdx_take (elements : List Element) (length : Nat) (hidden : Nat → Prop)
    [DecidablePred hidden] :
    Excerpt elements ((elements.take length).mapIdx fun i e => if hidden i then .wildcard else e) := by
  induction elements generalizing length hidden with
  | nil => simpa using Excerpt.nil []
  | cons e elements ih =>
    cases length with
    | zero => simpa using Excerpt.nil (e :: elements)
    | succ length =>
      have hrest := ih length fun i => hidden (i + 1)
      rw [List.take_succ_cons, List.mapIdx_cons]
      split_ifs
      · exact .hide e hrest
      · exact .keep e hrest

theorem mem (h : Excerpt elements part) {e : Element} (he : e ∈ part) :
    e ∈ elements ∨ e = .wildcard := by
  induction h with
  | nil => cases he
  | keep e' _ ih =>
    rcases List.mem_cons.mp he with rfl | he
    · exact .inl List.mem_cons_self
    · exact (ih he).imp_left (List.mem_cons_of_mem _)
  | hide e' _ ih =>
    rcases List.mem_cons.mp he with rfl | he
    · exact .inr rfl
    · exact (ih he).imp_left (List.mem_cons_of_mem _)

theorem tail (h : Excerpt elements part) : Excerpt elements.tail part.tail := by
  cases h with
  | nil => exact .nil _
  | keep e h => exact h
  | hide e h => exact h

end Excerpt

theorem excerpt_iff : Excerpt elements part ↔ part.length ≤ elements.length ∧
    ∀ (i : Nat) e, part[i]? = some e → e ≠ .wildcard → elements[i]? = some e := by
  constructor
  · intro h
    induction h with
    | nil => exact ⟨Nat.zero_le _, nofun⟩
    | keep e' _ ih =>
      refine ⟨Nat.succ_le_succ ih.1, fun i e he hne => ?_⟩
      cases i with
      | zero => exact he
      | succ i => exact ih.2 i e he hne
    | hide e' _ ih =>
      refine ⟨Nat.succ_le_succ ih.1, fun i e he hne => ?_⟩
      cases i with
      | zero => exact absurd (Option.some.inj he).symm hne
      | succ i => exact ih.2 i e he hne
  · rintro ⟨hlength, hagrees⟩
    induction part generalizing elements with
    | nil => exact .nil elements
    | cons e part ih =>
      cases elements with
      | nil => cases hlength
      | cons e' elements =>
        have hrest : Excerpt elements part :=
          ih (Nat.le_of_succ_le_succ hlength) fun i => hagrees (i + 1)
        by_cases hhidden : e = .wildcard
        · exact hhidden ▸ .hide e' hrest
        · obtain rfl : e' = e := Option.some.inj (hagrees 0 e rfl hhidden)
          exact .keep e' hrest

namespace Namespace

theorem excerpt_excerpt (elements : List Element) (length : Nat) (hidden : Nat → Bool) :
    Excerpt elements (excerpt elements length hidden) :=
  Excerpt.mapIdx_take elements length fun i => i ≠ 0 ∧ hidden i = true

theorem head?_excerpt (elements : List Element) {length : Nat} (hlength : 0 < length)
    (hidden : Nat → Bool) : (excerpt elements length hidden).head? = elements.head? := by
  obtain ⟨length, rfl⟩ := Nat.exists_eq_add_of_lt hlength
  cases elements <;> simp [excerpt]

theorem length_excerpt (elements : List Element) (length : Nat) (hidden : Nat → Bool) :
    (excerpt elements length hidden).length = min length elements.length := by
  simp [excerpt]

end Namespace

/-! ## Definitions -/

namespace Definitions

variable {b : Branches} {n : Branch} {e : Element}

theorem mem_nodes_of_follow? (h : follow? b e = some n) : n ∈ b.nodes := by
  have hpattern : ∀ {p : Element → Bool}, b.pattern? p = some n → n ∈ b.nodes := fun hfind =>
    Branches.mem_nodes_iff.mpr (.inr (List.mem_of_find?_eq_some hfind))
  cases e with
  | name text =>
    rcases Option.or_eq_some_iff.mp h with hchild | ⟨-, hgroup⟩
    · have hentry := List.mem_of_find?_eq_some (Branches.find?_of_literal? hchild)
      exact Branches.mem_nodes_iff.mpr (.inl ⟨text, hentry⟩)
    · exact hpattern hgroup
  | bound g v =>
    dsimp only [follow?] at h
    exact hpattern h
  | _ => cases h

theorem isPrefixOf_cons (h : follow? b e = some n) (rest : List Element) :
    isPrefixOf b (e :: rest) = isPrefixOf n.children rest := by
  cases e with
  | wildcard => cases h
  | _ => simp [isPrefixOf, h]

theorem exists_follow?_of_resolveFrom {anyLevel isEnd : Bool} {r : Resolution}
    (h : resolveFrom anyLevel isEnd b (e :: elements) = some r) :
    ∃ n r', follow? b e = some n ∧ resolveFrom anyLevel n.isEnd n.children elements = some r' := by
  rw [resolveFrom] at h
  split at h
  · cases h
  · next n hfollow =>
    obtain ⟨r', hr', -⟩ := Option.map_eq_some_iff.mp h
    exact ⟨n, r', hfollow, hr'⟩

theorem isPrefixOf_of_resolveFrom {anyLevel isEnd : Bool} {r : Resolution}
    (hresolve : resolveFrom anyLevel isEnd b elements = some r) (h : Excerpt elements part) :
    isPrefixOf b part = true := by
  induction h generalizing isEnd b r with
  | nil => simp [isPrefixOf]
  | keep e h ih =>
    obtain ⟨n, r', hfollow, hr'⟩ := exists_follow?_of_resolveFrom hresolve
    rw [isPrefixOf_cons hfollow]
    exact ih hr'
  | hide e h ih =>
    obtain ⟨n, r', hfollow, hr'⟩ := exists_follow?_of_resolveFrom hresolve
    rw [isPrefixOf, List.any_eq_true]
    exact ⟨n, mem_nodes_of_follow? hfollow, ih hr'⟩

theorem resolvesPrefix_of_resolve {d : Definitions} {ns : Namespace} {r : Resolution}
    (hresolve : d.resolve ns = some r) (h : Excerpt ns.elements part)
    (hhead : part.head? = ns.elements.head?) : d.resolvesPrefix ⟨ns.separator, part⟩ = true := by
  rw [resolve] at hresolve
  split at hresolve
  · next hrules => simp [resolvesPrefix, hrules]
  · rcases Option.or_eq_some_iff.mp hresolve with hrule | ⟨-, hundefined⟩
    · simp [resolvesPrefix, isPrefixOf_of_resolveFrom hrule h]
    · rw [Option.ite_none_right_eq_some, acceptsUndefined, ← hhead] at hundefined
      simp [resolvesPrefix, acceptsUndefined, hundefined.1]

end Definitions

end Telemetry
