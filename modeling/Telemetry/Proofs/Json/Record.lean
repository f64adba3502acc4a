import Telemetry.Json.Record
import Telemetry.Proofs.Json.Reading

/-!
# Records read back

A record is written as an object with some of its members, in the order of its fields. All of its
members are read then (`Json.record?_object`), so that a field is found in the part of the object
that it was written to (`Json.field?_append`).
-/

namespace Telemetry.Json

variable {α : Type} {names : List String} {name key : String} {members : List (String × Json)}
  {readFloat : String → Option Double}

/-! ## Parts that fit -/

theorem fitItems_iff {items : List Json} :
    FitItems readFloat items ↔ ∀ item ∈ items, item.Fits readFloat := by
  induction items with
  | nil => simp [FitItems]
  | cons item items ih => simp [FitItems, ih]

theorem fitMembers_iff :
    FitMembers readFloat members ↔ ∀ member ∈ members, member.2.Fits readFloat := by
  induction members with
  | nil => simp [FitMembers]
  | cons member members ih => simp [FitMembers, ih]

theorem fits_array {items : List Json} :
    (array items).Fits readFloat ↔ ∀ item ∈ items, item.Fits readFloat :=
  fitItems_iff

theorem fits_object :
    (object members).Fits readFloat ↔ ∀ member ∈ members, member.2.Fits readFloat :=
  fitMembers_iff

/-! ## Fields -/

theorem record?_object (h : (members.map (·.1)).Sublist names) (hnames : names.Nodup) :
    record? names (object members) = some members := by
  have hknown : members.filter (fun member => names.contains member.1) = members := by
    refine List.filter_eq_self.mpr fun member hmember => ?_
    exact List.contains_iff_mem.mpr (h.subset (List.mem_map_of_mem hmember))
  have hnodup : (members.map (·.1)).Nodup := hnames.sublist h
  show (if ((members.filter fun member => names.contains member.1).map (·.1)).Nodup then
    some (members.filter fun member => names.contains member.1) else none) = some members
  rw [hknown, if_pos hnodup]

@[simp] theorem field?_nil : field? [] name = none := rfl

@[simp] theorem field?_cons (key : String) (value : Json) (members : List (String × Json)) :
    field? ((key, value) :: members) name = if key = name then some value else field? members name := by
  unfold field?
  by_cases hkey : key = name
  · rw [List.find?_cons_of_pos (by simpa using hkey), if_pos hkey, Option.map_some]
  · rw [List.find?_cons_of_neg (by simpa using hkey), if_neg hkey]

@[simp] theorem field?_append (members members' : List (String × Json)) (name : String) :
    field? (members ++ members') name = (field? members name).or (field? members' name) := by
  unfold field?
  rw [List.find?_append, Option.map_or]

theorem field_eq_some {read : Json → Option α} {value : Json} {a : α}
    (h : field? members name = some value) (ha : read value = some a) :
    field members name read = some a := by
  rw [field, h, Option.bind_some, ha]

theorem fieldOr_eq_some {read : Json → Option α} {default : α} {value : Json} {a : α}
    (h : field? members name = some value) (ha : read value = some a) :
    fieldOr members name default read = some a := by
  simp only [fieldOr, h, ha]

theorem fieldOr_default {read : Json → Option α} {default : α} (h : field? members name = none) :
    fieldOr members name default read = some default := by
  simp only [fieldOr, h]

theorem mapM_map {β : Type} {read : β → Option α} {toJson : α → β} {l : List α}
    (h : ∀ a ∈ l, read (toJson a) = some a) : (l.map toJson).mapM read = some l := by
  induction l with
  | nil => rfl
  | cons a l ih =>
    rw [List.map_cons, List.mapM_cons, h a List.mem_cons_self,
      ih fun b hb => h b (List.mem_cons_of_mem a hb)]
    rfl

end Telemetry.Json
