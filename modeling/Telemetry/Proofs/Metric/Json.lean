import Telemetry.Metric.Json
import Telemetry.Proofs.Json.Record
import Telemetry.Proofs.Time.Instant

/-!
# Metrics read back

A metric is read back from its JSON text, and so are a value and a path on their own
(`Metric.ofJson_parse_write`). This relies on the readers of floating-point numbers and of times,
for the numbers and the time in the metric. All of what is written fits into JSON then, so that the
text denotes it (`Json.parse_write`). From the object every field is read from the member that was
written for it, and a field that was left out from its default (`Metric.ofJson_toJson`).

* `Value.floats`: the floating-point numbers of a value.
-/

namespace Telemetry

open Json (record? field fieldOr field? string? natural? double? list? pair? variant record?_object
  field_eq_some fieldOr_eq_some fieldOr_default fits_object fits_array mapM_map)

variable {readFloat : String → Option Double} {readInstant : String → Option Instant}

/-! ## Texts that may be left out -/

theorem keys_textMember (name s : String) : ((textMember name s).map (·.1)).Sublist [name] := by
  unfold textMember
  split
  · exact List.nil_sublist _
  · exact List.Sublist.refl _

@[simp] theorem field?_textMember (key s name : String) :
    field? (textMember key s) name = if key = name ∧ s ≠ "" then some (.string s) else none := by
  unfold textMember
  split
  · simp_all
  · simp_all

theorem fits_textMember {name s : String} : ∀ member ∈ textMember name s, member.2.Fits readFloat := by
  unfold textMember
  split
  · simp
  · simp [Json.Fits]

theorem fieldOr_text {members : List (String × Json)} {name s : String}
    (h : field? members name = if s ≠ "" then some (.string s) else none) :
    fieldOr members name "" string? = some s := by
  by_cases hs : s = ""
  · rw [if_neg (not_not_intro hs)] at h
    rw [fieldOr_default h, hs]
  · rw [if_pos hs] at h
    exact fieldOr_eq_some h rfl

/-! ## Paths -/

namespace PathElement

def members (e : PathElement) : List (String × Json) :=
  textMember "name" e.group ++ [("value", .string e.value)] ++ textMember "description" e.description

theorem fits_toJson (e : PathElement) : e.toJson.Fits readFloat := by
  refine fits_object.mpr fun member hmember => ?_
  simp only [List.append_assoc, List.mem_append, List.mem_singleton] at hmember
  rcases hmember with h | rfl | h
  · exact fits_textMember member h
  · trivial
  · exact fits_textMember member h

theorem record?_toJson (e : PathElement) :
    record? ["name", "value", "description"] e.toJson = some e.members := by
  refine record?_object ?_ (by decide)
  simp only [List.map_append, List.append_assoc]
  exact (keys_textMember _ _).append ((List.Sublist.refl _).append (keys_textMember _ _))

theorem ofJson_toJson (e : PathElement) : ofJson e.toJson = some e := by
  have hgroup : fieldOr e.members "name" "" string? = some e.group :=
    fieldOr_text (by simp [members])
  have hvalue : field e.members "value" string? = some e.value := by
    refine field_eq_some (?_ : _ = some (.string e.value)) rfl
    simp [members]
  have hdescription : fieldOr e.members "description" "" string? = some e.description :=
    fieldOr_text (by simp [members])
  rw [ofJson, record?_toJson, Option.bind_eq_bind, Option.bind_some, hgroup, hvalue, hdescription]
  rfl

end PathElement

namespace MetricPath

theorem fits_toJson (p : MetricPath) : p.toJson.Fits readFloat := by
  refine fits_array.mpr fun item hitem => ?_
  obtain ⟨e, -, rfl⟩ := List.mem_map.mp hitem
  exact e.fits_toJson

theorem ofJson_toJson (p : MetricPath) : ofJson p.toJson = some p := by
  have hlist : list? PathElement.ofJson p.toJson = some p.elements :=
    mapM_map fun e _ => e.ofJson_toJson
  rw [ofJson, hlist]
  rfl

end MetricPath

/-! ## Values -/

theorem double?_float (x : Double) : double? (.number (.float x)) = some x := rfl

theorem natural?_toNat (n : UInt64) : natural? (.ofNat n.toNat) = some n := by
  show some (UInt64.ofNat n.toNat) = some n
  rw [UInt64.ofNat_toNat]

theorem integer?_toInt (n : Int64) : Json.integer? (.ofInt n.toInt) = some n := by
  have hle := n.le_toInt
  have hlt := n.toInt_lt
  unfold Json.ofInt JsonNumber.ofInt
  split
  · have hback : (-(n.toInt.natAbs : Int)) = n.toInt := by omega
    show some (Int64.ofInt (-(n.toInt.natAbs : Int))) = some n
    rw [hback, Int64.ofInt_toInt]
  · have hback : (n.toInt.natAbs : Int) = n.toInt := by omega
    have hsmall : n.toInt.natAbs < 0x8000000000000000 := by omega
    show (if n.toInt.natAbs < 0x8000000000000000 then some (Int64.ofNat n.toInt.natAbs) else none) = _
    rw [if_pos hsmall, ← Int64.ofInt_eq_ofNat, hback, Int64.ofInt_toInt]

theorem fits_ofNat (n : UInt64) : (Json.ofNat n.toNat).Fits readFloat := by
  have hlt := n.toNat_lt
  show n.toNat ≤ JsonNumber.maxNatural
  unfold JsonNumber.maxNatural
  omega

theorem fits_ofInt (n : Int64) : (Json.ofInt n.toInt).Fits readFloat := by
  have hle := n.le_toInt
  have hlt := n.toInt_lt
  unfold Json.ofInt JsonNumber.ofInt
  split
  · show 0 < n.toInt.natAbs ∧ n.toInt.natAbs ≤ JsonNumber.maxNegative
    unfold JsonNumber.maxNegative
    omega
  · show n.toInt.natAbs ≤ JsonNumber.maxNatural
    unfold JsonNumber.maxNatural
    omega

namespace Summary

def members (s : Summary) : List (String × Json) :=
  [("count", .ofNat s.count.toNat), ("sum", .number (.float s.sum))]

theorem fits_toJson {s : Summary} (h : (Json.number (.float s.sum)).Fits readFloat) :
    s.toJson.Fits readFloat := by
  have hmembers : ∀ member ∈ s.members, member.2.Fits readFloat := by
    simp [members, fits_ofNat, h]
  exact fits_object.mpr hmembers

theorem ofJson_toJson (s : Summary) : ofJson s.toJson = some s := by
  have hread : record? ["count", "sum"] s.toJson = some s.members :=
    record?_object (List.Sublist.refl _) (by decide)
  rw [ofJson, hread]
  have hcount := natural?_toNat s.count
  have hsum := double?_float s.sum
  rw [Option.bind_eq_bind, Option.bind_some, field_eq_some rfl hcount, field_eq_some rfl hsum]
  rfl

end Summary

namespace Histogram

def pointJson (p : Double × Double) : Json :=
  .array [.number (.float p.1), .number (.float p.2)]

def members (h : Histogram) : List (String × Json) :=
  [("data_points", .array (h.points.map pointJson)), ("count", .ofNat h.count.toNat),
    ("sum", .number (.float h.sum))]

theorem fits_toJson {h : Histogram} (hsum : (Json.number (.float h.sum)).Fits readFloat)
    (hpoints : ∀ p ∈ h.points, (Json.number (.float p.1)).Fits readFloat ∧
      (Json.number (.float p.2)).Fits readFloat) : h.toJson.Fits readFloat := by
  have hitems : (Json.array (h.points.map pointJson)).Fits readFloat := by
    refine fits_array.mpr fun item hitem => ?_
    obtain ⟨p, hp, rfl⟩ := List.mem_map.mp hitem
    obtain ⟨hbound, hcount⟩ := hpoints p hp
    exact fits_array.mpr (by simp [hbound, hcount])
  have hmembers : ∀ member ∈ h.members, member.2.Fits readFloat := by
    simp [members, hitems, fits_ofNat, hsum]
  exact fits_object.mpr hmembers

theorem ofJson_toJson (h : Histogram) : ofJson h.toJson = some h := by
  have hpoints : list? (pair? double?) (.array (h.points.map pointJson)) = some h.points :=
    mapM_map fun _ _ => rfl
  have hcount := natural?_toNat h.count
  have hsum := double?_float h.sum
  have hread : record? ["data_points", "count", "sum"] h.toJson = some h.members :=
    record?_object (List.Sublist.refl _) (by decide)
  rw [ofJson, hread, Option.bind_eq_bind, Option.bind_some, field_eq_some rfl hpoints,
    field_eq_some rfl hcount, field_eq_some rfl hsum]
  rfl

end Histogram

namespace Value

def floats : Value → List Double
  | float x => [x]
  | summary s => [s.sum]
  | histogram h => h.sum :: h.points.flatMap fun (bound, count) => [bound, count]
  | _ => []

theorem fits_content {v : Value} (h : ∀ x ∈ v.floats, (Json.number (.float x)).Fits readFloat) :
    v.content.Fits readFloat := by
  cases v with
  | int n => exact fits_ofInt n
  | uint n => exact fits_ofNat n
  | float x => exact h x List.mem_cons_self
  | bool b => trivial
  | string s => trivial
  | summary s => exact Summary.fits_toJson (h s.sum List.mem_cons_self)
  | histogram k =>
    refine Histogram.fits_toJson (h k.sum List.mem_cons_self) fun p hp => ?_
    have hfloats : ∀ x ∈ [p.1, p.2], x ∈ floats (histogram k) := fun x hx =>
      List.mem_cons_of_mem _ (List.mem_flatMap.mpr ⟨p, hp, hx⟩)
    exact ⟨h p.1 (hfloats _ (by simp)), h p.2 (hfloats _ (by simp))⟩

theorem fits_toJson {v : Value} (h : ∀ x ∈ v.floats, (Json.number (.float x)).Fits readFloat) :
    v.toJson.Fits readFloat :=
  fits_object.mpr (by simp [fits_content h, Json.Fits])

theorem ofContent_content (v : Value) : ofContent v.kind v.content = some v := by
  cases v with
  | int n => exact congrArg (Option.map int) (integer?_toInt n)
  | uint n => exact congrArg (Option.map uint) (natural?_toNat n)
  | float x => rfl
  | bool b => rfl
  | string s => rfl
  | summary s => exact congrArg (Option.map summary) s.ofJson_toJson
  | histogram h => exact congrArg (Option.map histogram) h.ofJson_toJson

theorem canKeep_toJson (depth : Nat) (v : Value) :
    canKeep depth [("type", .string v.kind), ("value", v.content)] = true := rfl

theorem ofJson_toJson (depth : Nat) (v : Value) : ofJson depth v.toJson = some v := by
  have hread : record? ["type", "value"] v.toJson =
      some [("type", .string v.kind), ("value", v.content)] :=
    record?_object (List.Sublist.refl _) (by decide)
  have hkind : field [("type", .string v.kind), ("value", v.content)] "type" variant = some v.kind :=
    field_eq_some rfl rfl
  have hcontent : field? [("type", .string v.kind), ("value", v.content)] "value" = some v.content := rfl
  unfold ofJson
  simp only [toJson, canKeep_toJson, if_true]
  rw [← toJson, hread, Option.bind_eq_bind, Option.bind_some, hkind, Option.bind_eq_bind,
    Option.bind_some, hcontent, Option.bind_eq_bind, Option.bind_some, ofContent_content]

end Value

/-! ## Metrics -/

theorem MetricType.ofJson_toJson (t : MetricType) : ofJson t.toJson = some t := by
  cases t <;> decide

namespace Tags

theorem fits_toJson (tags : Tags) : (toJson tags).Fits readFloat := by
  refine fits_object.mpr fun member hmember => ?_
  obtain ⟨entry, -, rfl⟩ := List.mem_map.mp hmember
  trivial

theorem ofJson_toJson (tags : Tags) : ofJson (toJson tags) = some tags := by
  have hentries : (tags.entries.map fun entry => (entry.1, Json.string entry.2)).mapM
      (fun member => (member.2.string?).map (member.1, ·)) = some tags.entries :=
    mapM_map fun _ _ => rfl
  unfold ofJson toJson
  dsimp only
  rw [hentries, Option.bind_eq_bind, Option.bind_some, SortedMap.ofList_entries]
  rfl

/-- A member with the tags, unless there are none. -/
def member (tags : Tags) : List (String × Json) :=
  if tags.isEmpty then [] else [("tags", toJson tags)]

theorem keys_member (tags : Tags) : ((member tags).map (·.1)).Sublist ["tags"] := by
  unfold member
  split
  · exact List.nil_sublist _
  · exact List.Sublist.refl _

@[simp] theorem field?_member (tags : Tags) (name : String) : field? (member tags) name =
    if "tags" = name ∧ tags.isEmpty = false then some (toJson tags) else none := by
  unfold member
  split
  · simp_all
  · simp_all

theorem fits_member {tags : Tags} : ∀ m ∈ member tags, m.2.Fits readFloat := by
  unfold member
  split
  · simp
  · simp [fits_toJson]

theorem fieldOr_tags {members : List (String × Json)} {tags : Tags}
    (h : field? members "tags" = if tags.isEmpty = false then some (toJson tags) else none) :
    fieldOr members "tags" .empty ofJson = some tags := by
  cases hempty : tags.isEmpty with
  | true =>
    rw [hempty, if_neg (by decide)] at h
    rw [fieldOr_default h, SortedMap.eq_empty_of_isEmpty hempty]
  | false =>
    rw [hempty, if_pos rfl] at h
    exact fieldOr_eq_some h (ofJson_toJson tags)

end Tags

theorem Instant.ofJson_toJson {t : Instant} (h : readInstant t.text = some t) :
    ofJson readInstant t.toJson = some t := by
  rw [ofJson, toJson, string?, Option.bind_some, h]

namespace Metric

def members (m : Metric) : List (String × Json) :=
  [("namespace", m.path.toJson), ("value", m.value.toJson)] ++ Tags.member m.tags ++
    textMember "unit" m.unit ++ textMember "description" m.description ++
    [("timestamp", m.timestamp.toJson), ("type", m.type.toJson)]

theorem fits_toJson {m : Metric}
    (h : ∀ x ∈ m.value.floats, (Json.number (.float x)).Fits readFloat) :
    m.toJson.Fits readFloat := by
  have hpath : m.path.toJson.Fits readFloat := m.path.fits_toJson
  have hvalue := Value.fits_toJson h
  have hmembers : ∀ member ∈ m.members, member.2.Fits readFloat := by
    intro member hmember
    simp only [members, List.mem_append, List.mem_cons, List.not_mem_nil, or_false] at hmember
    rcases hmember with ((((rfl | rfl) | h) | h) | h) | rfl | rfl
    · exact hpath
    · exact hvalue
    · exact Tags.fits_member member h
    · exact fits_textMember member h
    · exact fits_textMember member h
    · trivial
    · trivial
  exact fits_object.mpr hmembers

theorem record?_toJson (m : Metric) :
    record? ["namespace", "value", "tags", "unit", "description", "timestamp", "type"] m.toJson =
      some m.members := by
  have hkeys : (m.members.map (·.1)).Sublist
      (["namespace", "value"] ++ ["tags"] ++ ["unit"] ++ ["description"] ++ ["timestamp", "type"]) := by
    simp only [members, List.map_append]
    refine .append (.append (.append (.append ?_ (Tags.keys_member _)) (keys_textMember _ _))
      (keys_textMember _ _)) ?_
    · exact List.Sublist.refl _
    · exact List.Sublist.refl _
  exact record?_object hkeys (by decide)

theorem ofJson_toJson {m : Metric} (h : readInstant m.timestamp.text = some m.timestamp) :
    ofJson readInstant m.toJson = some m := by
  have hpath : field m.members "namespace" MetricPath.ofJson = some m.path :=
    field_eq_some rfl m.path.ofJson_toJson
  have hvalue : field m.members "value" (Value.ofJson 1) = some m.value :=
    field_eq_some rfl (m.value.ofJson_toJson 1)
  have htags : fieldOr m.members "tags" .empty Tags.ofJson = some m.tags := by
    refine Tags.fieldOr_tags ?_
    simp [members]
  have hunit : fieldOr m.members "unit" "" string? = some m.unit := by
    refine fieldOr_text ?_
    simp [members]
  have hdescription : fieldOr m.members "description" "" string? = some m.description := by
    refine fieldOr_text ?_
    simp [members]
  have htimestamp : field m.members "timestamp" (Instant.ofJson readInstant) =
      some m.timestamp := by
    refine field_eq_some (?_ : _ = some m.timestamp.toJson) (Instant.ofJson_toJson h)
    simp [members]
  have htype : fieldOr m.members "type" .unknown MetricType.ofJson = some m.type := by
    refine fieldOr_eq_some (?_ : _ = some m.type.toJson) m.type.ofJson_toJson
    simp [members]
  rw [ofJson, record?_toJson, Option.bind_eq_bind, Option.bind_some, hpath, hvalue, htags, hunit,
    hdescription, htimestamp, htype]
  rfl

/-- **Metrics, values and paths are read back from their text**, if their numbers are finite and the
readers of numbers and of times give those in them back. -/
theorem ofJson_parse_write (readFloat : String → Option Double)
    (readInstant : String → Option Instant) :
    (∀ m : Metric, (∀ x ∈ m.value.floats, x.isFinite = true) →
      (∀ x ∈ m.value.floats, readFloat x.jsonText = some x) →
      readInstant m.timestamp.text = some m.timestamp →
        (Json.parse readFloat m.toJson.write).bind (ofJson readInstant) = some m) ∧
    (∀ v : Value, (∀ x ∈ v.floats, x.isFinite = true) →
      (∀ x ∈ v.floats, readFloat x.jsonText = some x) →
        (Json.parse readFloat v.toJson.write).bind (Value.ofJson 0) = some v) ∧
    ∀ p : MetricPath, (Json.parse readFloat p.toJson.write).bind MetricPath.ofJson = some p := by
  refine ⟨fun m hfinite hfloat htime => ?_, fun v hfinite hfloat => ?_, fun p => ?_⟩
  · have hfits := fits_toJson fun x hx => ⟨hfinite x hx, hfloat x hx⟩
    rw [Json.parse_write hfits, Option.bind_some, ofJson_toJson htime]
  · have hfits := Value.fits_toJson fun x hx => ⟨hfinite x hx, hfloat x hx⟩
    rw [Json.parse_write hfits, Option.bind_some, Value.ofJson_toJson]
  · rw [Json.parse_write p.fits_toJson, Option.bind_some, MetricPath.ofJson_toJson]

/-- A histogram with the number 0.1 in it, in a group, tagged, at a leap second. -/
theorem ofJson_parse_write_histogram :
    let value : Value :=
      .histogram ⟨[(⟨0x3FB999999999999A⟩, ⟨0x4000000000000000⟩)], 2, ⟨0x8000000000000000⟩⟩
    let m : Metric :=
      { path := ⟨[⟨"", "disk", ""⟩, ⟨"drive", "\"C:\"", ""⟩]⟩
        value := value
        tags := SortedMap.ofList [("host", "")]
        timestamp := ⟨-1, 1500000000⟩
        type := .histogram }
    (∀ x ∈ m.value.floats, x.isFinite = true ∧ Double.parseFinite x.jsonText = some x) ∧
      Instant.parse m.timestamp.text = some m.timestamp ∧
      (Json.parse Double.parseFinite m.toJson.write).bind (ofJson Instant.parse) = some m ∧
      (Json.parse Double.parseFinite value.toJson.write).bind (Value.ofJson 0) = some value := by
  intro value m
  have hfinite : ∀ x ∈ m.value.floats, x.isFinite = true := by decide
  have hfloat : ∀ x ∈ m.value.floats, Double.parseFinite x.jsonText = some x :=
    fun x hx => Double.parseFinite_jsonText (hfinite x hx)
  have htime : Instant.parse m.timestamp.text = some m.timestamp :=
    Instant.parse_text ⟨by decide, by decide, by decide, by decide⟩
  obtain ⟨hmetric, hvalue, -⟩ := ofJson_parse_write Double.parseFinite Instant.parse
  exact ⟨fun x hx => ⟨hfinite x hx, hfloat x hx⟩, htime, hmetric m hfinite hfloat htime,
    hvalue value hfinite hfloat⟩

end Metric

end Telemetry
