import Telemetry.Metric.Modifier

/-!
# Modified metrics

A modifier says something about one part of a metric, or about the tags under some keys, and nothing
about the rest. What it says replaces the part (`Decides`). Of several modifiers the last one that
says something about a part therefore has its way (`Decides.part_applyAll`), whatever the others say
about other parts or said about this one before. So a modified metric can be told part by part
(`applyAll_lastSaid`), and to modify it again in the same way changes nothing.

* `Modifier.timestamp?`, `Modifier.description?`, `Modifier.unit?`, `Modifier.type?`: what a
  modifier puts in the place of a part.
* `Modifier.tag?`: what it says about the tag under a key.
* `Modifier.Decides`: what is said about a part replaces it.
* `Modifier.Changes`, `Modifier.ChangesAll`: what one modifier makes of a metric, and several in
  turn.
-/

namespace Telemetry.Modifier

def timestamp? : Modifier → Option Instant
  | timestamp t => some t
  | _ => none

def description? : Modifier → Option String
  | description s => some s
  | _ => none

def unit? : Modifier → Option String
  | unit s => some s
  | _ => none

def type? : Modifier → Option MetricType
  | type t => some t
  | _ => none

/-- The value that the tag under a key gets, or that there is no such tag any more; nothing if the
modifier does not mention the key. -/
def tag? (key : String) : Modifier → Option (Option String)
  | tags new => (new.get? key).map some
  | removeTags keys => if key ∈ keys then some none else none
  | _ => none

/-! ## One after the other -/

/-- The part that the modifier speaks of becomes as it says, and all others stay. -/
inductive Changes : Modifier → Metric → Metric → Prop
  | tags {new tags : Tags} {m : Metric}
    (h : ∀ key, tags.get? key = (new.get? key).or (m.tags.get? key)) :
    Changes (.tags new) m { m with tags }
  | removeTags {keys : List String} {tags : Tags} {m : Metric}
    (h : ∀ key, tags.get? key = if key ∈ keys then none else m.tags.get? key) :
    Changes (.removeTags keys) m { m with tags }
  | timestamp (t : Instant) (m : Metric) : Changes (.timestamp t) m { m with timestamp := t }
  | description (s : String) (m : Metric) : Changes (.description s) m { m with description := s }
  | unit (s : String) (m : Metric) : Changes (.unit s) m { m with unit := s }
  | type (t : MetricType) (m : Metric) : Changes (.type t) m { m with type := t }

/-- Each modifier changes what the ones before it have left. -/
inductive ChangesAll : List Modifier → Metric → Metric → Prop
  | nil (m : Metric) : ChangesAll [] m m
  | cons {modifier : Modifier} {modifiers : List Modifier} {m n k : Metric}
    (h : Changes modifier m n) (hall : ChangesAll modifiers n k) :
    ChangesAll (modifier :: modifiers) m k

theorem changes_apply (m : Metric) (modifier : Modifier) : Changes modifier m (apply m modifier) := by
  cases modifier with
  | tags new => exact .tags (SortedMap.get?_insertAll_entries m.tags new)
  | removeTags keys => exact .removeTags (SortedMap.get?_foldl_erase m.tags keys)
  | timestamp t => exact .timestamp t m
  | description s => exact .description s m
  | unit s => exact .unit s m
  | type t => exact .type t m

theorem changesAll_applyAll (m : Metric) (modifiers : List Modifier) :
    ChangesAll modifiers m (applyAll m modifiers) := by
  induction modifiers generalizing m with
  | nil => exact .nil m
  | cons modifier modifiers ih => exact .cons (changes_apply m modifier) (ih (apply m modifier))

/-! ## The last word -/

/-- What is said replaces the part, and the part stays where nothing is said. -/
def Decides {α : Type} (said : Modifier → Option α) (part : Metric → α) : Prop :=
  ∀ m modifier, part (apply m modifier) = (said modifier).getD (part m)

theorem decides_timestamp : Decides timestamp? (·.timestamp) := by
  intro m modifier
  cases modifier <;> rfl

theorem decides_description : Decides description? (·.description) := by
  intro m modifier
  cases modifier <;> rfl

theorem decides_unit : Decides unit? (·.unit) := by
  intro m modifier
  cases modifier <;> rfl

theorem decides_type : Decides type? (·.type) := by
  intro m modifier
  cases modifier <;> rfl

theorem decides_tag (key : String) : Decides (tag? key) (·.tags.get? key) := by
  intro m modifier
  cases modifier with
  | tags new =>
    dsimp only [apply, tag?]
    rw [SortedMap.get?_insertAll_entries]
    cases new.get? key <;> rfl
  | removeTags keys =>
    dsimp only [apply, tag?]
    rw [SortedMap.get?_foldl_erase]
    split <;> rfl
  | timestamp | description | unit | type => rfl

variable {α : Type} {said : Modifier → Option α} {part : Metric → α}

theorem Decides.part_applyAll (h : Decides said part) (m : Metric) (modifiers : List Modifier) :
    part (applyAll m modifiers) = (modifiers.findSomeRev? said).getD (part m) := by
  induction modifiers generalizing m with
  | nil => rfl
  | cons modifier modifiers ih =>
    have hnext : applyAll m (modifier :: modifiers) = applyAll (apply m modifier) modifiers := rfl
    rw [hnext, ih, h, List.findSomeRev?]
    cases modifiers.findSomeRev? said <;> rfl

/-- What was said last is still there when all is said again. -/
theorem Decides.part_applyAll_again (h : Decides said part) (m : Metric)
    (modifiers : List Modifier) :
    part (applyAll (applyAll m modifiers) modifiers) = part (applyAll m modifiers) := by
  rw [h.part_applyAll (applyAll m modifiers), h.part_applyAll m]
  cases modifiers.findSomeRev? said <;> rfl

/-! ## Whole metrics -/

attribute [ext] Metric

theorem kept_applyAll (m : Metric) (modifiers : List Modifier) :
    (applyAll m modifiers).path = m.path ∧ (applyAll m modifiers).value = m.value := by
  induction modifiers generalizing m with
  | nil => exact ⟨rfl, rfl⟩
  | cons modifier modifiers ih =>
    have hone : (apply m modifier).path = m.path ∧ (apply m modifier).value = m.value := by
      cases modifier <;> exact ⟨rfl, rfl⟩
    obtain ⟨hpath, hvalue⟩ := ih (apply m modifier)
    exact ⟨hpath.trans hone.1, hvalue.trans hone.2⟩

theorem applyAll_applyAll (m : Metric) (modifiers : List Modifier) :
    applyAll (applyAll m modifiers) modifiers = applyAll m modifiers := by
  obtain ⟨hpath, hvalue⟩ := kept_applyAll (applyAll m modifiers) modifiers
  have htimestamp := decides_timestamp.part_applyAll_again m modifiers
  have hdescription := decides_description.part_applyAll_again m modifiers
  have hunit := decides_unit.part_applyAll_again m modifiers
  have htype := decides_type.part_applyAll_again m modifiers
  have htags : (applyAll (applyAll m modifiers) modifiers).tags = (applyAll m modifiers).tags :=
    SortedMap.eq_of_get? fun key => (decides_tag key).part_applyAll_again m modifiers
  exact Metric.ext hpath hvalue htags hunit hdescription htimestamp htype

/-- **A modified metric has its path and its value still, and each other part as the last modifier
that says something about it left it**; modified again in the same way, it stays as it is. -/
theorem applyAll_lastSaid (m : Metric) (modifiers : List Modifier) :
    let modified := applyAll m modifiers
    modified.path = m.path ∧ modified.value = m.value ∧
      modified.timestamp = (modifiers.findSomeRev? timestamp?).getD m.timestamp ∧
      modified.description = (modifiers.findSomeRev? description?).getD m.description ∧
      modified.unit = (modifiers.findSomeRev? unit?).getD m.unit ∧
      modified.type = (modifiers.findSomeRev? type?).getD m.type ∧
      (∀ key, modified.tags.get? key =
        (modifiers.findSomeRev? (tag? key)).getD (m.tags.get? key)) ∧
      applyAll modified modifiers = modified := by
  intro modified
  obtain ⟨hpath, hvalue⟩ := kept_applyAll m modifiers
  exact ⟨hpath, hvalue, decides_timestamp.part_applyAll m modifiers,
    decides_description.part_applyAll m modifiers, decides_unit.part_applyAll m modifiers,
    decides_type.part_applyAll m modifiers, fun key => (decides_tag key).part_applyAll m modifiers,
    applyAll_applyAll m modifiers⟩

end Telemetry.Modifier
