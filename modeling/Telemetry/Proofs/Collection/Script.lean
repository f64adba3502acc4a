import Telemetry.Proofs.Collection.Run

/-!
# Collectors that keep to their collection

A script is a collector that never turns to the registry: it acts on its collection only. The time
enters through its actions, and from there into timestamps and nowhere else. A change of all times
can be made before or after an action, so collectors that do the same at other times gather the same
with other timestamps (`Script.Alike.run`).

* `Script`, `Script.routine`: scripts, and the routines that they are.
* `Script.actions`, `Script.ended`: what a script does in a collection, and how it ends.
* `Collection.retime`: a collection with other times.
* `Action.Alike`, `Script.Alike`: what differs in times only.
-/

namespace Telemetry

variable {σ ρ : Type} {c d : Collection σ}

/-! ## Scripts -/

inductive Script (σ ρ : Type) where
  | finish (result : ρ)
  | fail (failure : Diagnostic) (result : ρ)
  | act (action : Action σ) (next : action.Reply → Script σ ρ)

namespace Script

def routine : Script σ ρ → Routine σ ρ
  | finish result => .finish result
  | fail failure result => .fail failure result
  | act action next => .act action fun reply => (next reply).routine

/-- What the script does, one action after the other. -/
def actions : Script σ ρ → Collection σ → List (Action σ)
  | act a next, c => a :: (next (c.perform a).value.2).actions (c.step a)
  | _, _ => []

def ended : Script σ ρ → Collection σ → Ended ρ
  | finish result, _ => ⟨result, none⟩
  | fail failure result, _ => ⟨result, some failure⟩
  | act a next, c => (next (c.perform a).value.2).ended (c.step a)

theorem run_routine (s : Script σ ρ) (r : Registry σ) (c : Collection σ) :
    (s.routine.run r c).value = (r, c.run (s.actions c), s.ended c) := by
  induction s generalizing c with
  | finish result => rfl
  | fail failure result => rfl
  | act a next ih => exact ih (c.perform a).value.2 (c.step a)

end Script

/-! ## What a collection leaves behind -/

/-- What a task keeps after an action of its collection. -/
def TaskState.after (state : TaskState σ) : Action σ → TaskState σ
  | .store key value => state.insert key value
  | .remove key => state.erase key
  | _ => state

namespace Collection

theorem task_addMetric (c : Collection σ) (now : Instant) (text : String) (value : Value)
    (modifiers : List Modifier) :
    (c.addMetric now text value modifiers).value.1.task = c.task := by
  unfold addMetric
  split <;> rfl

theorem task_step (c : Collection σ) (a : Action σ) :
    (c.step a).task = { c.task with state := c.task.state.after a } := by
  cases a with
  | addMetric now path value modifiers => exact task_addMetric ..
  | register selector modifiers =>
    simp only [step, perform]
    split
    · rfl
    · next h =>
      obtain ⟨rfl, -⟩ := register_eq_ok h
      rfl
  | warn now message =>
    show (c.addWarning now message).value.task = c.task
    unfold addWarning
    split <;> rfl
  | _ => rfl

theorem task_run (c : Collection σ) (actions : List (Action σ)) : (c.run actions).task =
    { c.task with state := actions.foldl TaskState.after c.task.state } := by
  induction actions generalizing c with
  | nil => rfl
  | cons a actions ih =>
    rw [run, List.foldl_cons]
    refine (ih (c.step a)).trans ?_
    rw [task_step, List.foldl_cons]

end Collection

/-! ## Other times -/

section Times

variable (clock : Instant → Instant)

def Modifier.retime : Modifier → Modifier
  | timestamp t => timestamp (clock t)
  | modifier => modifier

def Metric.retime (m : Metric) : Metric := { m with timestamp := clock m.timestamp }

def Warning.retime (w : Warning) : Warning := { w with timestamp := clock w.timestamp }

def Registration.retime (g : Registration) : Registration :=
  { g with modifiers := g.modifiers.map (·.retime clock) }

def Collected.retime (gathered : Collected) : Collected :=
  ⟨gathered.metrics.map (·.retime clock), gathered.warnings.map (·.retime clock)⟩

namespace Collection

def retime (c : Collection σ) : Collection σ :=
  { c with
    metrics := c.metrics.map (·.retime clock)
    warnings := c.warnings.map (·.retime clock)
    registrations := c.registrations.map (·.retime clock) }

theorem finish_retime (c : Collection σ) : (c.retime clock).finish = c.finish.retime clock := rfl

end Collection

theorem Modifier.apply_retime (m : Metric) (modifier : Modifier) :
    apply (m.retime clock) (modifier.retime clock) = (apply m modifier).retime clock := by
  cases modifier <;> rfl

theorem Modifier.applyAll_retime (m : Metric) (modifiers : List Modifier) :
    applyAll (m.retime clock) (modifiers.map (·.retime clock)) =
      (applyAll m modifiers).retime clock := by
  rw [applyAll, List.foldl_map]
  refine List.foldl_hom (Metric.retime clock) ?_
  exact fun m modifier => apply_retime clock m modifier

/-! ## Actions at other times -/

namespace Collection

theorem baseMetric_retime (catalog : Catalog) (now : Instant) (ns : Namespace) (r : Resolution)
    (value : Value) : baseMetric catalog (clock now) ns r value =
      (baseMetric catalog now ns r value).retime clock := by
  unfold baseMetric
  cases catalog.metric? (r.key ns) <;> rfl

theorem registeredModifiers_retime (c : Collection σ) (path : String) :
    (c.retime clock).registeredModifiers path =
      (c.registeredModifiers path).map (·.retime clock) := by
  simp only [registeredModifiers, retime, List.filter_map, List.flatMap_map, List.map_flatMap]
  rfl

theorem recording_retime (c : Collection σ) (now : Instant) (path : String) (value : Value)
    (modifiers : List Modifier) :
    (c.retime clock).recording (clock now) path value (modifiers.map (·.retime clock)) =
      (c.recording now path value modifiers).map (Option.map (·.retime clock)) := by
  have hresolve : (c.retime clock).resolve path = c.resolve path := rfl
  have hcatalog : (c.retime clock).catalog = c.catalog := rfl
  have hfilters : (c.retime clock).filters = c.filters := rfl
  unfold recording
  rw [hresolve]
  cases c.resolve path with
  | error e => rfl
  | ok resolved =>
    obtain ⟨ns, r⟩ := resolved
    simp only [Except.map, hcatalog, hfilters, registeredModifiers_retime, ← List.map_append,
      baseMetric_retime, Modifier.applyAll_retime]
    split <;> rfl

theorem addMetric_retime (c : Collection σ) (now : Instant) (path : String) (value : Value)
    (modifiers : List Modifier) :
    ((c.retime clock).addMetric (clock now) path value (modifiers.map (·.retime clock))).value =
      (c.addMetric now path value modifiers).value.map (·.retime clock) id := by
  unfold addMetric
  rw [recording_retime]
  rcases c.recording now path value modifiers with e | _ | m
  · rfl
  · rfl
  · simp [Except.map, retime]

theorem register_retime (c : Collection σ) (selector : String) (modifiers : List Modifier) :
    (c.retime clock).register selector (modifiers.map (·.retime clock)) =
      (c.register selector modifiers).map (Prod.map (·.retime clock) id) := by
  have hseparator : (c.retime clock).separator = c.separator := rfl
  unfold register
  rw [hseparator]
  dsimp only
  split_ifs
  · simp [Except.map, retime, Registration.retime]
  · split
    · rfl
    · simp [Except.map, retime, Registration.retime]

theorem addWarning_retime (c : Collection σ) (now : Instant) (message : String) :
    ((c.retime clock).addWarning (clock now) message).value =
      (c.addWarning now message).value.retime clock := by
  have hlength : (c.retime clock).warnings.length = c.warnings.length := List.length_map ..
  unfold addWarning
  rw [hlength]
  split_ifs <;> simp [retime, Warning.retime, Warning.given]

theorem dismiss_retime (c : Collection σ) (handle : Nat) :
    (c.retime clock).dismiss handle = (c.dismiss handle).retime clock := by
  have hstop : (c.registrations.map (·.retime clock)).modify handle ({ · with active := false }) =
      (c.registrations.modify handle ({ · with active := false })).map (·.retime clock) := by
    refine List.ext_getElem? fun position => ?_
    rw [List.getElem?_modify, List.getElem?_map, List.getElem?_map, List.getElem?_modify]
    cases c.registrations[position]? with
    | none => rfl
    | some g =>
      by_cases h : handle = position <;> simp [h, Registration.retime]
  rw [retime, dismiss, hstop]
  rfl

theorem dismissAll_retime (c : Collection σ) :
    (c.retime clock).dismissAll = c.dismissAll.retime clock := by
  simp [dismissAll, retime, Registration.retime, Function.comp_def]

end Collection

/-! ## Actions that differ in times -/

/-- No time enters through the action, and none comes back with the reply. -/
def Action.timeless : Action σ → Bool
  | shouldProcess _ | dismiss _ | dismissAll | store .. | remove _ => true
  | _ => false

/-- Actions that differ in times only, with the replies to them that do. -/
inductive Action.Alike {σ : Type} : (a a' : Action σ) → (a.Reply → a'.Reply → Prop) → Prop
  | addMetric {now now' : Instant} {modifiers modifiers' : List Modifier} (path : String)
      (value : Value) (hnow : clock now = clock now')
      (hmodifiers : modifiers.map (·.retime clock) = modifiers'.map (·.retime clock)) :
      Alike (.addMetric now path value modifiers) (.addMetric now' path value modifiers') (· = ·)
  | register {modifiers modifiers' : List Modifier} (selector : String)
      (hmodifiers : modifiers.map (·.retime clock) = modifiers'.map (·.retime clock)) :
      Alike (.register selector modifiers) (.register selector modifiers') (· = ·)
  | warn {now now' : Instant} (message : String) (hnow : clock now = clock now') :
      Alike (.warn now message) (.warn now' message) (· = ·)
  | look : Alike .look .look fun seen seen' => seen.retime clock = seen'.retime clock
  | same (a : Action σ) (htimeless : a.timeless = true) : Alike a a (· = ·)

open Collection Log

variable {clock} {a a' : Action σ} {agree : a.Reply → a'.Reply → Prop}

theorem Action.Alike.perform (h : a.Alike clock a' agree) (hc : c.retime clock = d.retime clock) :
    (c.step a).retime clock = (d.step a').retime clock ∧
      agree (c.perform a).value.2 (d.perform a').value.2 := by
  -- Once all times are changed the two collections and actions are the same, and the times may as
  -- well be changed afterwards.
  cases h with
  | @addMetric now now' modifiers modifiers' path value hnow hmodifiers =>
    have hadd := c.addMetric_retime clock now path value modifiers
    rw [hc, hnow, hmodifiers, addMetric_retime] at hadd
    obtain ⟨hkept, hreply⟩ := Prod.ext_iff.mp hadd
    exact ⟨hkept.symm, hreply.symm⟩
  | @register modifiers modifiers' selector hmodifiers =>
    have hregister := c.register_retime clock selector modifiers
    rw [hc, hmodifiers, register_retime] at hregister
    simp only [step, Collection.perform]
    rcases hr : c.register selector modifiers with e | ⟨c', handle⟩ <;>
      rcases hr' : d.register selector modifiers' with e' | ⟨d', handle'⟩ <;>
        rw [hr, hr'] at hregister
    · cases hregister
      exact ⟨hc, rfl⟩
    · cases hregister
    · cases hregister
    · obtain ⟨hkept, hhandle⟩ := Prod.mk.inj (Except.ok.inj hregister)
      exact ⟨hkept.symm, congrArg Except.ok hhandle.symm⟩
  | @warn now now' message hnow =>
    have hwarn := c.addWarning_retime clock now message
    rw [hc, hnow, addWarning_retime] at hwarn
    exact ⟨hwarn.symm, rfl⟩
  | look => exact ⟨hc, hc⟩
  | same a htimeless =>
    have hscope : c.scope = d.scope := by
      show (c.retime clock).scope = (d.retime clock).scope
      rw [hc]
    cases a with
    | shouldProcess path => exact ⟨hc, congrArg Logged.value (shouldProcess_congr hscope path)⟩
    | dismiss handle =>
      have hdismiss := c.dismiss_retime clock handle
      rw [hc, dismiss_retime] at hdismiss
      exact ⟨hdismiss.symm, rfl⟩
    | dismissAll =>
      have hdismiss := c.dismissAll_retime clock
      rw [hc, dismissAll_retime] at hdismiss
      exact ⟨hdismiss.symm, rfl⟩
    | store key value => exact ⟨congrArg (·.withTask (·.store key value)) hc, rfl⟩
    | remove key => exact ⟨congrArg (·.withTask (·.remove key)) hc, rfl⟩
    | _ => cases htimeless

/-! ## Scripts that differ in times -/

/-- Scripts that do the same at other times, as long as the replies differ in times only. -/
inductive Script.Alike (clock : Instant → Instant) : Script σ ρ → Script σ ρ → Prop
  | finish (result : ρ) : Alike clock (finish result) (finish result)
  | fail (failure : Diagnostic) (result : ρ) :
      Alike clock (fail failure result) (fail failure result)
  | act {a a' : Action σ} {agree : a.Reply → a'.Reply → Prop} {next : a.Reply → Script σ ρ}
      {next' : a'.Reply → Script σ ρ} (ha : a.Alike clock a' agree)
      (hnext : ∀ reply reply', agree reply reply' → Alike clock (next reply) (next' reply')) :
      Alike clock (act a next) (act a' next')

theorem Collection.retime_self (c : Collection σ) : c.retime (fun t => t) = c := by
  have hmodifiers : ∀ modifiers : List Modifier,
      modifiers.map (·.retime fun t => t) = modifiers := fun modifiers =>
    (List.map_congr_left fun modifier _ => by cases modifier <;> rfl).trans (List.map_id _)
  simp [retime, Metric.retime, Warning.retime, Registration.retime, hmodifiers]

theorem Script.alike_refl (s : Script σ ρ) : s.Alike (fun t => t) s := by
  induction s with
  | finish result => exact .finish result
  | fail failure result => exact .fail failure result
  | act a next ih =>
    have hsame : ∀ reply reply', reply = reply' →
        (next reply).Alike (fun t => t) (next reply') := by
      rintro reply _ rfl
      exact ih reply
    cases a with
    | addMetric now path value modifiers => exact .act (.addMetric path value rfl rfl) hsame
    | register selector modifiers => exact .act (.register selector rfl) hsame
    | warn now message => exact .act (.warn message rfl) hsame
    | look =>
      refine .act .look fun seen seen' hseen => hsame seen seen' ?_
      rwa [Collection.retime_self, Collection.retime_self] at hseen
    | _ => exact .act (.same _ rfl) hsame

/-- **Scripts that differ in times only gather what differs in times only**, and end alike. -/
theorem Script.Alike.run {s s' : Script σ ρ} (h : s.Alike clock s')
    (hc : c.retime clock = d.retime clock) :
    (c.run (s.actions c)).retime clock = (d.run (s'.actions d)).retime clock ∧
      s.ended c = s'.ended d := by
  induction h generalizing c d with
  | finish result => exact ⟨hc, rfl⟩
  | fail failure result => exact ⟨hc, rfl⟩
  | act ha _ ih =>
    obtain ⟨hstep, hreply⟩ := ha.perform hc
    exact ih _ _ hreply hstep

end Times

end Telemetry
