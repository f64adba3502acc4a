import Telemetry.Proofs.Collection.Script
import Telemetry.Proofs.Registry.Entries

/-!
# Tasks are isolated

Every request is for one task, and its custom code sees that task only: hooks and jobs by their
type, collectors because they are scripts. So a request changes the entry of its task and nothing
else, and both its answer and that change depend on this entry alone (`Registry.local_answer`). What
a task is told after it was loaded is therefore what it is told in a registry of its own
(`Registry.answers_isolated`). The entry itself changes in what its task keeps and in nothing else,
until an unload succeeds: `LoadedTask.next` says how, for one request, and
`Registry.loaded?_after_of_loaded` follows it along a run.

* `Request`, `Answer`, `Registry.answer`: requests and the answers to them.
* `Registry.after`, `Registry.answersTo`: the registry after some requests, and what a task is told.
* `LoadedTask.next`: a loaded task after a request.
* `Registry.Serves`: what a loaded task is told, and what is left of it.
* `Registry.Changed`: a registry in which one entry has changed.
* `Registry.AgreeOn`: registries that show the same of a task.
* `Request.Alike`: requests that differ in times only.
-/

namespace Telemetry

open Log

/-! ## Requests -/

/-- What is asked of a registry about a task. -/
inductive Request (σ ρ : Type) where
  | load (config : Json) (rules : List String) (hook : Hook σ ρ)
  | unload (hook : Hook σ ρ)
  | collect (script : Script σ ρ)
  /-- Runs code on the loaded task, which says what the task keeps. -/
  | visit (job : Task σ → TaskState σ × ρ)

inductive Answer (ρ : Type) where
  | load (loaded : Except TaskError LoadReport × Option ρ)
  | unload (unloaded : Except TaskError Unit × Option ρ)
  | collect (collected : Except TaskError Collected × Option ρ)
  | visit (result : Option ρ)
deriving DecidableEq

variable {σ ρ : Type} {clock : Instant → Instant}

/-- The answer with other times. -/
def Answer.retime (clock : Instant → Instant) : Answer ρ → Answer ρ
  | collect (collected, result) => collect (collected.map (·.retime clock), result)
  | reply => reply

/-- Requests that differ in times only. -/
inductive Request.Alike (clock : Instant → Instant) : Request σ ρ → Request σ ρ → Prop
  | load (config : Json) (rules : List String) (hook : Hook σ ρ) :
      Alike clock (load config rules hook) (load config rules hook)
  | unload (hook : Hook σ ρ) : Alike clock (unload hook) (unload hook)
  | collect {script script' : Script σ ρ} (hscript : script.Alike clock script') :
      Alike clock (collect script) (collect script')
  | visit (job : Task σ → TaskState σ × ρ) : Alike clock (visit job) (visit job)

theorem Request.alike_refl (q : Request σ ρ) : q.Alike (fun t => t) q := by
  cases q with
  | load config rules hook => exact .load config rules hook
  | unload hook => exact .unload hook
  | collect script => exact .collect script.alike_refl
  | visit job => exact .visit job

namespace LoadedTask

/-- The task has this id, and no collection of it is unfinished. -/
def Idle (id : String) (entry : LoadedTask σ) : Prop := entry.task.id = id ∧ entry.busy = false

/-- The entry once its task keeps something else. -/
def keeping (entry : LoadedTask σ) (state : TaskState σ) : LoadedTask σ :=
  { entry with task := { entry.task with state } }

/-- A collection of the task that is about to begin: nothing is gathered and nothing registered. -/
def collection (catalog : Catalog) (entry : LoadedTask σ) : Collection σ :=
  { task := entry.task, catalog, filters := entry.filters }

/-- The entry after a request that does not unload its task. -/
def next (catalog : Catalog) (entry : LoadedTask σ) : Request σ ρ → LoadedTask σ
  | .load .. => entry
  | .unload hook => entry.keeping (hook entry.task).1
  | .collect script =>
    entry.keeping
      ((script.actions (entry.collection catalog)).foldl TaskState.after entry.task.state)
  | .visit job => entry.keeping (job entry.task).1

end LoadedTask

namespace Registry

variable {r r' s s' : Registry σ} {id other : String} {entry : LoadedTask σ}
  {shown : Option (LoadedTask σ)}

def answer (r : Registry σ) (id : String) : Request σ ρ → Registry σ × Answer ρ
  | .load config rules hook =>
    let (r, loaded) := (r.load id config rules hook).value
    (r, .load loaded)
  | .unload hook =>
    let (r, unloaded) := (r.unload id hook).value
    (r, .unload unloaded)
  | .collect script =>
    let (r, collected) := (r.collect id script.routine).value
    (r, .collect collected)
  | .visit job =>
    let (r, result) := r.visit id job
    (r, .visit result)

/-- The registry after some requests, each with the task that it is for. -/
def after (r : Registry σ) (requests : List (String × Request σ ρ)) : Registry σ :=
  requests.foldl (fun r q => (r.answer q.1 q.2).1) r

theorem after_append (r : Registry σ) (before later : List (String × Request σ ρ)) :
    r.after (before ++ later) = (r.after before).after later := List.foldl_append

/-- The answers to the requests for a task. -/
def answersTo (id : String) : Registry σ → List (String × Request σ ρ) → List (Answer ρ)
  | _, [] => []
  | r, (other, q) :: requests =>
    let (r', reply) := r.answer other q
    if other = id then reply :: answersTo id r' requests else answersTo id r' requests

/-- The requests for a task. -/
def requestsTo (id : String) : List (String × Request σ ρ) → List (Request σ ρ)
  | [] => []
  | (other, q) :: requests =>
    if other = id then q :: requestsTo id requests else requestsTo id requests

/-! ## Changes of one entry -/

/-- Only the entry of one task has changed, to what is given. -/
structure Changed (id : String) (shown : Option (LoadedTask σ)) (before after : Registry σ) :
    Prop where
  terms_eq : after.terms = before.terms
  loaded?_eq : after.loaded? = Function.update before.loaded? id shown

/-- The registries show the same of a task. -/
structure AgreeOn (id : String) (r r' : Registry σ) : Prop where
  terms_eq : r.terms = r'.terms
  loaded?_eq : r.loaded? id = r'.loaded? id

/-- No collection is unfinished, and every task is kept under its own id. -/
def Idle (r : Registry σ) : Prop := ∀ id, ∀ entry ∈ r.loaded? id, entry.Idle id

theorem changed_refl (r : Registry σ) (id : String) : Changed id (r.loaded? id) r r :=
  ⟨rfl, (Function.update_eq_self ..).symm⟩

theorem changed_put (r : Registry σ) (id : String) (entry : LoadedTask σ) :
    Changed id (some entry) r (r.put id entry) := ⟨rfl, loaded?_put_eq r id entry⟩

theorem changed_erase (r : Registry σ) (id : String) :
    Changed id none r { r with tasks := r.tasks.erase id } := ⟨rfl, loaded?_erase r id⟩

theorem changed_updateState (hloaded : r.loaded? id = some entry) (state : TaskState σ) :
    Changed id (some (entry.keeping state)) r (r.updateState id fun _ => state) := by
  refine ⟨terms_updateState .., ?_⟩
  rw [updateState, loaded?_modify, hloaded]
  rfl

namespace Changed

variable (h : Changed id shown r s)

include h

theorem loaded?_self : s.loaded? id = shown := by
  rw [h.loaded?_eq, Function.update_self]

theorem loaded?_of_ne (hother : id ≠ other) : s.loaded? other = r.loaded? other := by
  rw [h.loaded?_eq, Function.update_of_ne hother.symm]

theorem idle (hr : r.Idle) (hentry : ∀ entry ∈ shown, entry.Idle id) : s.Idle := by
  intro other entry hother
  by_cases hid : id = other
  · subst hid
    rw [h.loaded?_self] at hother
    exact hentry entry hother
  · rw [h.loaded?_of_ne hid] at hother
    exact hr other entry hother

theorem agreeOn (h' : Changed id shown r' s') (hagree : AgreeOn id r r') : AgreeOn id s s' where
  terms_eq := h.terms_eq.trans (hagree.terms_eq.trans h'.terms_eq.symm)
  loaded?_eq := h.loaded?_self.trans h'.loaded?_self.symm

theorem agreeOn_of_ne (hother : id ≠ other) (hagree : AgreeOn other r r') : AgreeOn other s r' where
  terms_eq := h.terms_eq.trans hagree.terms_eq
  loaded?_eq := (h.loaded?_of_ne hother).trans hagree.loaded?_eq

end Changed

/-! ## A collection -/

theorem changed_release (hloaded : r.loaded? id = some entry) {c : Collection σ}
    (hid : c.task.id = id) :
    Changed id (some { entry with
      task := { entry.task with state := c.task.state }
      busy := false }) r (r.release c) := by
  refine ⟨terms_release .., ?_⟩
  rw [release, loaded?_modify, keep, updateState, loaded?_modify, Function.update_self,
    Function.update_idem, Option.map_map, hid, hloaded]
  rfl

theorem collect_of_loaded (hloaded : r.loaded? id = some entry) (hidle : entry.Idle id)
    (script : Script σ ρ) :
    let c := entry.collection r.catalog
    (r.collect id script.routine).value.2 =
      (match (script.ended c).failure? with
        | some failure => .error (.collecting id failure)
        | none => .ok (c.run (script.actions c)).finish, some (script.ended c).result) ∧
    Changed id (some (entry.next r.catalog (.collect script))) r
      (r.collect id script.routine).value.1 := by
  intro c
  obtain ⟨hid, hbusy⟩ := hidle
  have hacquire : r.acquire id = .ok (r.put id { entry with busy := true }, c) := by
    rw [acquire, hloaded]
    dsimp only
    rw [hbusy, if_neg Bool.false_ne_true]
    rfl
  have htask := c.task_run (script.actions c)
  have hkey : (c.run (script.actions c)).task.id = id := by
    rw [htask]
    exact hid
  -- A script leaves the registry alone, so the release finds the entry that the begin has put.
  have hput := changed_put r id { entry with busy := true }
  have hrelease := changed_release hput.loaded?_self hkey
  have hvalue : (r.collect id script.routine).value =
      ((r.put id { entry with busy := true }).release (c.run (script.actions c)),
        (outcome (c.run (script.actions c)) (script.ended c).failure?).value,
        some (script.ended c).result) := by
    rw [collect, collectBy, hacquire]
    simp only [Logged.value_bind, Logged.value_pure, script.run_routine]
  rw [hvalue]
  constructor
  · unfold outcome
    rw [hkey]
    cases (script.ended c).failure? <;> rfl
  · refine ⟨hrelease.terms_eq.trans hput.terms_eq, ?_⟩
    rw [hrelease.loaded?_eq, hput.loaded?_eq, Function.update_idem, htask]
    obtain ⟨task, filters, busy⟩ := entry
    obtain rfl : busy = false := hbusy
    rfl

/-! ## One request -/

/-- Registries that show the same of a task give answers that are the same in some way, and change
its entry to the same. -/
structure Local (id : String) (r r' : Registry σ) {α : Type} (same : α → α → Prop)
    (answered answered' : Registry σ × α) : Prop where
  answer : same answered.2 answered'.2
  changed : ∃ shown, (∀ entry ∈ shown, entry.Idle id) ∧ Changed id shown r answered.1 ∧
    Changed id shown r' answered'.1

section Agreeing

variable (h : AgreeOn id r r') (hr : r.Idle)

include h hr

theorem local_unchanged {α : Type} (answer : α) :
    Local id r r' (· = ·) (r, answer) (r', answer) :=
  ⟨rfl, r.loaded? id, hr id, changed_refl r id, h.loaded?_eq ▸ changed_refl r' id⟩

theorem local_updateState {α : Type} (hloaded : r.loaded? id = some entry) (state : TaskState σ)
    (answer : α) : Local id r r' (· = ·) (r.updateState id fun _ => state, answer)
      (r'.updateState id fun _ => state, answer) := by
  have hidle : entry.Idle id := hr id entry hloaded
  refine ⟨rfl, _, ?_, changed_updateState hloaded state,
    changed_updateState (h.loaded?_eq ▸ hloaded) state⟩
  rintro _ ⟨⟩
  exact hidle

theorem local_load (config : Json) (rules : List String) (hook : Hook σ ρ) :
    Local id r r' (· = ·) (r.load id config rules hook).value
      (r'.load id config rules hook).value := by
  have hisLoaded : r.isLoaded id = r'.isLoaded id := congrArg Option.isSome h.loaded?_eq
  have hrules : r.readRules id rules = r'.readRules id rules := readRules_congr h.terms_eq id rules
  unfold load
  rw [hisLoaded, hrules]
  split_ifs
  · exact local_unchanged h hr _
  · cases hcreate : Task.create id config with
    | error e => exact local_unchanged h hr _
    | ok task =>
      dsimp only
      rw [Logged.value_bind, Logged.value_bind]
      cases (r'.readRules id rules).value with
      | error e => exact local_unchanged h hr _
      | ok read =>
        obtain rfl : task.id = id := id_of_create hcreate
        dsimp only [enter]
        cases (hook task).2.failure? with
        | some failure => exact local_unchanged h hr _
        | none =>
          refine ⟨rfl, _, ?_, changed_put .., changed_put ..⟩
          rintro entry ⟨⟩
          exact ⟨rfl, rfl⟩

theorem local_unload (hook : Hook σ ρ) :
    Local id r r' (· = ·) (r.unload id hook).value (r'.unload id hook).value := by
  cases hloaded : r.loaded? id with
  | none =>
    rw [Registry.unload, Registry.unload, ← h.loaded?_eq, hloaded]
    exact local_unchanged h hr _
  | some entry =>
    have hbusy := (hr id entry hloaded).2
    rw [unload_of_idle hloaded hbusy, unload_of_idle (h.loaded?_eq ▸ hloaded) hbusy]
    cases (hook entry.task).2.failure? with
    | some failure => exact local_updateState h hr hloaded _ _
    | none =>
      refine ⟨rfl, none, ?_, changed_erase .., changed_erase ..⟩
      rintro entry ⟨⟩

theorem local_visit (job : Task σ → TaskState σ × ρ) :
    Local id r r' (· = ·) (r.visit id job) (r'.visit id job) := by
  unfold visit task?
  rw [← h.loaded?_eq]
  cases hloaded : r.loaded? id with
  | none => exact local_unchanged h hr _
  | some entry => exact local_updateState h hr hloaded _ _

theorem local_collect {script script' : Script σ ρ} (hscript : script.Alike clock script') :
    Local id r r'
      (fun collected collected' =>
        (Answer.collect collected).retime clock = (Answer.collect collected').retime clock)
      (r.collect id script.routine).value (r'.collect id script'.routine).value := by
  cases hloaded : r.loaded? id with
  | none =>
    have hunknown : r.acquire id = .error (.unknownTask id) := by rw [acquire, hloaded]
    have hunknown' : r'.acquire id = .error (.unknownTask id) := by
      rw [acquire, ← h.loaded?_eq, hloaded]
    rw [collect_of_error hunknown, collect_of_error hunknown']
    exact ⟨rfl, (local_unchanged h hr ()).changed⟩
  | some entry =>
    have hidle := hr id entry hloaded
    have hcatalog : r'.catalog = r.catalog := (congrArg Prod.fst h.terms_eq).symm
    obtain ⟨hanswer, hchanged⟩ := collect_of_loaded hloaded hidle script
    obtain ⟨hanswer', hchanged'⟩ := collect_of_loaded (h.loaded?_eq ▸ hloaded) hidle script'
    rw [hcatalog] at hanswer' hchanged'
    obtain ⟨c, hc⟩ : ∃ c, c = entry.collection r.catalog := ⟨_, rfl⟩
    rw [← hc] at hanswer hanswer'
    obtain ⟨hrun, hended⟩ := hscript.run (rfl : c.retime clock = _)
    -- Both tasks keep the same, although what was gathered differs in times.
    have htask : (c.run (script'.actions c)).task = (c.run (script.actions c)).task :=
      (congrArg Collection.task hrun).symm
    have hkept : entry.next r.catalog (.collect script') =
        entry.next r.catalog (.collect script) := by
      rw [Collection.task_run, Collection.task_run, hc] at htask
      exact congrArg (fun task => { entry with task }) htask
    refine ⟨?_, _, ?_, hchanged, hkept ▸ hchanged'⟩
    · rw [hanswer, hanswer', ← hended]
      cases (script.ended c).failure? with
      | some failure => rfl
      | none =>
        have hfinish := congrArg Collection.finish hrun
        rw [Collection.finish_retime, Collection.finish_retime] at hfinish
        simp only [Answer.retime, Except.map, hfinish]
    · rintro entry ⟨⟩
      exact hidle

theorem local_answer {q q' : Request σ ρ} (hq : q.Alike clock q') :
    Local id r r' (fun reply reply' => reply.retime clock = reply'.retime clock)
      (r.answer id q) (r'.answer id q') := by
  cases hq with
  | load config rules hook =>
    obtain ⟨hreply, hchanged⟩ := local_load h hr config rules hook
    exact ⟨congrArg (Answer.retime clock ∘ .load) hreply, hchanged⟩
  | unload hook =>
    obtain ⟨hreply, hchanged⟩ := local_unload h hr hook
    exact ⟨congrArg (Answer.retime clock ∘ .unload) hreply, hchanged⟩
  | collect hscript =>
    obtain ⟨hreply, hchanged⟩ := local_collect h hr hscript
    exact ⟨hreply, hchanged⟩
  | visit job =>
    obtain ⟨hreply, hchanged⟩ := local_visit h hr job
    exact ⟨congrArg (Answer.retime clock ∘ .visit) hreply, hchanged⟩

end Agreeing

theorem changed_answer (hr : r.Idle) (id : String) (q : Request σ ρ) :
    ∃ shown, (∀ entry ∈ shown, entry.Idle id) ∧ Changed id shown r (r.answer id q).1 := by
  have hself : AgreeOn id r r := ⟨rfl, rfl⟩
  obtain ⟨-, shown, hidle, hchanged, -⟩ := local_answer hself hr q.alike_refl
  exact ⟨shown, hidle, hchanged⟩

/-- What a loaded task is told, and what is left of it. -/
structure Serves (ρ : Type) (r : Registry σ) (id : String) (entry : LoadedTask σ) : Prop where
  load : ∀ config rules (hook : Hook σ ρ),
    r.answer id (.load config rules hook) = (r, .load (.error (.alreadyLoaded id), none))
  visit : ∀ job : Task σ → TaskState σ × ρ,
    (r.answer id (.visit job)).2 = .visit (some (job entry.task).2) ∧
    (r.answer id (.visit job)).1.loaded? id = some (entry.keeping (job entry.task).1)
  unload : ∀ hook : Hook σ ρ, (hook entry.task).2.failure? = none →
    (r.answer id (.unload hook)).2 = .unload (.ok (), some (hook entry.task).2.result) ∧
    (r.answer id (.unload hook)).1.loaded? id = none
  unload_failing : ∀ (hook : Hook σ ρ) failure, (hook entry.task).2.failure? = some failure →
    (r.answer id (.unload hook)).2 =
      .unload (.error (.unloading id failure), some (hook entry.task).2.result) ∧
    (r.answer id (.unload hook)).1.loaded? id = some (entry.keeping (hook entry.task).1)
  /-- A collection begins with nothing gathered and nothing registered. It leaves behind what it
  stores, whether it fails or not. -/
  collect : ∀ script : Script σ ρ,
    let c : Collection σ := { task := entry.task, catalog := r.catalog, filters := entry.filters }
    (r.answer id (.collect script)).2 =
      .collect (match (script.ended c).failure? with
        | some failure => .error (.collecting id failure)
        | none => .ok (c.run (script.actions c)).finish, some (script.ended c).result) ∧
    (r.answer id (.collect script)).1.loaded? id =
      some (entry.keeping ((script.actions c).foldl TaskState.after entry.task.state))

theorem serves_of_loaded (hloaded : r.loaded? id = some entry) (hidle : entry.Idle id) :
    r.Serves ρ id entry where
  load config rules hook := by rw [answer, load_of_loaded hloaded config rules hook]
  visit job := by
    have htask : r.task? id = some entry.task := by rw [task?, hloaded, Option.map_some]
    rw [answer, visit, htask]
    exact ⟨rfl, (changed_updateState hloaded _).loaded?_self⟩
  unload hook hfailure := by
    rw [answer, unload_of_idle hloaded hidle.2, hfailure]
    exact ⟨rfl, (changed_erase r id).loaded?_self⟩
  unload_failing hook failure hfailure := by
    rw [answer, unload_of_idle hloaded hidle.2, hfailure]
    exact ⟨rfl, (changed_updateState hloaded _).loaded?_self⟩
  collect script := by
    obtain ⟨hanswer, hchanged⟩ := collect_of_loaded hloaded hidle script
    exact ⟨congrArg Answer.collect hanswer, hchanged.loaded?_self⟩

theorem Serves.loaded?_answer (h : r.Serves ρ id entry) (hloaded : r.loaded? id = some entry)
    (q : Request σ ρ) (hstays : ∀ result, (r.answer id q).2 ≠ .unload (.ok (), result)) :
    (r.answer id q).1.loaded? id = some (entry.next r.catalog q) := by
  cases q with
  | load config rules hook => rw [h.load, hloaded, LoadedTask.next]
  | unload hook =>
    cases hfailure : (hook entry.task).2.failure? with
    | some failure => exact (h.unload_failing hook failure hfailure).2
    | none => exact absurd (h.unload hook hfailure).1 (hstays _)
  | collect script => exact (h.collect script).2
  | visit job => exact (h.visit job).2

/-! ## Many requests -/

theorem AgreeOn.answersTo_eq (h : AgreeOn id r r') (hr : r.Idle)
    (requests : List (String × Request σ ρ)) {kept : List (Request σ ρ)}
    (hkept : List.Forall₂ (Request.Alike clock) (requestsTo id requests) kept) :
    (answersTo id r requests).map (Answer.retime clock) =
      (answersTo id r' (kept.map (id, ·))).map (Answer.retime clock) := by
  induction requests generalizing r r' kept with
  | nil =>
    cases hkept
    rfl
  | cons request requests ih =>
    obtain ⟨other, q⟩ := request
    -- A request for the task changes its entry to the same in both; any other one is made in the
    -- first registry only, and leaves the entry alone.
    by_cases hother : other = id
    · subst hother
      rw [requestsTo, if_pos rfl] at hkept
      obtain ⟨q', rest, hq, hrest, rfl⟩ := List.forall₂_cons_left_iff.mp hkept
      obtain ⟨hreply, shown, hidle, hchanged, hchanged'⟩ := local_answer h hr hq
      rw [List.map_cons, answersTo, answersTo]
      dsimp only
      rw [if_pos rfl, if_pos rfl, List.map_cons, List.map_cons, hreply,
        ih (hchanged.agreeOn hchanged' h) (hchanged.idle hr hidle) hrest]
    · rw [requestsTo, if_neg hother] at hkept
      obtain ⟨shown, hidle, hchanged⟩ := changed_answer hr other q
      rw [answersTo]
      dsimp only
      rw [if_neg hother, ih (hchanged.agreeOn_of_ne hother h) (hchanged.idle hr hidle) hkept]

theorem idle_after (hr : r.Idle) (requests : List (String × Request σ ρ)) :
    (r.after requests).Idle ∧ (r.after requests).terms = r.terms := by
  induction requests generalizing r with
  | nil => exact ⟨hr, rfl⟩
  | cons q requests ih =>
    obtain ⟨shown, hidle, hchanged⟩ := changed_answer hr q.1 q.2
    obtain ⟨hafter, hterms⟩ := ih (hchanged.idle hr hidle)
    exact ⟨hafter, hterms.trans hchanged.terms_eq⟩

theorem loaded?_after_of_loaded (hr : r.Idle) (hloaded : r.loaded? id = some entry)
    (requests : List (String × Request σ ρ))
    (hstays : ∀ result, .unload (.ok (), result) ∉ answersTo id r requests) :
    (r.after requests).loaded? id =
      some ((requestsTo id requests).foldl (LoadedTask.next r.catalog) entry) := by
  induction requests generalizing r entry with
  | nil => exact hloaded
  | cons request requests ih =>
    obtain ⟨other, q⟩ := request
    obtain ⟨shown, hidle, hchanged⟩ := changed_answer hr other q
    have hcatalog : (r.answer other q).1.catalog = r.catalog :=
      congrArg Prod.fst hchanged.terms_eq
    rw [answersTo] at hstays
    dsimp only at hstays
    rw [requestsTo, ← hcatalog]
    by_cases hother : other = id
    · subst hother
      rw [if_pos rfl] at hstays ⊢
      have hserves : r.Serves ρ other entry := serves_of_loaded hloaded (hr other entry hloaded)
      have hnext := hserves.loaded?_answer hloaded q fun result hunload =>
        hstays result (hunload ▸ List.mem_cons_self)
      rw [← hcatalog] at hnext
      refine ih (hchanged.idle hr hidle) hnext fun result hmem => ?_
      exact hstays result (List.mem_cons_of_mem _ hmem)
    · rw [if_neg hother] at hstays ⊢
      refine ih (hchanged.idle hr hidle) ?_ hstays
      rw [hchanged.loaded?_of_ne hother, hloaded]

theorem answer_load (r : Registry σ) (id : String) (config : Json) (rules : List String)
    (hook : Hook σ ρ) :
    let answered := r.answer id (.load config rules hook)
    (∀ e result, answered.2 = .load (.error e, result) → answered.1 = r) ∧
    ∀ report result, answered.2 = .load (.ok report, result) →
      r.loaded? id = none ∧ ∃ task filters, Task.create id config = .ok task ∧
        (r.readRules id rules).value = .ok (filters, report.skipped) ∧
        answered.1.loaded? id =
          some { task := { task with state := (hook task).1 }, filters } := by
  intro answered
  have hreply : ∀ reply, answered.2 = .load reply →
      (r.load id config rules hook).value.2.1 = reply.1 :=
    fun reply hanswer => congrArg Prod.fst (Answer.load.inj hanswer)
  rcases load_cases r id config rules hook with
    ⟨e, -, hsame, he⟩ | ⟨task, filters, skipped, hcreate, hnone, hrules, hput, hok⟩
  · refine ⟨fun _ _ _ => hsame, fun report result hanswer => ?_⟩
    cases he.symm.trans (hreply _ hanswer)
  · refine ⟨fun e result hanswer => ?_, fun report result hanswer => ?_⟩
    · cases hok.symm.trans (hreply _ hanswer)
    · cases hok.symm.trans (hreply _ hanswer)
      refine ⟨hnone, task, filters, hcreate, hrules, ?_⟩
      show (r.load id config rules hook).value.1.loaded? id = _
      rw [hput, (changed_put ..).loaded?_self]

/-- **Tasks are isolated from each other and from their own past**: after it was loaded, a task is
told what it is told if only this load and the later requests for it are ever made, maybe at other
times. It begins with what the hook has left, and a load that fails changes nothing. Requests for
other tasks change nothing about it. As long as no unload of it succeeds, it stays loaded as it is,
and it keeps what its own requests leave; a collection among them begins with nothing gathered and
nothing registered, and leaves behind what it stores, whether it fails or not. -/
theorem answers_isolated (clock : Instant → Instant) (catalog : Catalog) (strict : Bool)
    (before after : List (String × Request σ ρ)) (id : String) (config : Json)
    (rules : List String) (hook : Hook σ ρ) (kept : List (Request σ ρ)) :
    let start : Registry σ := { catalog, strict }
    let r := start.after before
    let load : Request σ ρ := .load config rules hook
    (∀ report result, (r.answer id load).2 = .load (.ok report, result) →
      (List.Forall₂ (Request.Alike clock) (requestsTo id after) kept →
        (answersTo id r ((id, load) :: after)).map (Answer.retime clock) =
          (answersTo id start ((load :: kept).map (id, ·))).map (Answer.retime clock)) ∧
      ∃ task filters, Task.create id config = .ok task ∧ task.state = .empty ∧
        (start.readRules id rules).value = .ok (filters, report.skipped) ∧
        (r.answer id load).1.loaded? id =
          some { task := { task with state := (hook task).1 }, filters }) ∧
    (∀ e result, (r.answer id load).2 = .load (.error e, result) → (r.answer id load).1 = r) ∧
    (∀ other (q : Request σ ρ), other ≠ id → (r.answer other q).1.loaded? id = r.loaded? id) ∧
    ∀ entry, r.loaded? id = some entry → r.Serves ρ id entry ∧
      ((∀ result, .unload (.ok (), result) ∉ answersTo id r after) →
        (r.after after).loaded? id =
          some ((requestsTo id after).foldl (LoadedTask.next catalog) entry)) := by
  intro start r load
  have hstart : start.Idle := nofun
  obtain ⟨hr, hterms⟩ := idle_after hstart before
  obtain ⟨hfailed, hsucceeded⟩ := answer_load r id config rules hook
  refine ⟨fun report result hload => ?_, hfailed, fun other q hother => ?_, ?_⟩
  · obtain ⟨hnone, task, filters, hcreate, hrules, hentry⟩ := hsucceeded report result hload
    refine ⟨fun hkept => ?_, task, filters, hcreate, state_of_create hcreate, ?_, hentry⟩
    · refine AgreeOn.answersTo_eq ⟨hterms, hnone⟩ hr ((id, load) :: after) ?_
      rw [requestsTo, if_pos rfl]
      exact .cons (.load config rules hook) hkept
    · rw [← hrules, readRules_congr hterms]
  · obtain ⟨shown, -, hchanged⟩ := changed_answer hr other q
    exact hchanged.loaded?_of_ne hother
  · intro entry hloaded
    refine ⟨serves_of_loaded hloaded (hr id entry hloaded), fun hstays => ?_⟩
    rw [loaded?_after_of_loaded hr hloaded after hstays,
      show r.catalog = catalog from congrArg Prod.fst hterms]

/-- Both tasks have stored something, and a collection of each has stored something else and failed,
with a tag registered for all metrics. An unload of one of them fails. The other one is loaded anew
and finds nothing, while the first one finds all that it has stored. -/
theorem answers_isolated_reloaded :
    let number : StateType Nat Nat := ⟨"u64", some⟩
    let hook : Hook Nat (List Nat) := fun task => (task.state, ⟨[], none⟩)
    let refusing : Hook Nat (List Nat) := fun task => (task.state, ⟨[], some ⟨"in use", []⟩⟩)
    let storing (n : Nat) : Request Nat (List Nat) :=
      .visit fun task => ((task.store "visited" n).state, [])
    let recalling : Request Nat (List Nat) := .visit fun task =>
      (task.state, ["visited", "collected"].filterMap fun key => (task.load key number).toOption)
    let failing : Script Nat (List Nat) := .act (.register "" [.tag "k" "v"]) fun _ =>
      .act (.store "collected" 2) fun _ => .fail ⟨"down", []⟩ []
    let reporting : Instant → Script Nat (List Nat) := fun now =>
      .act (.addMetric now "/p/a" (.int 1) []) fun _ => .finish []
    let load : Request Nat (List Nat) := .load .null [] hook
    let start : Registry Nat := { catalog := Catalog.ofOptions {}, strict := false }
    let loading : List (String × Request Nat (List Nat)) := [("b", load), ("a", load)]
    let requests : List (String × Request Nat (List Nat)) := [("a", storing 1), ("b", storing 7),
      ("a", .collect failing), ("b", .collect failing), ("b", .unload refusing),
      ("a", .unload hook)]
    let r := start.after (loading ++ requests)
    let clock : Instant → Instant := fun _ => ⟨0, 0⟩
    (answersTo "a" r [("a", load), ("b", .unload hook), ("a", recalling),
        ("a", .collect (reporting ⟨5, 0⟩))]).map (Answer.retime clock) =
      [.load (.ok ⟨[]⟩, some []), .visit (some []),
        .collect (.ok ⟨[.measured ⟨0, 0⟩ ⟨[{ value := "p" }, { value := "a" }]⟩ (.int 1)], []⟩,
          some [])] ∧
      (r.answer "b" recalling).2 = .visit (some [7, 2]) := by
  intro number hook refusing storing recalling failing reporting load start loading requests r clock
  have hreporting : (reporting ⟨5, 0⟩).Alike clock (reporting ⟨9, 0⟩) :=
    .act (.addMetric "/p/a" (.int 1) rfl rfl) fun _ _ _ => .finish []
  constructor
  · obtain ⟨halone, -⟩ := answers_isolated clock start.catalog false (loading ++ requests)
      [("b", .unload hook), ("a", recalling), ("a", .collect (reporting ⟨5, 0⟩))] "a" .null []
      hook [recalling, .collect (reporting ⟨9, 0⟩)]
    have hload : (r.answer "a" load).2 = .load (.ok ⟨[]⟩, some []) := by decide +kernel
    obtain ⟨htold, -⟩ := halone _ _ hload
    rw [htold (.cons (.visit _) (.cons (.collect hreporting) .nil))]
    decide +kernel
  · have htold : answersTo "b" (start.after loading) requests =
        [.visit (some []), .collect (.error (.collecting "b" ⟨"down", []⟩), some []),
          .unload (.error (.unloading "b" ⟨"in use", []⟩), some [])] := by decide +kernel
    obtain ⟨-, -, -, hkept⟩ := answers_isolated clock start.catalog false loading requests "b" .null
      [] hook []
    have hloaded := (hkept _ (Option.some_get
      (show ((start.after loading).loaded? "b").isSome = true by decide +kernel)).symm).2
        fun result => by rw [htold]; simp
    rw [← after_append] at hloaded
    obtain ⟨-, -, -, hserved⟩ := answers_isolated clock start.catalog false (loading ++ requests) []
      "b" .null [] hook []
    obtain ⟨hserves, -⟩ := hserved _ hloaded
    rw [(hserves.visit _).1]
    decide +kernel

end Registry

end Telemetry
