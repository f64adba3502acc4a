import Telemetry.Proofs.Registry.Entries

/-!
# Nested collections, step by step

A routine may turn to the registry while its collection is unfinished, and may begin other
collections there, which do the same. The machine takes the steps of such a run one by one and keeps
the unfinished collections, the innermost first, so that something can be said of every moment of
it. It takes any moves whatever. What a routine does is one way to move (`Routine.run_moves`), and a
whole collection is one as well (`Registry.run_collectMoves`).

* `Move`, `Machine.step`, `Machine.run`: the steps and the runs.
* `Machine.visible`: the registry as the running code finds it.
* `Routine.moves`, `Registry.collectMoves`: the moves of a routine and of a whole collection.
-/

namespace Telemetry

open Log

/-- A load that succeeded: which one it was, what it asked for and what it answered. -/
structure Load where
  number : Nat
  config : Json
  rules : List String
  report : LoadReport

/-- An unfinished collection, as it began and as it is, with the load that its task comes from. -/
structure Frame (σ : Type) where
  begun : Collection σ
  collection : Collection σ
  load : Option Load

def Frame.id {σ : Type} (f : Frame σ) : String := f.begun.task.id

inductive Move (σ ρ : Type) where
  | ask (command : Command σ ρ)
  /-- Begins a collection, if the task is loaded and not busy. -/
  | enter (id : String)
  | act (action : Action σ)
  /-- Ends the innermost collection, whether it has succeeded or failed. -/
  | leave

structure Machine (σ : Type) where
  registry : Registry σ
  /-- The unfinished collections, the innermost first. -/
  frames : List (Frame σ) := []
  /-- The last load of each task that succeeded. -/
  origin : String → Option Load := fun _ => none
  loads : Nat := 0

namespace Machine

variable {σ ρ : Type}

/-- The tasks with an unfinished collection. -/
def unfinished (m : Machine σ) : List String := m.frames.map Frame.id

/-- The registry as the running code finds it: it knows what the task of that code keeps. -/
def visible (m : Machine σ) : Registry σ :=
  match m.frames with
  | [] => m.registry
  | f :: _ => m.registry.keep f.collection

/-- The running code changes its collection. -/
def proceed (m : Machine σ) (change : Collection σ → Collection σ) : Machine σ :=
  { m with frames := m.frames.modifyHead fun f => { f with collection := change f.collection } }

/-- The running code goes on with a registry, from which it learns what its task keeps. -/
def resume (m : Machine σ) (r : Registry σ) : Machine σ :=
  { m with registry := r }.proceed (·.resume r)

/-- Remembers a load that has succeeded. -/
def note (m : Machine σ) : (q : Command σ ρ) → q.Reply → Machine σ
  | .load id config rules _, (.ok report, _) =>
    { m with
      origin := Function.update m.origin id (some ⟨m.loads, config, rules, report⟩)
      loads := m.loads + 1 }
  | _, _ => m

def step (m : Machine σ) : Move σ ρ → Machine σ
  | .ask q =>
    let (r, reply) := (m.visible.serve q).value
    (m.note q reply).resume r
  | .enter id =>
    match m.visible.acquire id with
    | .error _ => m.resume m.visible
    | .ok (r, c) => { m with registry := r, frames := ⟨c, c, m.origin id⟩ :: m.frames }
  | .act a => m.proceed (·.step a)
  | .leave =>
    match m.frames with
    | [] => m
    | f :: outer => { m with frames := outer }.resume (m.registry.release f.collection)

def run (m : Machine σ) (moves : List (Move σ ρ)) : Machine σ := moves.foldl step m

theorem run_append (m : Machine σ) (moves more : List (Move σ ρ)) :
    m.run (moves ++ more) = (m.run moves).run more := List.foldl_append

end Machine

/-! ## Routines as moves -/

variable {σ ρ : Type}

/-- The moves of a whole collection, where its job makes the moves `inner`. -/
def Registry.movesBy (r : Registry σ) (id : String)
    (inner : Registry σ → Collection σ → List (Move σ ρ)) : List (Move σ ρ) :=
  .enter id :: match r.acquire id with
    | .error _ => []
    | .ok (r, c) => inner r c ++ [.leave]

/-- The moves that a routine makes in a collection, one after the other. -/
def Routine.moves : Routine σ ρ → Registry σ → Collection σ → List (Move σ ρ)
  | finish _, _, _ => []
  | fail _ _, _, _ => []
  | act action next, r, c =>
    let (c, reply) := (c.perform action).value
    .act action :: (next reply).moves r c
  | ask command next, r, c =>
    let (r, reply) := ((r.keep c).serve command).value
    .ask command :: (next reply).moves r (c.resume r)
  | collect id body next, r, c =>
    let (r', reply) := ((r.keep c).collectBy id body.run).value
    (r.keep c).movesBy id body.moves ++ (next reply).moves r' (c.resume r')

def Registry.collectMoves (r : Registry σ) (id : String) (routine : Routine σ ρ) :
    List (Move σ ρ) :=
  r.movesBy id routine.moves

namespace Machine

variable {m : Machine σ} {r : Registry σ} {c : Collection σ} {f : Frame σ}
  {outer : List (Frame σ)}

/-- The machine is where running code has come to: in a registry, and in a collection that began
like that of a given frame. -/
structure At (m : Machine σ) (r : Registry σ) (f : Frame σ) (c : Collection σ)
    (outer : List (Frame σ)) : Prop where
  registry_eq : m.registry = r
  frames_eq : m.frames = { f with collection := c } :: outer

theorem At.visible (h : m.At r f c outer) : m.visible = r.keep c := by
  rw [Machine.visible, h.frames_eq, h.registry_eq]

theorem note_frames (m : Machine σ) (q : Command σ ρ) (reply : q.Reply) :
    (m.note q reply).frames = m.frames := by
  unfold note
  split <;> rfl

theorem frames_proceed (h : m.frames = { f with collection := c } :: outer)
    (change : Collection σ → Collection σ) :
    (m.proceed change).frames = { f with collection := change c } :: outer := by
  rw [proceed, h]
  rfl

theorem At.resume (h : m.frames = { f with collection := c } :: outer) (r : Registry σ) :
    (m.resume r).At r f (c.resume r) outer :=
  ⟨rfl, frames_proceed (m := { m with registry := r }) h _⟩

/-- A collection as moves: the machine ends up with the registry that the collection returns, and
the code below goes on with it. -/
theorem run_movesBy (m : Machine σ) (id : String) (job : Job σ ρ)
    (inner : Registry σ → Collection σ → List (Move σ ρ))
    (hinner : ∀ {m r f c outer}, At m r f c outer →
      (m.run (inner r c)).At (job r c).value.1 f (job r c).value.2.1 outer) :
    (m.run (m.visible.movesBy id inner)).registry = (m.visible.collectBy id job).value.1 ∧
      (m.run (m.visible.movesBy id inner)).frames =
        (m.resume (m.visible.collectBy id job).value.1).frames := by
  rw [Registry.movesBy, Registry.collectBy, run, List.foldl_cons, step]
  cases m.visible.acquire id with
  | error e => exact ⟨rfl, rfl⟩
  | ok begun =>
    obtain ⟨r, c⟩ := begun
    dsimp only
    have hbegun : At { m with registry := r, frames := ⟨c, c, m.origin id⟩ :: m.frames } r
        ⟨c, c, m.origin id⟩ c m.frames := ⟨rfl, rfl⟩
    have hended := hinner hbegun
    rw [run] at hended
    rw [List.foldl_append, List.foldl_cons, List.foldl_nil, step, hended.frames_eq]
    dsimp only
    rw [hended.registry_eq]
    exact ⟨rfl, rfl⟩

/-- **The moves of a routine lead where the routine leads.** -/
theorem run_moves (code : Routine σ ρ) (h : m.At r f c outer) :
    (m.run (code.moves r c)).At (code.run r c).value.1 f (code.run r c).value.2.1 outer := by
  -- for all machines at once, since an inner collection runs on a frame of its own
  induction code generalizing m r f c outer with
  | finish result => exact h
  | fail failure result => exact h
  | act action next ih =>
    exact ih _ (m := m.step (.act action)) ⟨h.registry_eq, frames_proceed h.frames_eq _⟩
  | ask command next ih =>
    have hstep : m.step (.ask command) =
        (m.note command ((r.keep c).serve command).value.2).resume
          ((r.keep c).serve command).value.1 := by
      rw [step, h.visible]
    rw [Routine.moves, run, List.foldl_cons, hstep]
    exact ih _ (At.resume ((note_frames m command _).trans h.frames_eq) _)
  | collect id body next ihbody ihnext =>
    obtain ⟨hregistry, hframes⟩ := run_movesBy m id body.run body.moves ihbody
    rw [h.visible] at hregistry hframes
    have hresumed := At.resume h.frames_eq ((r.keep c).collectBy id body.run).value.1
    rw [Routine.moves, run_append]
    exact ihnext _ ⟨hregistry, hframes.trans hresumed.frames_eq⟩

theorem run_collectMoves (hidle : m.frames = []) (id : String) (code : Routine σ ρ) :
    (m.run (m.registry.collectMoves id code)).registry = (m.registry.collect id code).value.1 ∧
      (m.run (m.registry.collectMoves id code)).frames = [] := by
  have hvisible : m.visible = m.registry := by rw [visible, hidle]
  obtain ⟨hregistry, hframes⟩ := run_movesBy m id code.run code.moves (run_moves code)
  rw [hvisible] at hregistry hframes
  refine ⟨hregistry, hframes.trans ?_⟩
  show m.frames.modifyHead _ = []
  rw [hidle, List.modifyHead_nil]

end Machine

end Telemetry
