import Telemetry.Proofs.Registry.Machine

/-!
# One collection at a time

A task is busy exactly as long as it has an unfinished collection, however collections are nested
and whatever their routines ask of the registry. A busy task can be neither loaded nor unloaded, so
it stays as its collection found it. `Machine.Sound` is what every move keeps (`Sound.step`), and
`Machine.Orderly` is what can be relied on at every moment (`orderly_run`).

* `Load.Gives`: a task is loaded as a load made it.
* `Machine.Sound`: the registry and the unfinished collections agree.
* `Machine.Orderly`: what follows for all requests.
-/

namespace Telemetry

open Log

variable {σ ρ : Type}

def Registry.isBusy (r : Registry σ) (id : String) : Bool := (r.loaded? id).any (·.busy)

/-- The load, in a registry with these terms, has made the task and the filters of the entry. -/
def Load.Gives (load : Load) (terms : Catalog × Bool) (id : String) (entry : LoadedTask σ) : Prop :=
  (∃ task : Task σ, Task.create id load.config = .ok task ∧ entry.task = task.bare) ∧
    (Registry.addRules terms.1.definitions terms.2 id { separator := terms.1.options.separator }
      load.rules).value = .ok (entry.filters, load.report.skipped)

/-- How a task is loaded while a collection of it is unfinished. -/
def Frame.entry (f : Frame σ) : LoadedTask σ :=
  { task := f.begun.task.bare, filters := f.begun.filters, busy := true }

/-- The frame agrees with how its task is loaded by now and with the load that did so. -/
structure Frame.Agrees (f : Frame σ) (catalog : Catalog) (shown : Option (LoadedTask σ))
    (origin : Option Load) : Prop where
  shown_eq : shown = some f.entry
  load_eq : origin = f.load
  catalog_eq : f.begun.catalog = catalog
  scope_eq : f.collection.scope = f.begun.scope

namespace Machine

variable {m : Machine σ} {r : Registry σ} {terms : Catalog × Bool}

/-- The registry and the unfinished collections agree about what is loaded and what is busy. -/
structure Sound (terms : Catalog × Bool) (m : Machine σ) : Prop where
  terms_eq : m.registry.terms = terms
  nodup : m.unfinished.Nodup
  busy_iff : ∀ id entry, m.registry.view id = some entry → (entry.busy = true ↔ id ∈ m.unfinished)
  origin : ∀ id entry, m.registry.view id = some entry →
    ∃ load, m.origin id = some load ∧ load.Gives terms id entry
  frames : ∀ f ∈ m.frames, f.Agrees terms.1 (m.registry.view f.id) (m.origin f.id)

theorem sound_start (catalog : Catalog) (strict : Bool) :
    ({ registry := { catalog, strict } } : Machine σ).Sound (catalog, strict) where
  terms_eq := rfl
  nodup := .nil
  busy_iff _ _ h := nomatch h
  origin _ _ h := nomatch h
  frames _ h := nomatch h

/-! ## Going on with a registry -/

theorem scope_resume {c : Collection σ}
    (h : ∀ entry, r.view c.task.id = some entry → entry.task = c.task.bare) :
    (c.resume r).scope = c.scope := by
  unfold Collection.resume
  split
  · rfl
  · next task htask =>
    obtain ⟨entry, hloaded, rfl⟩ := Option.map_eq_some_iff.mp htask
    have htask : entry.task.bare = c.task.bare := h entry.bare (by rw [Registry.view, hloaded]; rfl)
    rw [Collection.scope, Collection.scope, htask]

theorem Sound.proceed (h : m.Sound terms) {change : Collection σ → Collection σ}
    (hchange : ∀ f ∈ m.frames, (change f.collection).scope = f.collection.scope) :
    (m.proceed change).Sound terms := by
  have hframes := h.frames
  have hsame : (m.frames.modifyHead fun f => { f with collection := change f.collection }).map
      Frame.id = m.unfinished := by
    rw [unfinished]
    cases m.frames <;> rfl
  rw [Machine.proceed]
  refine ⟨h.terms_eq, ?_, fun id entry hview => ?_, h.origin, fun f hf => ?_⟩
  · rw [unfinished, hsame]
    exact h.nodup
  · rw [unfinished, hsame]
    exact h.busy_iff id entry hview
  · dsimp only at hf
    cases hm : m.frames with
    | nil =>
      rw [hm] at hf
      cases hf
    | cons top outer =>
      rw [hm] at hf hframes hchange
      rcases List.mem_cons.mp hf with rfl | hf
      · have htop := hframes top List.mem_cons_self
        exact { htop with scope_eq := (hchange top List.mem_cons_self).trans htop.scope_eq }
      · exact hframes f (List.mem_cons_of_mem _ hf)

theorem Sound.id_collection (h : m.Sound terms) {f : Frame σ} (hf : f ∈ m.frames) :
    f.collection.task.id = f.id := by
  have hbare : f.collection.task.bare.id = f.begun.task.bare.id :=
    congrArg Task.id (Collection.task_bare_eq (h.frames f hf).scope_eq)
  exact hbare

theorem Sound.resume (h : Sound terms { m with registry := r }) : Sound terms (m.resume r) := by
  refine h.proceed fun f hf => scope_resume fun entry hentry => ?_
  rw [h.id_collection hf] at hentry
  have hshown : entry = f.entry := Option.some.inj (hentry.symm.trans (h.frames f hf).shown_eq)
  rw [Collection.task_bare_eq (h.frames f hf).scope_eq, hshown]
  rfl

theorem view_visible (m : Machine σ) : m.visible.view = m.registry.view := by
  unfold visible
  split
  · rfl
  · exact Registry.view_keep ..

theorem terms_visible (m : Machine σ) : m.visible.terms = m.registry.terms := by
  unfold visible
  split
  · rfl
  · exact Registry.terms_keep ..

theorem Sound.of_view_eq (h : m.Sound terms) (hview : r.view = m.registry.view)
    (hterms : r.terms = m.registry.terms) : Sound terms { m with registry := r } where
  terms_eq := hterms.trans h.terms_eq
  nodup := h.nodup
  busy_iff := by
    rw [hview]
    exact h.busy_iff
  origin := by
    rw [hview]
    exact h.origin
  frames := by
    rw [hview]
    exact h.frames

/-! ## One move -/

theorem Sound.not_mem_unfinished (h : m.Sound terms) {id : String}
    (hnone : m.registry.view id = none) : id ∉ m.unfinished := by
  intro hid
  obtain ⟨f, hf, rfl⟩ := List.mem_map.mp hid
  rw [(h.frames f hf).shown_eq] at hnone
  cases hnone

/-- A move that changes how one task is loaded keeps all that concerns the others. -/
theorem Sound.update (h : m.Sound terms) {m' : Machine σ} {id : String}
    {shown : Option (LoadedTask σ)} (hterms : m'.registry.terms = m.registry.terms)
    (hview : m'.registry.view = Function.update m.registry.view id shown)
    (hnodup : m'.unfinished.Nodup)
    (hothers : ∀ other, other ≠ id → m'.origin other = m.origin other ∧
      (other ∈ m'.unfinished ↔ other ∈ m.unfinished))
    (hentry : ∀ entry, shown = some entry → (entry.busy = true ↔ id ∈ m'.unfinished) ∧
      ∃ load, m'.origin id = some load ∧ load.Gives terms id entry)
    (hframes : ∀ f ∈ m'.frames, (f ∈ m.frames ∧ f.id ≠ id) ∨
      (f.id = id ∧ f.Agrees terms.1 shown (m'.origin id))) :
    m'.Sound terms where
  terms_eq := hterms.trans h.terms_eq
  nodup := hnodup
  busy_iff other found hfound := by
    rw [hview] at hfound
    by_cases hother : other = id
    · rw [hother, Function.update_self] at hfound
      rw [hother, (hentry found hfound).1]
    · rw [Function.update_of_ne hother] at hfound
      rw [h.busy_iff other found hfound, (hothers other hother).2]
  origin other found hfound := by
    rw [hview] at hfound
    by_cases hother : other = id
    · rw [hother, Function.update_self] at hfound
      rw [hother]
      exact (hentry found hfound).2
    · rw [Function.update_of_ne hother] at hfound
      rw [(hothers other hother).1]
      exact h.origin other found hfound
  frames f hf := by
    rw [hview]
    rcases hframes f hf with ⟨hmem, hne⟩ | ⟨hid, hagrees⟩
    · rw [Function.update_of_ne hne, (hothers f.id hne).1]
      exact h.frames f hmem
    · rw [hid, Function.update_self]
      exact hagrees

theorem ne_of_not_mem_unfinished {id : String} (h : id ∉ m.unfinished) {f : Frame σ}
    (hf : f ∈ m.frames) : f.id ≠ id := fun hid => h (hid ▸ List.mem_map_of_mem hf)

theorem Sound.load (h : m.Sound terms) {id : String} {load : Load} (entry : LoadedTask σ)
    (hnone : m.registry.view id = none) (hbusy : entry.busy = false)
    (hgives : load.Gives terms id entry.bare) (hterms : r.terms = m.registry.terms)
    (hview : r.view = Function.update m.registry.view id (some entry.bare)) :
    Sound terms { m with
      registry := r
      origin := Function.update m.origin id (some load)
      loads := m.loads + 1 } := by
  have hid := h.not_mem_unfinished hnone
  refine h.update hterms hview h.nodup (fun other hother => ⟨?_, Iff.rfl⟩) ?_ fun f hf => ?_
  · exact Function.update_of_ne hother ..
  · rintro _ ⟨⟩
    refine ⟨iff_of_false ?_ hid, load, Function.update_self .., hgives⟩
    rw [LoadedTask.bare, hbusy]
    exact Bool.false_ne_true
  · exact .inl ⟨hf, ne_of_not_mem_unfinished hid hf⟩

theorem Sound.unload (h : m.Sound terms) {id : String} (hid : id ∉ m.unfinished)
    (hterms : r.terms = m.registry.terms)
    (hview : r.view = Function.update m.registry.view id none) :
    Sound terms { m with registry := r } :=
  h.update hterms hview h.nodup (fun _ _ => ⟨rfl, Iff.rfl⟩) nofun fun _ hf =>
    .inl ⟨hf, ne_of_not_mem_unfinished hid hf⟩

theorem Sound.enter (h : m.Sound terms) {f : Frame σ} (hid : f.id ∉ m.unfinished)
    (hload : ∃ load, m.origin f.id = some load ∧ load.Gives terms f.id f.entry)
    (hagrees : f.Agrees terms.1 (some f.entry) (m.origin f.id))
    (hterms : r.terms = m.registry.terms)
    (hview : r.view = Function.update m.registry.view f.id (some f.entry)) :
    Sound terms { m with registry := r, frames := f :: m.frames } := by
  refine h.update hterms hview (List.nodup_cons.mpr ⟨hid, h.nodup⟩) (fun other hother => ?_) ?_ ?_
  · exact ⟨rfl, by simp [unfinished, hother]⟩
  · rintro _ ⟨⟩
    exact ⟨iff_of_true rfl List.mem_cons_self, hload⟩
  · intro g hg
    rcases List.mem_cons.mp hg with rfl | hg
    · exact .inr ⟨rfl, hagrees⟩
    · exact .inl ⟨hg, ne_of_not_mem_unfinished hid hg⟩

theorem Sound.leave (h : m.Sound terms) {f : Frame σ} {outer : List (Frame σ)}
    (hframes : m.frames = f :: outer) (hterms : r.terms = m.registry.terms)
    (hview : r.view = Function.update m.registry.view f.id (some { f.entry with busy := false })) :
    Sound terms { m with registry := r, frames := outer } := by
  have hnodup := h.nodup
  rw [unfinished, hframes, List.map_cons, List.nodup_cons] at hnodup
  have hf := h.frames f (by rw [hframes]; exact List.mem_cons_self)
  refine h.update hterms hview hnodup.2 (fun other hother => ?_) ?_ fun g hg => ?_
  · refine ⟨rfl, ?_⟩
    rw [unfinished, unfinished, hframes, List.map_cons, List.mem_cons]
    exact ⟨.inr, fun hmem => hmem.resolve_left hother⟩
  · rintro _ ⟨⟩
    obtain ⟨load, hload, hgives⟩ := h.origin f.id f.entry hf.shown_eq
    exact ⟨iff_of_false Bool.false_ne_true hnodup.1, load, hload, hgives⟩
  · refine .inl ⟨by rw [hframes]; exact List.mem_cons_of_mem _ hg, fun hid => hnodup.1 ?_⟩
    exact hid ▸ List.mem_map_of_mem hg

/-! ## Every move -/

theorem id_of_gives {load : Load} {id : String} {entry : LoadedTask σ}
    (h : load.Gives terms id entry) : entry.task.id = id := by
  obtain ⟨⟨task, hcreate, htask⟩, -⟩ := h
  rw [htask, ← Registry.id_of_create hcreate]
  rfl

theorem readRules_of_terms (hterms : r.terms = terms) (id : String) (rules : List String) :
    r.readRules id rules = Registry.addRules terms.1.definitions terms.2 id
      { separator := terms.1.options.separator } rules := by
  subst hterms
  rfl

theorem note_load (m : Machine σ) (id : String) (config : Json) (rules : List String)
    (hook : Hook σ ρ) (reply : (Command.load id config rules hook).Reply) :
    m.note (.load id config rules hook) reply =
      match reply.1 with
      | .ok report =>
        { m with
          origin := Function.update m.origin id (some ⟨m.loads, config, rules, report⟩)
          loads := m.loads + 1 }
      | .error _ => m := by
  obtain ⟨answer, result⟩ := reply
  cases answer <;> rfl

theorem Sound.step_load (h : m.Sound terms) (id : String) (config : Json) (rules : List String)
    (hook : Hook σ ρ) : (m.step (.ask (.load id config rules hook))).Sound terms := by
  have hterms := m.terms_visible
  have hview := m.view_visible
  have hstep : m.step (.ask (.load id config rules hook)) =
      (m.note (.load id config rules hook) (m.visible.load id config rules hook).value.2).resume
        (m.visible.load id config rules hook).value.1 := rfl
  rcases Registry.load_cases m.visible id config rules hook with
    ⟨e, -, hregistry, hreply⟩ |
    ⟨task, filters, skipped, hcreate, hnone, hrules, hput, hreply⟩
  · rw [hstep, note_load, hreply, hregistry]
    exact (h.of_view_eq hview hterms).resume
  · rw [readRules_of_terms (hterms.trans h.terms_eq)] at hrules
    have hfree : m.registry.view id = none := by
      rw [← hview, Registry.view, hnone]
      rfl
    rw [hstep, note_load, hreply, hput]
    refine Sound.resume (h.load { task := { task with state := (hook task).1 }, filters } hfree rfl
      ⟨⟨task, hcreate, rfl⟩, hrules⟩ hterms ?_)
    rw [Registry.view_put, hview]

theorem Sound.step_unload (h : m.Sound terms) (id : String) (hook : Hook σ ρ) :
    (m.step (.ask (.unload id hook))).Sound terms := by
  have hterms := m.terms_visible
  have hview := m.view_visible
  have hstep : m.step (.ask (.unload id hook)) = m.resume (m.visible.unload id hook).value.1 := rfl
  rw [hstep]
  rcases Registry.unload_cases m.visible id hook with
    ⟨e, -, hsame, hkept, -⟩ | ⟨entry, hloaded, hbusy, herase, -⟩
  · exact (h.of_view_eq (hsame.trans hview) (hkept.trans hterms)).resume
  · have hentry : m.registry.view id = some entry.bare := by
      rw [← hview, Registry.view, hloaded]
      rfl
    have hid : id ∉ m.unfinished := fun hid => by
      rw [← h.busy_iff id entry.bare hentry, LoadedTask.bare, hbusy] at hid
      cases hid
    rw [herase]
    refine Sound.resume (h.unload hid hterms ?_)
    rw [Registry.view_erase, hview]

theorem Sound.step_enter (h : m.Sound terms) (id : String) :
    (m.step (.enter id : Move σ ρ)).Sound terms := by
  have hterms := m.terms_visible
  have hview := m.view_visible
  rcases Registry.acquire_cases m.visible id with
    ⟨e, -, hacquire⟩ | ⟨entry, hloaded, hbusy, hacquire⟩
  · rw [Machine.step, hacquire]
    exact (h.of_view_eq hview hterms).resume
  · have hentry : m.registry.view id = some entry.bare := by
      rw [← hview, Registry.view, hloaded]
      rfl
    obtain ⟨load, hload, hgives⟩ := h.origin id entry.bare hentry
    -- the frame is known by the id of its task, which is the one that was asked for
    have hentry_id : entry.bare.task.id = id := id_of_gives hgives
    obtain rfl : entry.task.id = id := hentry_id
    have hid : entry.task.id ∉ m.unfinished := fun hid => by
      rw [← h.busy_iff _ entry.bare hentry, LoadedTask.bare, hbusy] at hid
      cases hid
    rw [Machine.step, hacquire]
    have hcatalog : m.visible.catalog = terms.1 := congrArg Prod.fst (hterms.trans h.terms_eq)
    refine h.enter (f := ⟨_, _, m.origin entry.task.id⟩) hid ⟨load, hload, hgives⟩
      ⟨rfl, rfl, hcatalog, rfl⟩ hterms ?_
    rw [Registry.view_put, hview]
    rfl

theorem Sound.step_leave (h : m.Sound terms) : (m.step (.leave : Move σ ρ)).Sound terms := by
  rw [Machine.step]
  split
  · exact h
  · next f outer hframes =>
    have hf : f ∈ m.frames := by
      rw [hframes]
      exact List.mem_cons_self
    refine Sound.resume (h.leave hframes (Registry.terms_release ..) ?_)
    rw [Registry.view_release, h.id_collection hf, (h.frames f hf).shown_eq]
    rfl

theorem Sound.step (h : m.Sound terms) (move : Move σ ρ) : (m.step move).Sound terms := by
  cases move with
  | ask q =>
    cases q with
    | load id config rules hook => exact h.step_load id config rules hook
    | unload id hook => exact h.step_unload id hook
    | visit id job =>
      exact (h.of_view_eq ((Registry.view_visit ..).trans m.view_visible)
        ((Registry.terms_visit ..).trans m.terms_visible)).resume
    | look => exact (h.of_view_eq m.view_visible m.terms_visible).resume
  | enter id => exact h.step_enter id
  | act a =>
    show (m.proceed (·.step a)).Sound terms
    exact h.proceed fun f _ => Collection.scope_step f.collection a
  | leave => exact h.step_leave

theorem Sound.run (h : m.Sound terms) (moves : List (Move σ ρ)) : (m.run moves).Sound terms := by
  induction moves generalizing m with
  | nil => exact h
  | cons move moves ih => exact ih (h.step move)

/-! ## What can be relied on -/

/-- What can be relied on at every moment of nested collections, for any request with hooks and
routines of some type. -/
structure Orderly (ρ : Type) (m : Machine σ) : Prop where
  /-- No task has two unfinished collections. -/
  nodup : m.unfinished.Nodup
  isBusy_iff : ∀ id, m.visible.isBusy id = true ↔ id ∈ m.unfinished
  /-- The task of an unfinished collection is loaded as it was when the collection began, and by the
  same load, and the collection works with that. -/
  loaded : ∀ f ∈ m.frames, m.visible.view f.id = some f.entry ∧ m.origin f.id = f.load ∧
    f.collection.scope = f.begun.scope
  /-- While a collection is unfinished, every request for its task is refused. -/
  refused : ∀ id ∈ m.unfinished, ∀ (code : Routine σ ρ) (hook : Hook σ ρ) config rules,
    (m.visible.collect id code).value = (m.visible, .error (.busy id), none) ∧
    (m.visible.unload id hook).value = (m.visible, .error (.busy id), none) ∧
    (m.visible.load id config rules hook).value = (m.visible, .error (.alreadyLoaded id), none)
  /-- No other request is ever refused for being busy. -/
  collect_ne_busy : ∀ id ∉ m.unfinished, ∀ (code : Routine σ ρ) x,
    (m.visible.collect id code).value.2.1 ≠ .error (.busy x)
  unload_ne_busy : ∀ id ∉ m.unfinished, ∀ (hook : Hook σ ρ) x,
    (m.visible.unload id hook).value.2.1 ≠ .error (.busy x)
  load_ne_busy : ∀ id config rules (hook : Hook σ ρ) x,
    (m.visible.load id config rules hook).value.2.1 ≠ .error (.busy x)
  /-- A load or an unload that fails leaves all tasks as they are loaded. -/
  load_error : ∀ id config rules (hook : Hook σ ρ) e,
    (m.visible.load id config rules hook).value.2.1 = .error e →
      (m.visible.load id config rules hook).value.1.view = m.visible.view
  unload_error : ∀ id (hook : Hook σ ρ) e, (m.visible.unload id hook).value.2.1 = .error e →
    (m.visible.unload id hook).value.1.view = m.visible.view
  idle : m.frames = [] → ∀ id, m.registry.isBusy id = false

theorem exists_view {id : String} {entry : LoadedTask σ} (h : m.visible.loaded? id = some entry) :
    m.registry.view id = some entry.bare := by
  rw [← view_visible, Registry.view, h]
  rfl

theorem Sound.busy_eq_true_iff (h : m.Sound terms) {id : String} {entry : LoadedTask σ}
    (hloaded : m.visible.loaded? id = some entry) : entry.busy = true ↔ id ∈ m.unfinished :=
  h.busy_iff id entry.bare (exists_view hloaded)

theorem Sound.exists_loaded (h : m.Sound terms) {id : String} (hid : id ∈ m.unfinished) :
    ∃ entry, m.visible.loaded? id = some entry ∧ entry.busy = true := by
  obtain ⟨f, hf, rfl⟩ := List.mem_map.mp hid
  have hview := (h.frames f hf).shown_eq
  rw [← view_visible] at hview
  obtain ⟨entry, hloaded, -⟩ := Option.map_eq_some_iff.mp hview
  exact ⟨entry, hloaded, (h.busy_eq_true_iff hloaded).mpr hid⟩

theorem Sound.isBusy_iff (h : m.Sound terms) (id : String) :
    m.visible.isBusy id = true ↔ id ∈ m.unfinished := by
  rw [Registry.isBusy, Option.any_eq_true]
  constructor
  · rintro ⟨entry, hloaded, hbusy⟩
    exact (h.busy_eq_true_iff hloaded).mp hbusy
  · exact h.exists_loaded

theorem Sound.orderly (h : m.Sound terms) : m.Orderly ρ where
  nodup := h.nodup
  isBusy_iff := h.isBusy_iff
  loaded f hf := by
    have hagrees := h.frames f hf
    rw [view_visible]
    exact ⟨hagrees.shown_eq, hagrees.load_eq, hagrees.scope_eq⟩
  refused id hid code hook config rules := by
    obtain ⟨entry, hloaded, hbusy⟩ := h.exists_loaded hid
    exact ⟨Registry.collect_of_error (Registry.acquire_of_busy hloaded hbusy) code,
      Registry.unload_of_busy hloaded hbusy hook, Registry.load_of_loaded hloaded config rules hook⟩
  collect_ne_busy id hid code x hcollect := by
    have hacquire := Registry.acquire_of_collect_busy hcollect
    rcases Registry.acquire_cases m.visible id with ⟨e, hbusy, he⟩ | ⟨entry, -, -, hok⟩
    · rw [hacquire] at he
      obtain ⟨entry, hloaded, htrue⟩ := hbusy x (Except.error.inj he).symm
      exact hid ((h.busy_eq_true_iff hloaded).mp htrue)
    · rw [hacquire] at hok
      cases hok
  unload_ne_busy id hid hook x hunload := by
    rcases Registry.unload_cases m.visible id hook with ⟨e, hbusy, -, -, he⟩ | ⟨entry, -, -, -, hok⟩
    · rw [hunload] at he
      obtain ⟨entry, hloaded, htrue⟩ := hbusy x (Except.error.inj he).symm
      exact hid ((h.busy_eq_true_iff hloaded).mp htrue)
    · rw [hunload] at hok
      cases hok
  load_ne_busy id config rules hook x hload := by
    rcases Registry.load_cases m.visible id config rules hook with
      ⟨e, hne, -, he⟩ | ⟨task, filters, skipped, -, -, -, -, hok⟩
    · rw [hload] at he
      exact hne x (Except.error.inj he).symm
    · rw [hload] at hok
      cases hok
  load_error id config rules hook e hload := by
    rcases Registry.load_cases m.visible id config rules hook with
      ⟨-, -, hsame, -⟩ | ⟨task, filters, skipped, -, -, -, -, hok⟩
    · rw [hsame]
    · rw [hload] at hok
      cases hok
  unload_error id hook e hunload := by
    rcases Registry.unload_cases m.visible id hook with ⟨-, -, hview, -, -⟩ | ⟨entry, -, -, -, hok⟩
    · exact hview
    · rw [hunload] at hok
      cases hok
  idle hidle id := by
    have hvisible : m.visible = m.registry := by rw [visible, hidle]
    rw [← hvisible, ← Bool.not_eq_true, h.isBusy_iff, unfinished, hidle]
    exact List.not_mem_nil

/-- **At every moment of nested collections, exactly the tasks with an unfinished collection are
busy**, they stay loaded as they were, and no request can change that; a whole collection is a run
of this kind, after which no task is busy. -/
theorem orderly_run (catalog : Catalog) (strict : Bool) (moves : List (Move σ ρ)) :
    let m := run { registry := { catalog, strict } } moves
    m.Orderly ρ ∧ (m.frames = [] → ∀ id (code : Routine σ ρ),
      (m.run (m.registry.collectMoves id code)).registry = (m.registry.collect id code).value.1 ∧
      (m.run (m.registry.collectMoves id code)).frames = [] ∧
      ∀ other, (m.registry.collect id code).value.1.isBusy other = false) := by
  intro m
  have hsound : m.Sound (catalog, strict) := (sound_start catalog strict).run moves
  refine ⟨hsound.orderly, fun hidle id code => ?_⟩
  obtain ⟨hregistry, hframes⟩ := run_collectMoves hidle id code
  refine ⟨hregistry, hframes, ?_⟩
  rw [← hregistry]
  have horderly : (m.run (m.registry.collectMoves id code)).Orderly ρ := (hsound.run _).orderly
  exact horderly.idle hframes

/-- A collection within another one: neither of their tasks can be unloaded. -/
theorem orderly_run_nested :
    let catalog := Catalog.ofOptions {}
    let hook : Hook Unit Unit := fun task => (task.state, ⟨(), none⟩)
    let moves : List (Move Unit Unit) :=
      [.ask (.load "a" .null [] hook), .ask (.load "b" .null [] hook), .enter "a", .enter "b"]
    let m := run { registry := { catalog, strict := false } } moves
    m.unfinished = ["b", "a"] ∧
      (m.visible.unload "a" hook).value.2.1 = .error (.busy "a") ∧
      (m.visible.unload "b" hook).value.2.1 = .error (.busy "b") := by
  intro catalog hook moves m
  have hunfinished : m.unfinished = ["b", "a"] := rfl
  have horderly : m.Orderly Unit := (orderly_run catalog false moves).1
  have hbusy : ∀ id ∈ ["b", "a"], (m.visible.unload id hook).value.2.1 = .error (.busy id) := by
    intro id hid
    rw [(horderly.refused id (hunfinished ▸ hid) (.finish ()) hook .null []).2.1]
  exact ⟨hunfinished, hbusy "a" (by simp), hbusy "b" (by simp)⟩

end Machine

end Telemetry
