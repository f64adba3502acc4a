import Mathlib.Data.List.Induction
import Telemetry.Proofs.Collection.Description
import Telemetry.Proofs.Collection.Selection
import Telemetry.Proofs.Metric.Modifier

/-!
# Which modifiers a metric gets

What a collection records can be told from its calls alone. A call is an action with the reply to
it; a registration stands at some time if it was accepted before and not dismissed since. Every call
keeps the registrations in line with those that stand (`standing_call`), and a metric that is added
is changed by its own modifiers and then by those that stand for its path (`metrics_run`). Before
that it says what is known of its path and its definition (`isBase_baseMetric`).

* `Call`, `Collection.transcript`: the calls of a run.
* `standing`: the registrations that stand after some calls.
* `additions`: the calls that added a metric, each with the calls before it.
* `Metric.IsBase`: a metric before any modifier.
* `Addition.Yields`: the metric that such a call records.
-/

namespace Telemetry

/-- An action and the reply to it. -/
structure Call (σ : Type) where
  action : Action σ
  reply : action.Reply

/-- A registration that was accepted, under its handle. -/
structure Standing where
  handle : Nat
  selector : String
  modifiers : List Modifier

/-- A call that added a metric, with the calls before it. -/
structure Addition (σ : Type) where
  earlier : List (Call σ)
  now : Instant
  path : String
  value : Value
  modifiers : List Modifier

variable {σ : Type}

namespace Call

/-- Whether the call stops the registration with this handle. -/
def dismisses (call : Call σ) (handle : Nat) : Bool :=
  match call.action with
  | .dismiss other => other == handle
  | .dismissAll => true
  | _ => false

def registered? : Call σ → Option Standing
  | ⟨.register selector modifiers, .ok handle⟩ => some ⟨handle, selector, modifiers⟩
  | _ => none

def added? (earlier : List (Call σ)) : Call σ → Option (Addition σ)
  | ⟨.addMetric now path value modifiers, .ok .added⟩ =>
    some ⟨earlier, now, path, value, modifiers⟩
  | _ => none

/-- Whether the call asked for a metric that was not added, or for modifiers that were not
registered. -/
def isRefused : Call σ → Bool
  | ⟨.addMetric .., .ok .added⟩ => false
  | ⟨.addMetric .., _⟩ => true
  | ⟨.register .., .error _⟩ => true
  | _ => false

end Call

/-- The registrations that were accepted and not dismissed later, in the order of the calls. -/
def standing : List (Call σ) → List Standing
  | [] => []
  | call :: later =>
    (call.registered?.filter fun s => !later.any (·.dismisses s.handle)).toList ++ standing later

/-- The modifiers that stand for a path. -/
def standingModifiers (separator : Char) (calls : List (Call σ)) (elements : List Element) :
    List Modifier :=
  ((standing calls).filter fun s => Namespace.selectedBy separator s.selector elements).flatMap
    (·.modifiers)

/-- The calls that added a metric, where some calls came before. -/
def additions : (earlier : List (Call σ)) → List (Call σ) → List (Addition σ)
  | _, [] => []
  | earlier, call :: later => (call.added? earlier).toList ++ additions (earlier ++ [call]) later

/-- A metric before any modifier. Its positions have the values of the path and the groups that they
are bound to, with the description of each group; its unit and description are those of the accepted
definition that has these groups and values, if there is one. -/
structure Metric.IsBase (accepted : List (String × MetricInfo)) (description : String → String)
    (now : Instant) (ns : Namespace) (r : Resolution) (measured : Value) (m : Metric) : Prop where
  length : m.path.elements.length = ns.elements.length
  elements : m.path.elements = (ns.elements.zip r).map fun (e, group) =>
    ⟨group.getD "", e.value?.getD "", (group.map description).getD ""⟩
  type : m.type = match measured with
    | .summary _ => .summary
    | .histogram _ => .histogram
    | _ => .unknown
  value : m.value = measured
  tags : m.tags = .empty
  timestamp : m.timestamp = now
  told : ∀ info, ((ns.definedBy r).text, info) ∈ accepted →
    m.unit = info.unit ∧ m.description = info.description
  untold : (ns.definedBy r).text ∉ accepted.map Prod.fst → m.unit = "" ∧ m.description = ""

/-- The metric of the call, changed by the modifiers that came with it and then by those that stood. -/
def Addition.Yields (c : Collection σ) (accepted : List (String × MetricInfo))
    (description : String → String) (a : Addition σ) (m : Metric) : Prop :=
  ∃ ns r base, c.resolve a.path = .ok (ns, r) ∧ c.filters.accepts ns = true ∧
    base.IsBase accepted description a.now ns r a.value ∧
    Modifier.ChangesAll
      (a.modifiers ++ standingModifiers c.separator a.earlier (ns.bindTo r).elements) base m

/-! ## One call more -/

theorem standing_concat (calls : List (Call σ)) (call : Call σ) : standing (calls ++ [call]) =
    (standing calls).filter (fun s => !call.dismisses s.handle) ++ call.registered?.toList := by
  induction calls with
  | nil => cases h : call.registered? <;> simp [standing, h]
  | cons first calls ih =>
    rw [List.cons_append, standing, ih, standing, List.filter_append, List.append_assoc]
    congr 1
    cases first.registered? with
    | none => rfl
    | some s =>
      cases hlater : calls.any (·.dismisses s.handle) <;>
        cases hcall : call.dismisses s.handle <;> simp [Option.filter, hlater, hcall]

theorem additions_concat (earlier calls : List (Call σ)) (call : Call σ) :
    additions earlier (calls ++ [call]) =
      additions earlier calls ++ (call.added? (earlier ++ calls)).toList := by
  induction calls generalizing earlier with
  | nil => simp [additions]
  | cons first calls ih =>
    rw [List.cons_append, additions, ih, additions, List.append_assoc, List.append_assoc,
      List.singleton_append]

/-! ## The registrations of a collection -/

/-- The active ones among some registrations, the first of which has the given handle. -/
def standingFrom : (handle : Nat) → List Registration → List Standing
  | _, [] => []
  | handle, g :: later =>
    if g.active then ⟨handle, g.selector, g.modifiers⟩ :: standingFrom (handle + 1) later
    else standingFrom (handle + 1) later

variable {registrations : List Registration}

theorem standingFrom_append (handle : Nat) (registrations later : List Registration) :
    standingFrom handle (registrations ++ later) =
      standingFrom handle registrations ++ standingFrom (handle + registrations.length) later := by
  induction registrations generalizing handle with
  | nil => rfl
  | cons g registrations ih =>
    have hlength : handle + (g :: registrations).length = handle + 1 + registrations.length := by
      rw [List.length_cons]
      omega
    rw [List.cons_append, standingFrom, standingFrom, ih, hlength]
    split <;> rfl

theorem le_of_mem_standingFrom {handle : Nat} {s : Standing}
    (h : s ∈ standingFrom handle registrations) : handle ≤ s.handle := by
  induction registrations generalizing handle with
  | nil => cases h
  | cons g registrations ih =>
    rw [standingFrom] at h
    split at h
    · rcases List.mem_cons.mp h with rfl | h
      · exact Nat.le_refl _
      · exact Nat.le_of_succ_le (ih h)
    · exact Nat.le_of_succ_le (ih h)

theorem standingFrom_modify (handle position : Nat) (registrations : List Registration) :
    standingFrom handle (registrations.modify position ({ · with active := false })) =
      (standingFrom handle registrations).filter fun s => !(handle + position == s.handle) := by
  induction registrations generalizing handle position with
  | nil => simp [standingFrom]
  | cons g registrations ih =>
    cases position with
    | zero =>
      have hlater : ((standingFrom (handle + 1) registrations).filter fun s =>
          !(handle + 0 == s.handle)) = standingFrom (handle + 1) registrations := by
        refine List.filter_eq_self.mpr fun s hs => ?_
        have hle := le_of_mem_standingFrom hs
        simp only [Bool.not_eq_true', beq_eq_false_iff_ne]
        omega
      rw [List.modify_zero_cons, standingFrom, standingFrom, if_neg Bool.false_ne_true]
      split
      · rw [List.filter_cons_of_neg (by simp), hlater]
      · rw [hlater]
    | succ position =>
      have hposition : handle + (position + 1) = handle + 1 + position := by omega
      rw [List.modify_succ_cons, standingFrom, standingFrom, ih, hposition]
      split
      · rw [List.filter_cons_of_pos]
        simp only [Bool.not_eq_true', beq_eq_false_iff_ne]
        omega
      · rfl

theorem standingFrom_stopped (handle : Nat) (registrations : List Registration) :
    standingFrom handle (registrations.map ({ · with active := false })) = [] := by
  induction registrations generalizing handle with
  | nil => rfl
  | cons g registrations ih => exact ih (handle + 1)

theorem flatMap_standingFrom (handle : Nat) (selects : String → Bool)
    (registrations : List Registration) :
    ((standingFrom handle registrations).filter fun s => selects s.selector).flatMap (·.modifiers) =
      (registrations.filter fun g => g.active && selects g.selector).flatMap (·.modifiers) := by
  induction registrations generalizing handle with
  | nil => rfl
  | cons g registrations ih =>
    rw [standingFrom]
    cases hactive : g.active <;> cases hselects : selects g.selector <;>
      simp [hactive, hselects, ih]

/-! ## The calls of a run -/

namespace Collection

variable {c d : Collection σ}

def call (c : Collection σ) (a : Action σ) : Call σ := ⟨a, (c.perform a).value.2⟩

def transcript (c : Collection σ) : List (Action σ) → List (Call σ)
  | [] => []
  | a :: actions => c.call a :: (c.step a).transcript actions

theorem transcript_concat (c : Collection σ) (actions : List (Action σ)) (a : Action σ) :
    c.transcript (actions ++ [a]) = c.transcript actions ++ [(c.run actions).call a] := by
  induction actions generalizing c with
  | nil => rfl
  | cons first actions ih => exact congrArg (c.call first :: ·) (ih (c.step first))

theorem run_concat (c : Collection σ) (actions : List (Action σ)) (a : Action σ) :
    c.run (actions ++ [a]) = (c.run actions).step a := List.foldl_concat ..

theorem registrations_addMetric (c : Collection σ) (now : Instant) (path : String) (value : Value)
    (modifiers : List Modifier) :
    (c.addMetric now path value modifiers).value.1.registrations = c.registrations := by
  unfold addMetric
  split <;> rfl

theorem registrations_addWarning (c : Collection σ) (now : Instant) (message : String) :
    (c.addWarning now message).value.registrations = c.registrations := by
  unfold addWarning
  split <;> rfl

theorem standing_call_of_registrations_eq {a : Action σ}
    (h : (c.step a).registrations = c.registrations)
    (hdismisses : ∀ handle, (c.call a).dismisses handle = false)
    (hregistered : (c.call a).registered? = none) : standingFrom 0 (c.step a).registrations =
      (standingFrom 0 c.registrations).filter (fun s => !(c.call a).dismisses s.handle) ++
        (c.call a).registered?.toList := by
  rw [h, hregistered, Option.toList_none, List.append_nil]
  simp only [hdismisses, Bool.not_false, List.filter_true]

theorem standing_call (c : Collection σ) (a : Action σ) :
    standingFrom 0 (c.step a).registrations =
      (standingFrom 0 c.registrations).filter (fun s => !(c.call a).dismisses s.handle) ++
        (c.call a).registered?.toList := by
  cases a with
  | addMetric now path value modifiers =>
    exact standing_call_of_registrations_eq (registrations_addMetric c now path value modifiers)
      (fun _ => rfl) rfl
  | warn now message =>
    exact standing_call_of_registrations_eq (registrations_addWarning c now message)
      (fun _ => rfl) rfl
  | register selector modifiers =>
    cases hregister : c.register selector modifiers with
    | error e =>
      have hperform : c.perform (.register selector modifiers) = pure (c, .error e) := by
        rw [perform, hregister]
      refine standing_call_of_registrations_eq ?_ (fun _ => rfl) ?_
      · rw [step, hperform]
        rfl
      · rw [call, hperform]
        rfl
    | ok registered =>
      obtain ⟨d, handle⟩ := registered
      obtain ⟨rfl, rfl⟩ := register_eq_ok hregister
      have hperform : c.perform (.register selector modifiers) =
          pure ({ c with registrations := c.registrations ++ [{ selector, modifiers }] },
            .ok c.registrations.length) := by
        rw [perform, hregister]
      have hcall : (c.call (.register selector modifiers)).registered? =
          some ⟨c.registrations.length, selector, modifiers⟩ := by
        rw [call, hperform]
        rfl
      have hdismisses : ∀ handle,
          (c.call (.register selector modifiers)).dismisses handle = false := fun _ => rfl
      rw [hcall, step, hperform]
      simp only [hdismisses, Bool.not_false, List.filter_true]
      exact (standingFrom_append 0 _ _).trans (by simp [standingFrom])
  | dismiss handle =>
    have hmodify := standingFrom_modify 0 handle c.registrations
    rw [Nat.zero_add] at hmodify
    exact hmodify.trans (List.append_nil _).symm
  | dismissAll =>
    have hall : ∀ handle, (c.call .dismissAll).dismisses handle = true := fun _ => rfl
    simp only [hall, Bool.not_true, List.filter_false, List.nil_append]
    exact standingFrom_stopped 0 c.registrations
  | _ => exact standing_call_of_registrations_eq rfl (fun _ => rfl) rfl

theorem standing_run (hnew : c.registrations = []) (actions : List (Action σ)) :
    standing (c.transcript actions) = standingFrom 0 (c.run actions).registrations := by
  induction actions using List.reverseRecOn with
  | nil => simp [transcript, run, hnew, standing, standingFrom]
  | append_singleton actions a ih =>
    rw [transcript_concat, standing_concat, ih, run_concat, standing_call]

theorem registeredModifiers_run {h : Definitions.History} {actions : List (Action σ)}
    {text : String} {ns : Namespace} {r : Resolution} (hs : h.Sound c.separator)
    (hd : c.catalog.definitions = h.definitions) (hseparator : Namespace.Separates c.separator)
    (hnew : c.registrations = []) (hresolve : c.resolve text = .ok (ns, r)) :
    (c.run actions).registeredModifiers (boundText ns r) =
      standingModifiers c.separator (c.transcript actions) (ns.bindTo r).elements := by
  have hcatalog : (c.run actions).separator = c.separator := by
    rw [separator, catalog_eq (scope_run c actions), separator]
  rw [standingModifiers, standing_run hnew,
    flatMap_standingFrom 0 fun selector => Namespace.selectedBy c.separator selector _,
    registeredModifiers, hcatalog]
  simp only [selects_boundText hs hseparator hd hresolve]

/-! ## The metrics of a run -/

theorem isBase_baseMetric {separator : Char} {accepted : List (String × MetricInfo)}
    (h : Catalog.Documented separator c.catalog accepted) {text : String} {ns : Namespace}
    {r : Resolution} (hresolve : c.resolve text = .ok (ns, r)) (now : Instant) (value : Value) :
    (baseMetric c.catalog now ns r value).IsBase accepted c.catalog.groupDescription now ns r
      value := by
  obtain ⟨-, -, hdefined⟩ := resolve_eq_ok_iff.mp hresolve
  have hkey : r.key ns = (ns.definedBy r).text := key_eq_text_definedBy ns r
  obtain ⟨hunit, hdescription⟩ := baseMetric_unit_description c.catalog now ns r value
  have hmeasured : (baseMetric c.catalog now ns r value).value = value ∧
      (baseMetric c.catalog now ns r value).tags = .empty ∧
      (baseMetric c.catalog now ns r value).timestamp = now ∧
      (baseMetric c.catalog now ns r value).type = value.impliedType := by
    unfold baseMetric
    cases c.catalog.metric? (r.key ns) <;> exact ⟨rfl, rfl, rfl, rfl⟩
  obtain ⟨hvalue, htags, htimestamp, htype⟩ := hmeasured
  refine ⟨?_, ?_, ?_, hvalue, htags, htimestamp, fun info hinfo => ?_, fun hnone => ?_⟩
  · rw [baseMetric_path, boundPath, List.length_map, List.length_zip,
      Definitions.length_of_resolve hdefined, Nat.min_self]
  · rw [baseMetric_path, boundPath]
    refine List.map_congr_left fun p _ => ?_
    obtain ⟨e, group⟩ := p
    cases group <;> rfl
  · rw [htype]
    cases value <;> rfl
  · have hkept := (h.metric?_eq_some_iff _ info).mpr hinfo
    rw [hunit, hdescription, hkey, hkept]
    exact ⟨rfl, rfl⟩
  · have hkept : c.catalog.metric? (ns.definedBy r).text = none :=
      Option.eq_none_iff_forall_ne_some.mpr fun info hinfo =>
        hnone (List.mem_map_of_mem ((h.metric?_eq_some_iff _ info).mp hinfo))
    rw [hunit, hdescription, hkey, hkept]
    exact ⟨rfl, rfl⟩

theorem addMetric_cases (c : Collection σ) (now : Instant) (text : String) (value : Value)
    (modifiers : List Modifier) :
    (∃ answer, answer ≠ .ok .added ∧ (c.addMetric now text value modifiers).value = (c, answer)) ∨
      ∃ ns r, c.resolve text = .ok (ns, r) ∧ c.filters.accepts ns = true ∧
        (c.addMetric now text value modifiers).value =
          ({ c with metrics := c.metrics ++ [Modifier.applyAll (baseMetric c.catalog now ns r value)
            (modifiers ++ c.registeredModifiers (boundText ns r))] }, .ok .added) := by
  cases hresolve : c.resolve text with
  | error e => exact .inl ⟨.error e, nofun, by simp [addMetric, recording, hresolve, Except.map]⟩
  | ok resolved =>
    obtain ⟨ns, r⟩ := resolved
    have hadd := addMetric_of_resolve hresolve now value modifiers
    cases haccepts : c.filters.accepts ns with
    | false => exact .inl ⟨.ok .filtered, by simp, by simpa [haccepts] using hadd⟩
    | true => exact .inr ⟨ns, r, rfl, haccepts, by simpa [haccepts] using hadd⟩

theorem call_addMetric {now : Instant} {text : String} {value : Value} {modifiers : List Modifier}
    {answer : Except MetricError Admission}
    (h : (c.addMetric now text value modifiers).value = (d, answer)) :
    c.call (.addMetric now text value modifiers) = ⟨.addMetric now text value modifiers, answer⟩ ∧
      c.step (.addMetric now text value modifiers) = d := by
  constructor
  · show Call.mk (.addMetric now text value modifiers)
      (c.addMetric now text value modifiers).value.2 = _
    rw [h]
  · show (c.addMetric now text value modifiers).value.1 = d
    rw [h]

theorem step_of_isRefused {a : Action σ} (h : (c.call a).isRefused = true) : c.step a = c := by
  cases a with
  | addMetric now path value modifiers =>
    rcases addMetric_cases c now path value modifiers with
      ⟨answer, -, hadd⟩ | ⟨ns, r, -, -, hadd⟩
    · exact (call_addMetric hadd).2
    · rw [(call_addMetric hadd).1] at h
      cases h
  | register selector modifiers =>
    cases hregister : c.register selector modifiers with
    | error e => rw [step, perform, hregister]; rfl
    | ok registered =>
      rw [call, perform, hregister] at h
      cases h
  | _ => cases h

theorem metrics_call (c : Collection σ) (earlier : List (Call σ)) (a : Action σ) :
    ((c.call a).added? earlier = none ∧ (c.step a).metrics = c.metrics) ∨
      ∃ now path value modifiers ns r, c.resolve path = .ok (ns, r) ∧
        c.filters.accepts ns = true ∧
        (c.call a).added? earlier = some ⟨earlier, now, path, value, modifiers⟩ ∧
        (c.step a).metrics = c.metrics ++ [Modifier.applyAll (baseMetric c.catalog now ns r value)
          (modifiers ++ c.registeredModifiers (boundText ns r))] := by
  cases a with
  | addMetric now path value modifiers =>
    rcases addMetric_cases c now path value modifiers with
      ⟨answer, hanswer, hadd⟩ | ⟨ns, r, hresolve, haccepts, hadd⟩
    · rw [(call_addMetric hadd).1, (call_addMetric hadd).2]
      refine .inl ⟨?_, rfl⟩
      match answer, hanswer with
      | .error _, _ => rfl
      | .ok .filtered, _ => rfl
    · rw [(call_addMetric hadd).1, (call_addMetric hadd).2]
      exact .inr ⟨now, path, value, modifiers, ns, r, hresolve, haccepts, rfl, rfl⟩
  | warn now message =>
    refine .inl ⟨rfl, ?_⟩
    show (c.addWarning now message).value.metrics = c.metrics
    unfold addWarning
    split <;> rfl
  | register selector modifiers =>
    refine .inl ⟨rfl, ?_⟩
    cases hregister : c.register selector modifiers with
    | error e => rw [step, perform, hregister]; rfl
    | ok registered =>
      obtain ⟨d, handle⟩ := registered
      obtain ⟨rfl, rfl⟩ := register_eq_ok hregister
      rw [step, perform, hregister]
      rfl
  | _ => exact .inl ⟨rfl, rfl⟩

/-- **A collection records one metric for each call that added one**, in their order: what is known
of its path and its definition, changed by the modifiers of that call and then by those that stood
for its path. Calls that are refused change nothing. -/
theorem metrics_run (options : DefinitionOptions) (changes : List Catalog.Change)
    (hseparator : Namespace.Separates options.separator) (task : Task σ) (filters : Filters)
    (actions : List (Action σ)) :
    let c : Collection σ := { task, catalog := (Catalog.ofOptions options).run changes, filters }
    let accepted := (Catalog.ofOptions options).accepted changes
    List.Forall₂ (Addition.Yields c accepted (Catalog.lastDescription changes))
        (additions [] (c.transcript actions)) (c.run actions).metrics ∧
      ∀ a, ((c.run actions).call a).isRefused = true → (c.run actions).step a = c.run actions := by
  intro c accepted
  refine ⟨?_, fun a => step_of_isRefused⟩
  have hdocumented : Catalog.Documented options.separator c.catalog accepted :=
    Catalog.documented_run options changes
  have hgroups : c.catalog.groupDescription = Catalog.lastDescription changes :=
    funext (Catalog.groupDescription_run options changes)
  have hs := hdocumented.sound
  have hcatalog : c.separator = options.separator := hs.separator_eq
  rw [← hcatalog] at hs hseparator
  -- from the last call backwards, since what a metric gets depends on the calls before it
  induction actions using List.reverseRecOn with
  | nil => exact .nil
  | append_singleton actions a ih =>
    rw [transcript_concat, additions_concat, run_concat, List.nil_append]
    have hscope := scope_run c actions
    rcases metrics_call (c.run actions) (c.transcript actions) a with
      ⟨hnone, hmetrics⟩ | ⟨now, path, value, modifiers, ns, r, hresolve, haccepts, hadded, hmetrics⟩
    · rw [hnone, hmetrics, Option.toList_none, List.append_nil]
      exact ih
    · rw [resolve_congr hscope] at hresolve
      rw [filters_eq hscope] at haccepts
      rw [hadded, hmetrics, Option.toList_some, catalog_eq hscope,
        registeredModifiers_run hs rfl hseparator rfl hresolve]
      have hbase := isBase_baseMetric hdocumented hresolve now value
      rw [hgroups] at hbase
      exact List.rel_append ih (.cons ⟨ns, r, _, hresolve, haccepts, hbase,
        Modifier.changesAll_applyAll _ _⟩ .nil)

/-- Of four selectors, one is refused, one is dismissed and one names another group; the one that is
left gives the metric another unit than its definition has. -/
theorem metrics_run_selected :
    let changes : List Catalog.Change := [.defineMetric "/p/[g]/m" ⟨"B", true, "told"⟩]
    let c : Collection Unit :=
      { task := Task.ofObject "task" (.object [])
        catalog := (Catalog.ofOptions {}).run changes
        filters := { separator := '/' } }
    let actions : List (Action Unit) :=
      [.register "/p/[g=v]/**" [.unit "s"], .register "p" [.unit "refused"],
        .register "/" [.unit "dismissed"], .register "/p/[h]" [.unit "elsewhere"], .dismiss 1,
        .addMetric ⟨1, 0⟩ "/p/v/m" (.int 1) []]
    Namespace.Separates '/' ∧ ∃ m, (c.run actions).metrics = [m] ∧
      m.unit = "s" ∧ m.description = "told" ∧ m.value = .int 1 ∧
        m.path.elements = [⟨"", "p", ""⟩, ⟨"g", "v", ""⟩, ⟨"", "m", ""⟩] := by
  intro changes c actions
  have hseparator : Namespace.Separates '/' := by decide
  have hmetrics := (metrics_run {} changes hseparator c.task c.filters actions).1
  obtain ⟨a, hadded, ha⟩ : ∃ a, additions [] (c.transcript actions) = [a] ∧
      (a.path, a.value, a.modifiers ++ standingModifiers '/' a.earlier
        [.name "p", .bound "g" "v", .name "m"]) = ("/p/v/m", .int 1, [.unit "s"]) :=
    List.map_eq_singleton_iff.mp (by decide +kernel)
  obtain ⟨hpath, hvalue, hmodifiers⟩ : a.path = "/p/v/m" ∧ a.value = .int 1 ∧
      a.modifiers ++ standingModifiers '/' a.earlier [.name "p", .bound "g" "v", .name "m"] =
        [.unit "s"] := by simpa using ha
  rw [hadded] at hmetrics
  obtain ⟨m, rest, ⟨ns, r, base, hresolve, -, hbase, hchanged⟩, hrest, hm⟩ :=
    List.forall₂_cons_left_iff.mp hmetrics
  obtain rfl := List.forall₂_nil_left_iff.mp hrest
  have hbound : c.resolve "/p/v/m" =
      .ok (⟨'/', [.name "p", .name "v", .name "m"]⟩, [none, some "g", none]) := rfl
  rw [hpath] at hresolve
  cases hbound.symm.trans hresolve
  have hunit : Modifier.ChangesAll [.unit "s"] base m := hmodifiers ▸ hchanged
  have htold : base.unit = "B" ∧ base.description = "told" :=
    hbase.told ⟨"B", true, "told"⟩ (by decide +kernel)
  cases hunit with
  | cons hchanges hall =>
    cases hchanges
    cases hall
    exact ⟨hseparator, _, hm, rfl, htold.2, hbase.value.trans hvalue, hbase.elements⟩

end Collection

end Telemetry
