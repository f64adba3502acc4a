import Telemetry.Proofs.Rule.Accepted
import Telemetry.Proofs.Rule.Conflict

/-!
# Histories of definitions

Definitions change by rules that are added and by options that are replaced, in any order. A history
keeps the accepted rules beside the definitions, and `Sound.run` carries what holds of both through
every run that leaves the separator as it is, whatever the other options were when each rule came.

* `Definitions.Change`, `Definitions.History.run`: the steps and the runs.
* `Definitions.WellFormed`: unambiguous rules that begin with a name.
* `Definitions.History.Sound`: well-formed definitions that hold the accepted rules.
-/

namespace Telemetry.Definitions

inductive Change where
  | addRule (rule : String)
  | setOptions (options : DefinitionOptions)

/-- The change leaves the separator as it is. -/
def Change.Keeps (separator : Char) : Change → Prop
  | addRule _ => True
  | setOptions options => options.separator = separator

instance (separator : Char) : DecidablePred (Change.Keeps separator)
  | .addRule _ => inferInstanceAs (Decidable True)
  | .setOptions _ => inferInstanceAs (Decidable (_ = _))

/-- Definitions with the rules that were accepted on the way to them. -/
structure History where
  definitions : Definitions
  /-- In the order in which they came. -/
  accepted : List String := []

namespace History

def start (options : DefinitionOptions) : History := { definitions := { options } }

/-- One change; a rule that is refused leaves everything as it is. -/
def step (h : History) : Change → History
  | .addRule rule =>
    match h.definitions.addRule rule with
    | .ok definitions => ⟨definitions, h.accepted ++ [rule]⟩
    | .error _ => h
  | .setOptions options => { h with definitions := h.definitions.setOptions options }

def run (h : History) (changes : List Change) : History := changes.foldl step h

end History

/-! ## One rule more -/

variable {d d' : Definitions} {text : String} {path : List Element} {options : DefinitionOptions}

theorem addRule_eq_ok_iff :
    d.addRule text = .ok d' ↔ ∃ ns, d.parse text = .ok ns ∧ flaw? d.options ns.elements = none ∧
      conflict? d.options.anyLevel 0 d.branches ns.elements = none ∧
      d' = { d with branches := d.branches.add ns.elements } := by
  unfold addRule
  cases hparse : d.parse text with
  | error e => simp
  | ok ns =>
    cases hflaw : flaw? d.options ns.elements with
    | some flaw => simp [hflaw]
    | none =>
      cases hconflict : conflict? d.options.anyLevel 0 d.branches ns.elements with
      | some conflict => cases conflict <;> simp [hflaw, hconflict]
      | none => simp [hflaw, hconflict, eq_comm]

theorem elements_of_flaw?_eq_none (h : flaw? options path = none) :
    ∀ e ∈ path, isDefinitionElement e = true := by
  unfold flaw? at h
  split_ifs at h with _ _ helements
  simpa using helements

theorem head_of_flaw?_eq_none (h : flaw? options path = none) :
    path.head?.any Element.isName = true := by
  unfold flaw? at h
  split_ifs at h with _ hhead
  simpa using hhead

theorem ne_nil_of_flaw?_eq_none (h : flaw? options path = none) : path ≠ [] := by
  rintro rfl
  cases h

/-! ## Well-formed definitions -/

structure WellFormed (d : Definitions) : Prop where
  unambiguous : d.branches.Unambiguous
  head : ∀ rule ∈ d.branches.paths, rule.head?.any Element.isName = true

theorem wellFormed_empty (options : DefinitionOptions) : WellFormed { options } :=
  ⟨Branches.unambiguous_empty, by simp⟩

theorem WellFormed.setOptions (h : d.WellFormed) (options : DefinitionOptions) :
    (d.setOptions options).WellFormed := ⟨h.unambiguous, h.head⟩

theorem WellFormed.addRule (h : d.WellFormed) (hadd : d.addRule text = .ok d') : d'.WellFormed := by
  obtain ⟨ns, -, hflaw, hconflict, rfl⟩ := addRule_eq_ok_iff.mp hadd
  have hne := ne_nil_of_flaw?_eq_none hflaw
  have helements := elements_of_flaw?_eq_none hflaw
  refine ⟨h.unambiguous.add hne helements fun rule hrule hpart => ?_, fun rule hrule => ?_⟩
  · exact (conflict?_eq_none_iff h.unambiguous 0 hne helements).mp hconflict rule hrule
      (.inr (.inl hpart))
  · rcases (h.unambiguous.tidy.mem_paths_add hne).mp hrule with rfl | hrule
    · exact head_of_flaw?_eq_none hflaw
    · exact h.head rule hrule

/-! ## Sound histories -/

namespace History

/-- The definitions are well-formed and hold the accepted rules. -/
structure Sound (separator : Char) (h : History) : Prop where
  separator_eq : h.definitions.options.separator = separator
  holds : h.definitions.branches.Holds separator false h.accepted
  wellFormed : h.definitions.WellFormed

variable {separator : Char} {h : History} {change : Change} {changes : List Change}

theorem sound_start (options : DefinitionOptions) : (start options).Sound options.separator :=
  ⟨rfl, Branches.holds_empty _ _, wellFormed_empty options⟩

theorem Sound.accept (hs : h.Sound separator) (hadd : h.definitions.addRule text = .ok d) :
    (⟨d, h.accepted ++ [text]⟩ : History).Sound separator := by
  have hwell := hs.wellFormed.addRule hadd
  obtain ⟨ns, hparse, -, -, rfl⟩ := addRule_eq_ok_iff.mp hadd
  rw [Definitions.parse, hs.separator_eq] at hparse
  obtain rfl := Namespace.separator_of_parse hparse
  exact ⟨hs.separator_eq, hs.holds.add hparse, hwell⟩

theorem Sound.not_mem_accepted (hs : h.Sound separator)
    (hadd : h.definitions.addRule text = .ok d) : text ∉ h.accepted := by
  intro htext
  obtain ⟨ns, hparse, hflaw, hconflict, -⟩ := addRule_eq_ok_iff.mp hadd
  obtain ⟨path, hread⟩ := hs.holds.readable text htext
  rw [Definitions.parse, hs.separator_eq, hread] at hparse
  cases hparse
  have hfree := (conflict?_eq_none_iff hs.wellFormed.unambiguous 0 (ne_nil_of_flaw?_eq_none hflaw)
    (elements_of_flaw?_eq_none hflaw)).mp hconflict
  exact hfree path ((hs.holds.mem_paths path).mpr ⟨text, htext, hread⟩) (.inl rfl)

theorem Sound.step (hs : h.Sound separator) (hkeeps : change.Keeps separator) :
    (h.step change).Sound separator := by
  cases change with
  | addRule rule =>
    cases hadd : h.definitions.addRule rule with
    | ok definitions => simpa only [History.step, hadd] using hs.accept hadd
    | error e => simpa only [History.step, hadd] using hs
  | setOptions options => exact ⟨hkeeps, hs.holds, hs.wellFormed.setOptions options⟩

theorem Sound.run (hs : h.Sound separator) (hkeeps : ∀ c ∈ changes, Change.Keeps separator c) :
    (h.run changes).Sound separator := by
  induction changes generalizing h with
  | nil => exact hs
  | cons change changes ih =>
    exact ih (hs.step (hkeeps change List.mem_cons_self))
      fun c hc => hkeeps c (List.mem_cons_of_mem _ hc)

theorem mem_accepted_run (htext : text ∈ h.accepted) : text ∈ (h.run changes).accepted := by
  induction changes generalizing h with
  | nil => exact htext
  | cons change changes ih =>
    refine ih ?_
    cases change with
    | addRule rule =>
      cases hadd : h.definitions.addRule rule with
      | ok definitions => simp [History.step, hadd, htext]
      | error e => simpa only [History.step, hadd] using htext
    | setOptions options => exact htext

end History

end Telemetry.Definitions
