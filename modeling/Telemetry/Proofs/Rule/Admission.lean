import Telemetry.Proofs.Rule.Accepted
import Telemetry.Proofs.Rule.Search

/-!
# Filters as a disjunction of their rules

Filters answer for paths of names, bound elements and `*` as every accepted rule would on its own,
in whatever order and however often the rules were added (`accepts_addAll_iff`).

The search tries the rules of the tree one by one. Such a path goes along a rule exactly if the rule
covers it (`follows_eq_covers`): an element that is no `**` takes one element of the path, and a
`**` takes what is left, since it ends every rule that it stands in. What the tree holds is what was
accepted, which each addition preserves (`History.Sound.step`).

* `Namespace.covers`: whether one rule admits a path on its own.
* `Filters.History`: filters with the rules that were accepted on the way to them.
* `Filters.Addition`, `Filters.History.run`: the ways to add rules, in any order.
-/

namespace Telemetry

variable {e f : Element} {path rule rest elements : List Element}

/-! ## One rule -/

/-- Whether a rule admits a path on its own: the elements before a trailing `**` admit those at
their positions, and only `**` leaves room for more. -/
def Namespace.covers (rule path : List Element) : Bool :=
  let front := Namespace.required rule
  (if rule.getLast? = some .trailing then decide (front.length ≤ path.length)
    else front.length == path.length) &&
    (front.zip path).all fun (f, e) => f.admits e

namespace Namespace

theorem getLast?_cons_eq_trailing (hf : f ≠ .trailing) :
    (f :: rest).getLast? = some .trailing ↔ rest.getLast? = some .trailing := by
  cases rest with
  | nil => simpa using hf
  | cons next rest => rw [List.getLast?_cons_cons]

theorem required_cons (hf : f ≠ .trailing) : required (f :: rest) = f :: required rest := by
  unfold required
  by_cases hlast : rest.getLast? = some .trailing
  · rw [if_pos ((getLast?_cons_eq_trailing hf).mpr hlast), if_pos hlast]
    cases rest with
    | nil => cases hlast
    | cons next rest => exact List.dropLast_cons_cons
  · rw [if_neg (mt (getLast?_cons_eq_trailing hf).mp hlast), if_neg hlast]

theorem covers_nil : covers [] path = true ↔ path = [] := by
  cases path <;> simp [covers, required]

@[simp] theorem covers_trailing : covers [.trailing] path = true := by
  simp [covers, required]

theorem covers_cons_nil (hf : f ≠ .trailing) : covers (f :: rest) [] = false := by
  simp [covers, required_cons hf]

theorem covers_cons_cons (hf : f ≠ .trailing) :
    covers (f :: rest) (e :: path) = (f.admits e && covers rest path) := by
  simp only [covers, required_cons hf, getLast?_cons_eq_trailing hf, List.length_cons,
    List.zip_cons_cons, List.all_cons]
  split <;> simp [Bool.and_left_comm]

end Namespace

/-! ## Along a rule -/

namespace Filters

open Namespace (covers isConcreteElement)

variable {ns : Namespace}

theorem leadsTo_eq_admits (he : isConcreteElement true e = true) (child : Element) :
    leadsTo e child = child.admits e := by
  cases e <;> cases child <;>
    simp_all [leadsTo, isConcreteElement, Element.admits, Element.isWildcard, Element.value?]

theorem follows_eq_covers (hlast : TrailingLast rule)
    (helements : ∀ e ∈ elements, isConcreteElement true e = true) :
    follows false rule elements = covers rule elements := by
  induction rule generalizing elements with
  | nil => rw [follows, Bool.eq_iff_iff, Namespace.covers_nil, List.isEmpty_iff]
  | cons c rule ih =>
    by_cases htrailing : c = .trailing
    · subst htrailing
      rw [hlast.eq_nil, Namespace.covers_trailing]
      cases elements with
      | nil => rfl
      | cons e elements => simp [follows, leadsTo, Element.admits]
    · cases elements with
      | nil => simp [follows, Namespace.covers_cons_nil htrailing, htrailing]
      | cons e elements =>
        obtain ⟨he, hrest⟩ := List.forall_mem_cons.mp helements
        rw [follows, beq_false_of_ne htrailing, Bool.false_or, Namespace.covers_cons_cons htrailing,
          leadsTo_eq_admits he, ih hlast.of_cons hrest]

/-! ## Histories -/

/-- Filters with the rules that were accepted on the way to them. -/
structure History where
  filters : Filters
  /-- In the order in which they came, repetitions included. -/
  accepted : List String := []

/-- A rule that is added to filters, as it is or if it fits some definitions. -/
inductive Addition where
  | rule (text : String)
  | compatible (definitions : Definitions) (text : String)

namespace History

def start (separator : Char) : History := { filters := { separator } }

/-- What a rule leaves behind that was added or refused. -/
def attempt (h : History) (rule : String) : Except FilterError Filters → History
  | .ok filters => ⟨filters, h.accepted ++ [rule]⟩
  | .error _ => h

def add (h : History) (rule : String) : History := h.attempt rule (h.filters.addRule rule)

def addCompatible (d : Definitions) (h : History) (rule : String) : History :=
  h.attempt rule (h.filters.addCompatibleRule d rule)

def step (h : History) : Addition → History
  | .rule text => h.add text
  | .compatible definitions text => h.addCompatible definitions text

def run (h : History) (additions : List Addition) : History := additions.foldl step h

def addAll (h : History) (rules : List String) : History := rules.foldl add h

def addAllCompatible (d : Definitions) (h : History) (rules : List String) : History :=
  rules.foldl (addCompatible d) h

/-- The tree holds the accepted rules. -/
structure Sound (separator : Char) (h : History) : Prop where
  separator_eq : h.filters.separator = separator
  holds : h.filters.branches.Holds separator true h.accepted

variable {separator : Char} {h : History}

theorem sound_start (separator : Char) : (start separator).Sound separator :=
  ⟨rfl, Branches.holds_empty separator true⟩

theorem Sound.insert (hs : h.Sound separator) {text : String} {rule : Namespace}
    (hrule : Namespace.parse separator true text = .ok rule) :
    (⟨(h.filters.insert text rule).value, h.accepted ++ [text]⟩ : History).Sound separator := by
  obtain rfl : rule.separator = separator := Namespace.separator_of_parse hrule
  exact ⟨hs.separator_eq, hs.holds.add hrule⟩

theorem Sound.add (hs : h.Sound separator) (text : String) : (h.add text).Sound separator := by
  unfold History.add Filters.addRule parseRule
  rw [hs.separator_eq]
  cases hrule : Namespace.parse separator true text with
  | error e => exact hs
  | ok rule => exact hs.insert hrule

theorem Sound.addCompatible (hs : h.Sound separator) (d : Definitions) (text : String) :
    (h.addCompatible d text).Sound separator := by
  unfold History.addCompatible addCompatibleRule compatibleRule parseRule
  rw [hs.separator_eq]
  cases hrule : Namespace.parse separator true text with
  | error e => exact hs
  | ok rule =>
    dsimp only
    split
    · exact hs
    · split
      · exact hs.insert hrule
      · exact hs

theorem Sound.step (hs : h.Sound separator) (addition : Addition) :
    (h.step addition).Sound separator := by
  cases addition with
  | rule text => exact hs.add text
  | compatible d text => exact hs.addCompatible d text

theorem Sound.run (hs : h.Sound separator) (additions : List Addition) :
    (h.run additions).Sound separator := by
  induction additions generalizing h with
  | nil => exact hs
  | cons addition additions ih => exact ih (hs.step addition)

theorem addAll_eq_run (h : History) (rules : List String) :
    h.addAll rules = h.run (rules.map .rule) := by
  rw [run, List.foldl_map]
  rfl

theorem addAllCompatible_eq_run (d : Definitions) (h : History) (rules : List String) :
    h.addAllCompatible d rules = h.run (rules.map (.compatible d)) := by
  rw [run, List.foldl_map]
  rfl

theorem Sound.addAll (hs : h.Sound separator) (rules : List String) :
    (h.addAll rules).Sound separator := addAll_eq_run h rules ▸ hs.run _

theorem Sound.addAllCompatible (hs : h.Sound separator) (d : Definitions) (rules : List String) :
    (h.addAllCompatible d rules).Sound separator := addAllCompatible_eq_run d h rules ▸ hs.run _

theorem Sound.accepts_iff (hs : h.Sound separator)
    (hns : ∀ e ∈ ns.elements, isConcreteElement true e = true) :
    h.filters.accepts ns = true ↔
      h.accepted = [] ∨ ∃ text ∈ h.accepted, ∃ rule,
        Namespace.parse separator true text = .ok ⟨separator, rule⟩ ∧
          covers rule ns.elements = true := by
  have hnone : (∀ rule, rule ∉ h.filters.branches.paths) ↔ h.accepted = [] :=
    hs.holds.tidy.isEmpty_iff.symm.trans hs.holds.isEmpty_iff
  have hfollows : ∀ rule ∈ h.filters.branches.paths,
      follows false rule ns.elements = covers rule ns.elements :=
    fun rule hrule => follows_eq_covers (hs.holds.trailingLast rule hrule) hns
  rw [accepts_iff_follows hs.holds.tidy, hnone]
  refine or_congr_right ⟨?_, ?_⟩
  · rintro ⟨rule, hrule, hgoes⟩
    obtain ⟨text, htext, hread⟩ := (hs.holds.mem_paths rule).mp hrule
    exact ⟨text, htext, rule, hread, hfollows rule hrule ▸ hgoes⟩
  · rintro ⟨text, htext, rule, hread, hcovers⟩
    have hrule := (hs.holds.mem_paths rule).mpr ⟨text, htext, hread⟩
    exact ⟨rule, hrule, (hfollows rule hrule).trans hcovers⟩

end History

/-! ## The disjunction -/

/-- **Filters admit a path exactly if an accepted rule does so on its own**, or if no rule was
accepted. -/
theorem accepts_addAll_iff (separator : Char) (rules : List String) (ns : Namespace)
    (hns : ∀ e ∈ ns.elements, isConcreteElement true e = true) :
    ((History.start separator).addAll rules).filters.accepts ns = true ↔
      ((History.start separator).addAll rules).accepted = [] ∨
        ∃ text ∈ ((History.start separator).addAll rules).accepted, ∃ rule,
          Namespace.parse separator true text = .ok ⟨separator, rule⟩ ∧
            covers rule ns.elements = true :=
  ((History.sound_start separator).addAll rules).accepts_iff hns

/-- The name `group1` leads nowhere here, and the search comes back to `*`. -/
theorem accepts_addAll_backtracking :
    (∀ e ∈ [Element.name "plugin", .bound "dyn" "group1", .name "metric2"],
      isConcreteElement true e = true) ∧
    ((History.start '/').addAll
      ["/plugin/group1/metric1", "plugin", "/plugin/*/metric2"]).filters.accepts
        ⟨'/', [.name "plugin", .bound "dyn" "group1", .name "metric2"]⟩ = true :=
  ⟨by decide, (accepts_addAll_iff '/' _ _ (by decide)).mpr
    (.inr ⟨"/plugin/*/metric2", by decide, [.name "plugin", .wildcard, .name "metric2"], rfl,
      by decide⟩)⟩

end Filters

end Telemetry
