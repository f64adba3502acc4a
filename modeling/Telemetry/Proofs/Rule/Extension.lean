import Telemetry.Proofs.Namespace.Decomposition
import Telemetry.Proofs.Rule.Admission

/-!
# Beginnings and what continues them

Filters accept a beginning if some rule goes on behind it. What goes on can be anything there, so a
beginning is accepted exactly if it is accepted as a whole with enough `*` behind it
(`acceptsPrefix_iff_accepts_extended`): this is so for a single rule (`follows_true_iff`), and
filters answer rule by rule.

* `Namespace.extended`: a path with `*` behind it.
-/

namespace Telemetry

variable {e : Element} {rule elements : List Element}

namespace Filters

/-- A beginning of a path that goes along a rule is one that some number of `*` completes. -/
theorem follows_true_iff : follows true rule elements = true ↔
    ∃ k, follows false rule (elements ++ List.replicate k .wildcard) = true := by
  induction rule generalizing elements with
  | nil =>
    cases elements with
    | nil => exact iff_of_true rfl ⟨0, rfl⟩
    | cons e elements => exact iff_of_false nofun fun ⟨k, hk⟩ => nomatch hk
  | cons c rule ih =>
    cases elements with
    | nil =>
      obtain ⟨k, hk⟩ := ih.mp (follows_true_nil rule)
      refine iff_of_true rfl ⟨k + 1, ?_⟩
      rw [List.nil_append] at hk
      simp [List.replicate_succ, follows, leadsTo, hk]
    | cons e elements =>
      simp only [follows, List.cons_append, Bool.and_eq_true, Bool.or_eq_true, ih,
        exists_and_left, exists_or, exists_const]

end Filters

/-! ## Extended paths -/

namespace Namespace

/-- The path with some number of `*` behind it. -/
def extended (ns : Namespace) (count : Nat) : Namespace :=
  ⟨ns.separator, ns.elements ++ List.replicate count .wildcard⟩

variable {ns : Namespace} {filter : Bool}

theorem mem_extended {count : Nat} (he : e ∈ (ns.extended count).elements) :
    e ∈ ns.elements ∨ e = .wildcard :=
  (List.mem_append.mp he).imp_right List.eq_of_mem_replicate

theorem Readable.extended (h : ns.Readable filter) (hseparator : Separates ns.separator)
    (htrailing : .trailing ∉ ns.elements) (count : Nat) : (ns.extended count).Readable filter := by
  have hnone : .trailing ∉ (ns.extended count).elements := fun hmem =>
    (mem_extended hmem).elim htrailing nofun
  refine ⟨List.append_ne_nil_of_left_ne_nil h.ne_nil _, fun e he => ?_,
    fun hmem => hnone (List.dropLast_subset _ hmem), fun hmem => absurd hmem hnone⟩
  rcases mem_extended he with he | rfl
  · exact h.element e he
  · exact ⟨trivial, isToken_chars hseparator trivial rfl⟩

end Namespace

/-! ## Beginnings -/

namespace Filters

open Namespace (parse Separates)

/-- **Filters accept a beginning exactly if they accept it with some number of `*` behind it.** What
is extended can be read as it is written, whether the beginning was read as a path or as a filter. -/
theorem acceptsPrefix_iff_accepts_extended (separator : Char) (additions : List Addition) :
    (∀ ns, ((History.start separator).run additions).filters.acceptsPrefix ns = true ↔
      ∃ count, ((History.start separator).run additions).filters.accepts (ns.extended count) =
        true) ∧
    ∀ (filter : Bool) text ns, Separates separator → parse separator filter text = .ok ns →
      .trailing ∉ ns.elements → ∀ count,
        parse separator filter (ns.extended count).text = .ok (ns.extended count) := by
  have htidy := ((History.sound_start separator).run additions).holds.tidy
  refine ⟨fun ns => ?_, fun filter text ns hseparator hread htrailing count => ?_⟩
  · rw [acceptsPrefix_iff_follows htidy]
    simp only [accepts_iff_follows htidy, follows_true_iff, Namespace.extended]
    constructor
    · rintro (hnone | ⟨rule, hrule, count, hfollows⟩)
      · exact ⟨0, .inl hnone⟩
      · exact ⟨count, .inr ⟨rule, hrule, hfollows⟩⟩
    · rintro ⟨count, hnone | ⟨rule, hrule, hfollows⟩⟩
      · exact .inl hnone
      · exact .inr ⟨rule, hrule, count, hfollows⟩
  · obtain rfl : ns.separator = separator := Namespace.separator_of_parse hread
    exact ((Namespace.readable_of_parse hread).extended hseparator htrailing count).parse
      hseparator.not_bracket

/-- The beginning ends below `*`, in the middle of the only rule that is accepted. -/
theorem acceptsPrefix_iff_accepts_extended_twice :
    let f := ((History.start '/').run
      [.rule "p", .rule "/p/*/[h]/m", .compatible {} "/p/[g]"]).filters
    Separates '/' ∧ parse '/' false "/p/[g=v]" = .ok ⟨'/', [.name "p", .bound "g" "v"]⟩ ∧
      .trailing ∉ [Element.name "p", .bound "g" "v"] ∧
      f.acceptsPrefix ⟨'/', [.name "p", .bound "g" "v"]⟩ = true ∧
      parse '/' false "/p/[g=v]/*/*" = .ok ⟨'/', [.name "p", .bound "g" "v", .wildcard, .wildcard]⟩ := by
  intro f
  have hseparator : Separates '/' := by decide
  have hread : parse '/' false "/p/[g=v]" = .ok ⟨'/', [.name "p", .bound "g" "v"]⟩ := rfl
  have htrailing : .trailing ∉ [Element.name "p", .bound "g" "v"] := by decide
  obtain ⟨haccepts, hextended⟩ := acceptsPrefix_iff_accepts_extended '/'
    [.rule "p", .rule "/p/*/[h]/m", .compatible {} "/p/[g]"]
  exact ⟨hseparator, hread, htrailing, (haccepts _).mpr ⟨2, rfl⟩,
    hextended false _ _ hseparator hread htrailing 2⟩

end Filters

end Telemetry
