import Telemetry.Proofs.Collection.Run
import Telemetry.Proofs.Collection.Spelling
import Telemetry.Proofs.Namespace.Reading
import Telemetry.Proofs.Rule.Excerpt
import Telemetry.Proofs.Rule.Search

/-!
# Asking ahead

Whoever asks ahead about a metric may cut its path short and hide elements of it behind `*`. Such
an excerpt is never turned down if the metric is added: both walks, the one through the definitions
(`isPrefixOf_of_resolveFrom`) and the one through the filters (`walk_excerpt`), follow the excerpt
along the nodes that they follow for the whole path, and the text of the excerpt is read as it was
meant (`shouldProcess_of_added`).
-/

namespace Telemetry

variable {elements part : List Element} {hasDefinitions : Bool}

/-! ## Filters -/

namespace Filters

theorem walk_excerpt {b : Branches} {isEnd : Bool} (hwalk : walk false isEnd b elements = true)
    (h : Excerpt elements part) : walk true isEnd b part = true := by
  induction h generalizing b isEnd with
  | nil => simp [walk]
  | keep e h ih =>
    simp only [walk, List.any_eq_true, Bool.or_eq_true] at hwalk ⊢
    obtain ⟨n, hn, hrest⟩ := hwalk
    exact ⟨n, hn, hrest.imp_right fun hrest => ih hrest⟩
  | hide e h ih =>
    simp only [walk, List.any_eq_true, Bool.or_eq_true] at hwalk ⊢
    obtain ⟨n, hn, hrest⟩ := hwalk
    exact ⟨n, mem_nodes_of_mem_tried hn, hrest.imp_right fun hrest => ih hrest⟩

theorem acceptsPrefix_of_accepts {f : Filters} {ns : Namespace} (haccepts : f.accepts ns = true)
    (h : Excerpt ns.elements part) : f.acceptsPrefix ⟨ns.separator, part⟩ = true := by
  rw [accepts, Bool.or_eq_true] at haccepts
  rw [acceptsPrefix, Bool.or_eq_true]
  exact haccepts.imp_right fun hwalk => walk_excerpt hwalk h

end Filters

/-! ## Reading the excerpt -/

theorem pathFlaw?_excerpt (hflaw : pathFlaw? hasDefinitions false elements = none)
    (h : Excerpt elements part) (hhead : part.head? = elements.head?) (hlength : 2 ≤ part.length) :
    pathFlaw? hasDefinitions true part = none := by
  have hallowed : ∀ e, elementFlaw? hasDefinitions false e = none →
      elementFlaw? hasDefinitions true e = none := by
    intro e he
    cases e <;> simp_all [elementFlaw?]
  unfold pathFlaw? at hflaw ⊢
  split_ifs at hflaw with hshort hname
  rw [if_neg (by omega), hhead, if_neg hname, List.findSome?_eq_none_iff]
  intro e he
  rcases h.tail.mem he with hmem | rfl
  · exact hallowed e (List.findSome?_eq_none_iff.mp hflaw e hmem)
  · rfl

namespace Collection

variable {σ : Type} {c : Collection σ} {text : String}

theorem parse_excerpt {separator : Char} {ns : Namespace}
    (hseparator : Namespace.Separates separator)
    (hread : Namespace.parse separator false text = .ok ns)
    (hflaw : pathFlaw? hasDefinitions false ns.elements = none) (h : Excerpt ns.elements part)
    (hne : part ≠ []) :
    Namespace.parse separator false (Namespace.text ⟨separator, part⟩) = .ok ⟨separator, part⟩ := by
  have hconcrete := isConcreteElement_of_pathFlaw?_eq_none hflaw
  refine Namespace.parse_text_of_single hseparator hne fun e he => ?_
  rcases h.mem he with hmem | rfl
  · refine ⟨Namespace.wellFormed_of_parse hread e hmem, ?_⟩
    have he := hconcrete e hmem
    cases e <;> simp_all [Namespace.isConcreteElement, Element.pattern?]
  · exact ⟨trivial, rfl, by simp⟩

/-- **Asking ahead never turns down a metric that is added**: at no time of a collection is there a
metric that is added and an excerpt of its path, of two elements or more, that is not processed. -/
theorem shouldProcess_of_added (c : Collection σ) (hseparator : Namespace.Separates c.separator)
    (before other : List (Action σ)) (now : Instant) (text : String) (value : Value)
    (modifiers : List Modifier)
    (hadded : ((c.run before).addMetric now text value modifiers).value.2 = .ok .added) :
    ∃ elements, c.catalog.definitions.parse text = .ok ⟨c.separator, elements⟩ ∧
      ∀ (length : Nat) (hidden : Nat → Bool), 2 ≤ length →
        ((c.run other).shouldProcess (Namespace.text
          ⟨c.separator, Namespace.excerpt elements length hidden⟩)).value = true := by
  obtain ⟨ns, r, hresolve, haccepts⟩ := answer_eq_added_iff.mp hadded
  rw [resolve_congr (scope_run c before)] at hresolve
  rw [filters_eq (scope_run c before)] at haccepts
  obtain ⟨hread, hflaw, hdefined⟩ := resolve_eq_ok_iff.mp hresolve
  obtain ⟨separator, elements⟩ := ns
  obtain rfl : separator = c.separator := Namespace.separator_of_parse hread
  refine ⟨elements, hread, fun length hidden hlength => ?_⟩
  have hexcerpt := Namespace.excerpt_excerpt elements length hidden
  have hhead := Namespace.head?_excerpt elements (by omega : 0 < length) hidden
  have htwo : 2 ≤ (Namespace.excerpt elements length hidden).length := by
    have helements : 2 ≤ elements.length := two_le_length_of_pathFlaw?_eq_none hflaw
    rw [Namespace.length_excerpt]
    omega
  have hparse : c.catalog.definitions.parse (Namespace.text
      ⟨c.separator, Namespace.excerpt elements length hidden⟩) =
        .ok ⟨c.separator, Namespace.excerpt elements length hidden⟩ :=
    parse_excerpt hseparator hread hflaw hexcerpt (List.ne_nil_of_length_pos (by omega))
  have hprefix := Definitions.resolvesPrefix_of_resolve hdefined hexcerpt hhead
  have hasked := Filters.acceptsPrefix_of_accepts haccepts hexcerpt
  have hfree := pathFlaw?_excerpt hflaw hexcerpt hhead htwo
  rw [shouldProcess_congr (scope_run c other)]
  simp only [shouldProcess, hparse, hfree, hprefix, hasked, Bool.and_self]

/-- The middle of the path is hidden, where it was bound to a group. -/
theorem shouldProcess_of_added_hidden :
    let catalog := (Catalog.ofOptions {}).run [.defineMetric "/p/[g]/m" {}]
    let filters := (Filters.History.start '/').addAllCompatible catalog.definitions ["/p/[g]/*"]
    let c : Collection Unit :=
      { task := Task.ofObject "task" (.object []), catalog, filters := filters.filters }
    Namespace.Separates c.separator ∧
      (c.addMetric ⟨1, 0⟩ "/p/[g=vv]/m" (.int 1) []).value.2 = .ok .added ∧
      (c.shouldProcess "/p/*/m").value = true := by
  intro catalog filters c
  have hseparator : Namespace.Separates '/' := by decide
  have hadded : (c.addMetric ⟨1, 0⟩ "/p/[g=vv]/m" (.int 1) []).value.2 = .ok .added := by rfl
  refine ⟨hseparator, hadded, ?_⟩
  obtain ⟨elements, hread, hprocess⟩ :=
    shouldProcess_of_added c hseparator [] [] ⟨1, 0⟩ "/p/[g=vv]/m" (.int 1) [] hadded
  obtain rfl : elements = [.name "p", .bound "g" "vv", .name "m"] := by
    cases hread
    rfl
  exact hprocess 3 (· == 1) (by decide)

end Collection

end Telemetry
