import Telemetry.Proofs.Rule.Admission
import Telemetry.Proofs.Rule.History

/-!
# Listings of rules

What is listed are the texts that were accepted, once each and in order: rules that begin alike
share their nodes, but every accepted rule keeps an end of its own, and is written as it was read. A
listing therefore says all that there is to say about filters. Whoever adds the listed rules to
empty filters gets filters that answer as the first ones do (`listRules_lossless`), for filters
answer by the set of the rules that they accepted (`Filters.History.Sound.answers_congr`).
-/

namespace Telemetry

namespace Filters

variable {f f' : Filters}

/-! ## The same rules, the same answers -/

theorem accepts_congr (h : f.branches.Tidy) (h' : f'.branches.Tidy)
    (hpaths : ∀ rule, rule ∈ f.branches.paths ↔ rule ∈ f'.branches.paths) (ns : Namespace) :
    f.accepts ns = f'.accepts ns := by
  rw [Bool.eq_iff_iff, accepts_iff_follows h, accepts_iff_follows h']
  simp only [hpaths]

theorem acceptsPrefix_congr (h : f.branches.Tidy) (h' : f'.branches.Tidy)
    (hpaths : ∀ rule, rule ∈ f.branches.paths ↔ rule ∈ f'.branches.paths) (ns : Namespace) :
    f.acceptsPrefix ns = f'.acceptsPrefix ns := by
  rw [Bool.eq_iff_iff, acceptsPrefix_iff_follows h, acceptsPrefix_iff_follows h']
  simp only [hpaths]

namespace History

variable {h h' : History} {separator : Char} {text : String} {texts : List String}

theorem Sound.answers_congr (hs : h.Sound separator) (hs' : h'.Sound separator)
    (hsame : ∀ text, text ∈ h.accepted ↔ text ∈ h'.accepted) :
    h.filters.listRules = h'.filters.listRules ∧ ∀ ns,
      h.filters.accepts ns = h'.filters.accepts ns ∧
        h.filters.acceptsPrefix ns = h'.filters.acceptsPrefix ns := by
  have hpaths : ∀ rule, rule ∈ h.filters.branches.paths ↔ rule ∈ h'.filters.branches.paths :=
    fun rule => by simp only [hs.holds.mem_paths, hs'.holds.mem_paths, hsame]
  refine ⟨?_, fun ns => ⟨?_, ?_⟩⟩
  · rw [listRules, listRules, hs.separator_eq, hs'.separator_eq]
    exact hs.holds.tidy.rules_congr hs'.holds.tidy hpaths separator
  · exact accepts_congr hs.holds.tidy hs'.holds.tidy hpaths ns
  · exact acceptsPrefix_congr hs.holds.tidy hs'.holds.tidy hpaths ns

/-! ## What is listed -/

theorem Sound.mem_listRules_iff (hs : h.Sound separator) :
    text ∈ h.filters.listRules ↔ text ∈ h.accepted := by
  rw [listRules, hs.separator_eq]
  exact hs.holds.mem_rules_iff

theorem Sound.pairwise_lt_listRules (hs : h.Sound separator) :
    h.filters.listRules.Pairwise (· < ·) := by
  rw [listRules, hs.separator_eq]
  exact hs.holds.pairwise_lt_rules

/-! ## Adding what can be read -/

theorem add_of_parse (hs : h.Sound separator) {rule : Namespace}
    (hread : Namespace.parse separator true text = .ok rule) :
    h.filters.addRule text = .ok (h.add text).filters ∧
      (h.add text).accepted = h.accepted ++ [text] := by
  have hadd : h.filters.addRule text = .ok (h.filters.insert text rule).value := by
    rw [addRule, parseRule, hs.separator_eq, hread]
    rfl
  rw [History.add, hadd]
  exact ⟨rfl, rfl⟩

theorem addAll_of_parse (hs : h.Sound separator)
    (hread : ∀ text ∈ texts, ∃ rule, Namespace.parse separator true text = .ok rule) :
    texts.foldlM addRule h.filters = .ok (h.addAll texts).filters ∧
      (h.addAll texts).accepted = h.accepted ++ texts := by
  induction texts generalizing h with
  | nil => exact ⟨rfl, (List.append_nil _).symm⟩
  | cons text texts ih =>
    obtain ⟨⟨rule, hrule⟩, hrest⟩ := List.forall_mem_cons.mp hread
    obtain ⟨hadd, haccepted⟩ := add_of_parse hs hrule
    obtain ⟨hmore, hall⟩ := ih (hs.add text) hrest
    refine ⟨?_, ?_⟩
    · rw [List.foldlM_cons, hadd]
      exact hmore
    · rw [haccepted, List.append_assoc, List.singleton_append] at hall
      exact hall

theorem Sound.exists_rebuilt (hs : h.Sound separator) :
    ∃ rebuilt, h.filters.listRules.foldlM addRule { separator } = .ok rebuilt ∧
      rebuilt.listRules = h.filters.listRules ∧ ∀ ns,
        rebuilt.accepts ns = h.filters.accepts ns ∧
          rebuilt.acceptsPrefix ns = h.filters.acceptsPrefix ns := by
  have hread : ∀ text ∈ h.filters.listRules,
      ∃ rule, Namespace.parse separator true text = .ok rule := fun text htext => by
    obtain ⟨path, hpath⟩ := hs.holds.readable text (hs.mem_listRules_iff.mp htext)
    exact ⟨_, hpath⟩
  have hstart := sound_start separator
  obtain ⟨hadd, haccepted⟩ := addAll_of_parse hstart hread
  refine ⟨_, hadd, (hstart.addAll _).answers_congr hs fun text => ?_⟩
  rw [haccepted, start, List.nil_append, hs.mem_listRules_iff]

end History

end Filters

/-! ## Along a history -/

/-- **Definitions and filters list exactly the rules that they accepted**, each once and in order,
and the rules that filters list are enough to make filters that answer alike. -/
theorem listRules_lossless (options : DefinitionOptions) (changes : List Definitions.Change)
    (hchanges : ∀ c ∈ changes, Definitions.Change.Keeps options.separator c) (separator : Char)
    (additions : List Filters.Addition) :
    let d := (Definitions.History.start options).run changes
    let f := (Filters.History.start separator).run additions
    d.definitions.listRules.Pairwise (· < ·) ∧
    (∀ text, text ∈ d.definitions.listRules ↔ text ∈ d.accepted) ∧
    f.filters.listRules.Pairwise (· < ·) ∧
    (∀ text, text ∈ f.filters.listRules ↔ text ∈ f.accepted) ∧
    ∃ rebuilt, f.filters.listRules.foldlM Filters.addRule { separator } = .ok rebuilt ∧
      rebuilt.listRules = f.filters.listRules ∧ ∀ ns,
        rebuilt.accepts ns = f.filters.accepts ns ∧
          rebuilt.acceptsPrefix ns = f.filters.acceptsPrefix ns := by
  intro d f
  have hd : d.Sound options.separator := (Definitions.History.sound_start options).run hchanges
  have hf : f.Sound separator := (Filters.History.sound_start separator).run additions
  have hlist : d.definitions.listRules = d.definitions.branches.rules options.separator := by
    rw [Definitions.listRules, hd.separator_eq]
  rw [hlist]
  exact ⟨hd.holds.pairwise_lt_rules, fun _ => hd.holds.mem_rules_iff, hf.pairwise_lt_listRules,
    fun _ => hf.mem_listRules_iff, hf.exists_rebuilt⟩

/-- A rule and a beginning of it are both listed, beside one that differs in a pattern only; what is
refused is not listed, and what is repeated is listed once. -/
theorem listRules_lossless_shared :
    let changes : List Definitions.Change := [.addRule "/p/[g]/m", .addRule "/p/x/m",
      .setOptions { anyLevel := true }, .addRule "/p/[g]/m/n"]
    let additions : List Filters.Addition := [.rule "/p/\x7bb\x7d", .rule "/p/**", .rule "p",
      .rule "/p/a/b", .rule "/p/\x7bb\x7d", .rule "/p/a", .compatible {} "/p/[g]"]
    let d := (Definitions.History.start {}).run changes
    let f := (Filters.History.start '/').run additions
    (∀ c ∈ changes, Definitions.Change.Keeps '/' c) ∧
      (∀ text, text ∈ d.definitions.listRules ↔ text ∈ ["/p/[g]/m", "/p/[g]/m/n"]) ∧
      (∀ text, text ∈ f.filters.listRules ↔
        text ∈ ["/p/\x7bb\x7d", "/p/**", "/p/a/b", "/p/\x7bb\x7d", "/p/a"]) ∧
      ∃ rebuilt, f.filters.listRules.foldlM Filters.addRule {} = .ok rebuilt ∧
        rebuilt.listRules = f.filters.listRules := by
  intro changes additions d f
  have hchanges : ∀ c ∈ changes, Definitions.Change.Keeps '/' c := by decide
  obtain ⟨-, hdefined, -, hasked, rebuilt, hadd, hlist, -⟩ :=
    listRules_lossless {} changes hchanges '/' additions
  have hd : d.accepted = ["/p/[g]/m", "/p/[g]/m/n"] := rfl
  have hf : f.accepted = ["/p/\x7bb\x7d", "/p/**", "/p/a/b", "/p/\x7bb\x7d", "/p/a"] := by
    decide +kernel
  exact ⟨hchanges, fun text => hd ▸ hdefined text, fun text => hf ▸ hasked text, rebuilt, hadd, hlist⟩

end Telemetry
