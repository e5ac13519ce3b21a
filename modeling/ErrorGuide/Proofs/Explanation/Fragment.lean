import ErrorGuide.Proofs.Explanation.Display

/-! Two ways to a fragment. A guide fills templates with escaped values; an explanation without a
fragment has its finished texts escaped. Where neither templates nor vocabulary put in characters
that are written as entities, both give the same fragment. -/

namespace ErrorGuide
open Html

theorem Variant.copy_escaped {v : Variant} (hv : ∀ s ∈ v.templates, Plain s)
    (ctx : Template.Context) : (v.copy ctx none).map escape = v.copy ctx.escaped none :=
  v.map_copy fun template ht => (Template.render_escaped (hv template ht) ctx).symm

/-- An audience for which a deck has no rules, or an empty set of them, has no vocabulary. -/
theorem Deck.glossaryFor_eq_none {d : Deck} {audience : String}
    (h : ∀ rules, d.glossary.get? audience = some rules → rules.entries = []) :
    d.glossaryFor audience = none := by
  rw [glossaryFor, Option.filter_eq_none_iff]
  intro rules hrules
  simp [OrderedMap.isEmpty, h rules hrules]

namespace Explanation
variable {d : Deck} {t : Trace} {v : Variant} {audience : Audience}

theorem fragment_eq_plainFragment (hv : ∀ s ∈ v.templates, Plain s)
    (hrules : d.glossaryFor audience.name = none) (key : EntryKey) (index : Nat)
    (verbosity : Verbosity) :
    fragment d t v audience verbosity =
      ((ofVariant d t key index v audience verbosity).trimFor verbosity).plainFragment
        d.labels := by
  simp only [fragment, ofVariant, hrules, ← Variant.copy_escaped hv, ← Copy.map_trimFor]
  cases verbosity with
  | brief => rfl
  | standard => rfl
  | guided => rfl

end Explanation

/-- A deck whose texts have no characters that are written as entities, and an audience without a
vocabulary in it. What is explained by a variant has a fragment, and shown without this fragment it
looks the same to the byte. -/
theorem render_without_html {g : Guide} {d : Deck} (hd : g.deck = some d)
    (htexts : ∀ entry ∈ d.errors.entries, ∀ v ∈ entry.2.variants, ∀ s ∈ v.templates, Plain s)
    (r : Request)
    (hrules : ∀ rules, d.glossary.get? r.audience.name = some rules → rules.entries = []) :
    ∃ e, g.explain r = .ok e ∧ ∀ key index v, d.select e.trace = .matched key index v →
      ∃ html, e.html = some html ∧
        { e with html := none }.render d.labels .html = html ++ "\n" := by
  refine ⟨_, Guide.explain_eq hd r, ?_⟩
  intro key index v hs
  rw [Deck.trace_explain] at hs
  obtain ⟨entry, hentry, hv⟩ := Deck.exists_mem_of_select hs
  have hfragment := Explanation.fragment_eq_plainFragment (t := g.trace r) (htexts entry hentry v hv)
    (Deck.glossaryFor_eq_none hrules) key index r.verbosity
  rw [Deck.explain_of_matched r.audience r.verbosity hs, Explanation.html_trimFor]
  exact ⟨_, rfl, congrArg (fun f => f.render ++ "\n") hfragment.symm⟩

/-- The quotation marks of the line are escaped in both. -/
theorem render_without_html_sample :
    ∃ e html, Guide.explain { deck := some (.lineSample "=" "gets") }
        { input := .trace .lineSample } = .ok e ∧ e.html = some html ∧
      { e with html := none }.render {} .html = html ++ "\n" := by
  obtain ⟨e, he, hrender⟩ := render_without_html (g := { deck := some (.lineSample "=" "gets") }) rfl
    (Deck.plain_lineSample "=" (by decide : Plain "gets")).texts { input := .trace .lineSample }
    (fun _ hrules => nomatch hrules)
  have htrace : e.trace = .lineSample := by
    rw [Guide.eq_explain_of_ok rfl he, Deck.trace_explain]
    rfl
  obtain ⟨html, hhtml, heq⟩ :=
    hrender _ _ _ (htrace ▸ Deck.select_lineSample "=" "gets")
  exact ⟨e, html, he, hhtml, heq⟩

end ErrorGuide
