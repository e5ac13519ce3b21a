import ErrorGuide.Proofs.Deck.Selection
import ErrorGuide.Proofs.Explanation.Outcome

/-! Explaining is first-match selection: the texts are those of the first variant that admits the
trace, or the labels of the deck if there is none. -/

namespace ErrorGuide

def Deck.wording (d : Deck) (audience : Audience) (t : Trace) (template : String) : String :=
  substitute (d.glossaryFor audience.name) (Template.render template (.ofTrace t d.labels))

namespace Explanation

structure Tells (e : Explanation) (d : Deck) (audience : Audience) (verbosity : Verbosity)
    (name : String) (index : Nat) (v : Variant) : Prop where
  variantId : e.variantId = ⟨name, UInt64.ofNat index⟩
  title : e.title = d.wording audience e.trace v.title
  summary : e.summary = d.wording audience e.trace v.summary
  why : e.why = if verbosity = .brief then none else v.why.map (d.wording audience e.trace)
  steps : e.steps = if verbosity = .brief then (v.steps.map (d.wording audience e.trace)).take 1
    else v.steps.map (d.wording audience e.trace)
  badges : e.badges = v.badges
  patch : e.patch = e.trace.patch
  html : e.html = some (fragment d e.trace v audience verbosity).render

structure TellsLabels (e : Explanation) (l : Labels) (verbosity : Verbosity) : Prop where
  variantId : e.variantId = ⟨EntryKey.fallbackName, 0⟩
  title : e.title = l.pythonErrorText
  summary : e.summary = l.fallbackSummaryText
  why : e.why = if verbosity = .brief then none else some l.fallbackWhyText
  steps : e.steps = [l.fallbackStepText]
  badges : e.badges = []
  patch : e.patch = none
  html : e.html = none

theorem tells_ofVariant (d : Deck) (t : Trace) (index : Nat) (v : Variant) (audience : Audience)
    (verbosity : Verbosity) :
    ((ofVariant d t (d.keyFor t.kind) index v audience verbosity).trimFor verbosity).Tells d
      audience verbosity (d.heading t.kind) index v where
  variantId := by
    rw [variantId_trimFor, ← d.name_keyFor]
    rfl
  title := by rw [title_trimFor, trace_trimFor]; rfl
  summary := by rw [summary_trimFor, trace_trimFor]; rfl
  why := by rw [why_trimFor, trace_trimFor]; rfl
  steps := by rw [steps_trimFor, trace_trimFor]; rfl
  badges := by rw [badges_trimFor]; rfl
  patch := by rw [patch_trimFor, trace_trimFor]; rfl
  html := by rw [html_trimFor, trace_trimFor]; rfl

theorem tellsLabels_fallback (l : Labels) (t : Trace) (verbosity : Verbosity) :
    ((fallback l t).trimFor verbosity).TellsLabels l verbosity where
  variantId := by rw [variantId_trimFor]; rfl
  title := by rw [title_trimFor]; rfl
  summary := by rw [summary_trimFor]; rfl
  why := by rw [why_trimFor]; rfl
  steps := by rw [steps_trimFor]; split <;> rfl
  badges := by rw [badges_trimFor]; rfl
  patch := by rw [patch_trimFor]; rfl
  html := by rw [html_trimFor]; rfl

end Explanation

namespace Deck
variable {d : Deck} {t : Trace} (audience : Audience) (verbosity : Verbosity)

theorem tells_explain {index : Nat} {v : Variant} (h : d.Finds t index v) :
    (d.explain t audience verbosity).Tells d audience verbosity (d.heading t.kind) index v := by
  rw [explain_of_matched audience verbosity (select_eq_matched_iff.2 ⟨rfl, h⟩)]
  exact Explanation.tells_ofVariant d t index v audience verbosity

theorem tellsLabels_explain (h : d.FindsNone t) :
    (d.explain t audience verbosity).TellsLabels d.labels verbosity := by
  rw [explain_of_unmatched audience verbosity (select_ne_matched_of_findsNone h)]
  exact Explanation.tellsLabels_fallback d.labels t verbosity

end Deck

/-- A guide with a deck gives one of two explanations: that of the first variant that admits the
trace, or the labels. There is no third, and no way from an entry to the catch-all. -/
theorem explain_first_match {g : Guide} {d : Deck} (hd : g.deck = some d) (r : Request) :
    ∃ e, g.explain r = .ok e ∧ e.trace = g.trace r ∧
      (∀ index v, d.Finds e.trace index v →
        e.Tells d r.audience r.verbosity (d.heading e.trace.kind) index v) ∧
      (d.FindsNone e.trace → e.TellsLabels d.labels r.verbosity) ∧
      ((∃ index v, d.Finds e.trace index v) ∨ d.FindsNone e.trace) ∧
      (e.html.isSome = true ↔ ∃ index v, d.Finds e.trace index v) := by
  refine ⟨_, Guide.explain_eq hd r, ?_⟩
  rw [Deck.trace_explain]
  refine ⟨rfl, fun index v => Deck.tells_explain r.audience r.verbosity,
    Deck.tellsLabels_explain r.audience r.verbosity, d.finds_or_findsNone (g.trace r), ?_⟩
  constructor
  · intro hsome
    rcases d.finds_or_findsNone (g.trace r) with hfinds | hnone
    · exact hfinds
    · rw [(Deck.tellsLabels_explain r.audience r.verbosity hnone).html] at hsome
      cases hsome
  · rintro ⟨index, v, hfinds⟩
    rw [(Deck.tells_explain r.audience r.verbosity hfinds).html]
    rfl

/-- The unconditional variant is taken, since the one before it does not admit the trace. -/
theorem explain_first_match_sample :
    ∃ e, Guide.sample.explain { input := .trace (.sample "i") } = .ok e ∧
      e.Tells .sample .beginner .standard "NameError" 1 .sample := by
  obtain ⟨e, he, ht, htells, -⟩ :=
    explain_first_match (g := .sample) rfl { input := .trace (.sample "i") }
  have hs : Deck.sample.select e.trace = .matched (.kind "NameError") 1 .sample :=
    ht ▸ Deck.select_sample rfl rfl
  refine ⟨e, he, ?_⟩
  have hk : Deck.sample.heading e.trace.kind = "NameError" := ht ▸ by decide
  exact hk ▸ htells 1 .sample (Deck.select_eq_matched_iff.1 hs).2

end ErrorGuide
