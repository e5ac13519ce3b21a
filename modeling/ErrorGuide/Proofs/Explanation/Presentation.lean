import ErrorGuide.Proofs.Explanation.Outcome

/-! What the audience and the verbosity of an explanation bear on: how much is said and in which
words, never what was recognised. The texts and the fragment are cut in the same way. -/

namespace ErrorGuide

namespace Explanation

structure SameFinding (e e' : Explanation) : Prop where
  trace : e.trace = e'.trace
  variantId : e.variantId = e'.variantId
  badges : e.badges = e'.badges
  patch : e.patch = e'.patch

structure SameLayout (e e' : Explanation) : Prop where
  why : e.why.isSome = e'.why.isSome
  steps : e.steps.length = e'.steps.length

structure LaidOutAs (f : Html.Fragment) (e : Explanation) : Prop where
  why : f.why.isSome = e.why.isSome
  steps : f.steps.length = e.steps.length

section Trimming
variable (v v' : Verbosity) {e e' : Explanation}

theorem SameFinding.trimFor (h : e.SameFinding e') :
    (e.trimFor v).SameFinding (e'.trimFor v') where
  trace := by rw [trace_trimFor, trace_trimFor, h.trace]
  variantId := by rw [variantId_trimFor, variantId_trimFor, h.variantId]
  badges := by rw [badges_trimFor, badges_trimFor, h.badges]
  patch := by rw [patch_trimFor, patch_trimFor, h.patch]

theorem SameLayout.trimFor (h : e.SameLayout e') : (e.trimFor v).SameLayout (e'.trimFor v) where
  why := by
    rw [why_trimFor, why_trimFor]
    split
    · rfl
    · exact h.why
  steps := by
    rw [steps_trimFor, steps_trimFor]
    split
    · rw [List.length_take, List.length_take, h.steps]
    · exact h.steps

end Trimming

section Variants
variable (d : Deck) (t : Trace) (key : EntryKey) (index : Nat) (w : Variant) (a a' : Audience)
  (v v' : Verbosity)

theorem sameFinding_ofVariant :
    (ofVariant d t key index w a v).SameFinding (ofVariant d t key index w a' v') :=
  ⟨rfl, rfl, rfl, rfl⟩

/-- Vocabulary changes words. It takes no text away and adds none. -/
theorem sameLayout_ofVariant :
    (ofVariant d t key index w a v).SameLayout (ofVariant d t key index w a' v) where
  why := by simp only [ofVariant, Variant.copy, Option.isSome_map]
  steps := by simp only [ofVariant, Variant.copy, List.length_map]

/-- The fragment is cut as the explanation is, although each is cut by itself. -/
theorem laidOutAs_fragment :
    LaidOutAs (fragment d t w a v) ((ofVariant d t key index w a v).trimFor v) := by
  have hwhy (ctx ctx' : Template.Context) (rules : Option Rules) :
      (w.copy ctx rules).why.isSome = (w.copy ctx' rules).why.isSome := by
    simp only [Variant.copy, Option.isSome_map]
  have hsteps (ctx ctx' : Template.Context) (rules : Option Rules) :
      (w.copy ctx rules).steps.length = (w.copy ctx' rules).steps.length := by
    simp only [Variant.copy, List.length_map]
  cases v with
  | brief => exact ⟨rfl, by simp only [fragment, Copy.trimFor, Copy.trimBrief, trimFor, trimBrief,
      ofVariant, List.length_take, hsteps _ (Template.Context.ofTrace t d.labels)]⟩
  | standard => exact ⟨hwhy _ _ _, hsteps _ _ _⟩
  | guided => exact ⟨hwhy _ _ _, hsteps _ _ _⟩

end Variants
end Explanation

namespace Deck
variable (d : Deck) (t : Trace)

/-- What is selected depends on the trace alone, so every audience and verbosity has the same. -/
theorem explain_eq_of_select :
    (∃ key index w, d.select t = .matched key index w ∧
      ∀ a v, d.explain t a v = (Explanation.ofVariant d t key index w a v).trimFor v) ∨
    ∀ a v, d.explain t a v = (Explanation.fallback d.labels t).trimFor v := by
  by_cases hs : ∃ key index w, d.select t = .matched key index w
  · obtain ⟨key, index, w, hs⟩ := hs
    exact .inl ⟨key, index, w, hs, fun a v => explain_of_matched a v hs⟩
  · have hs' : ∀ key index w, d.select t ≠ .matched key index w :=
      fun key index w he => hs ⟨key, index, w, he⟩
    exact .inr fun a v => explain_of_unmatched a v hs'

theorem sameFinding_explain (a a' : Audience) (v v' : Verbosity) :
    (d.explain t a v).SameFinding (d.explain t a' v') := by
  obtain ⟨key, index, w, -, he⟩ | he := d.explain_eq_of_select t
  · rw [he, he]
    exact (Explanation.sameFinding_ofVariant d t key index w a a' v v').trimFor v v'
  · rw [he, he]
    exact Explanation.SameFinding.trimFor v v' ⟨rfl, rfl, rfl, rfl⟩

theorem sameLayout_explain (a a' : Audience) (v : Verbosity) :
    (d.explain t a v).SameLayout (d.explain t a' v) := by
  obtain ⟨key, index, w, -, he⟩ | he := d.explain_eq_of_select t
  · rw [he, he]
    exact (Explanation.sameLayout_ofVariant d t key index w a a' v).trimFor v
  · rw [he, he]
    exact ⟨rfl, rfl⟩

theorem explain_guided (a : Audience) : d.explain t a .guided = d.explain t a .standard := by
  obtain ⟨key, index, w, -, he⟩ | he := d.explain_eq_of_select t
  · rw [he, he]
    rfl
  · rw [he, he]
    rfl

theorem explain_brief (a : Audience) :
    d.explain t a .brief =
      { d.explain t a .standard with
        why := none
        steps := (d.explain t a .standard).steps.take 1
        html := (d.explain t a .brief).html } := by
  obtain ⟨key, index, w, -, he⟩ | he := d.explain_eq_of_select t
  · rw [he, he]
    rfl
  · rw [he, he]
    rfl

theorem isSome_html_explain (a : Audience) (v v' : Verbosity) :
    (d.explain t a v).html.isSome = (d.explain t a v').html.isSome := by
  obtain ⟨key, index, w, -, he⟩ | he := d.explain_eq_of_select t
  · rw [he, he, Explanation.html_trimFor, Explanation.html_trimFor]
    simp only [Explanation.ofVariant, Option.isSome_some]
  · rw [he, he, Explanation.html_trimFor, Explanation.html_trimFor]

theorem laidOutAs_of_html {a : Audience} {v : Verbosity} {html : String}
    (h : (d.explain t a v).html = some html) :
    ∃ key index w, d.select t = .matched key index w ∧
      html = (Explanation.fragment d t w a v).render ∧
      Explanation.LaidOutAs (Explanation.fragment d t w a v) (d.explain t a v) := by
  obtain ⟨key, index, w, hs, rfl⟩ := html_explain_eq_some a v h
  rw [explain_of_matched a v hs]
  exact ⟨key, index, w, hs, rfl, Explanation.laidOutAs_fragment d t key index w a v⟩

end Deck

/-- One input, explained to every audience at every verbosity. What was recognised is the same
throughout, and a guided explanation is a standard one. A brief one is a standard one without the
rationale and with the first step alone, fragment apart. A fragment is laid out as the texts beside
it, and is there for a brief explanation if it is for a standard one. The audience bears on neither
the rationale being there nor the number of steps. -/
theorem explain_presentation {g : Guide} {d : Deck} (hd : g.deck = some d) (input : ErrorInput)
    (code : Option String) :
    ∃ e : Audience → Verbosity → Explanation,
      (∀ a v, g.explain { input, code, audience := a, verbosity := v } = .ok (e a v)) ∧
      (∀ a a' v v', (e a v).SameFinding (e a' v')) ∧
      (∀ a, e a .guided = e a .standard) ∧
      (∀ a, e a .brief =
        { e a .standard with
          why := none
          steps := (e a .standard).steps.take 1
          html := (e a .brief).html }) ∧
      (∀ a v html, (e a v).html = some html →
        ∃ key index w, d.select (e a v).trace = .matched key index w ∧
          html = (Explanation.fragment d (e a v).trace w a v).render ∧
          Explanation.LaidOutAs (Explanation.fragment d (e a v).trace w a v) (e a v)) ∧
      (∀ a, (e a .brief).html.isSome = (e a .standard).html.isSome) ∧
      ∀ a a' v, (e a v).SameLayout (e a' v) := by
  -- The trace is made from the input and the source before anything else is looked at.
  let t := (g.registry.coerce input code).withCode code
  refine ⟨fun a v => d.explain t a v, fun a v => Guide.explain_eq hd _, d.sameFinding_explain t,
    d.explain_guided t, d.explain_brief t, ?_, fun a => d.isSome_html_explain t a _ _,
    d.sameLayout_explain t⟩
  intro a v html hhtml
  rw [Deck.trace_explain]
  exact d.laidOutAs_of_html t hhtml

/-- The brief explanation has one step of two, and so has its fragment. -/
theorem explain_presentation_sample :
    ∃ brief standard, Guide.sample.explain
        { input := .trace (.sample "i"), audience := .kid, verbosity := .brief } = .ok brief ∧
      Guide.sample.explain { input := .trace (.sample "i"), audience := .kid } = .ok standard ∧
      brief.steps = standard.steps.take 1 ∧ brief.why = none ∧ brief.html.isSome = true := by
  obtain ⟨e, he, -, -, hbrief, -, hsome, -⟩ :=
    explain_presentation (g := .sample) rfl (.trace (.sample "i")) none
  refine ⟨e .kid .brief, e .kid .standard, he .kid .brief, he .kid .standard, ?_, ?_, ?_⟩
  · rw [hbrief]
  · rw [hbrief]
  · have hs : Deck.sample.select (.sample "i") = .matched (.kind "NameError") 1 .sample :=
      Deck.select_sample rfl rfl
    have hkid : e .kid .standard = Deck.sample.explain (.sample "i") .kid .standard :=
      Except.ok.inj ((he .kid .standard).symm.trans (Guide.explain_eq rfl _))
    rw [hsome, hkid, Deck.explain_of_matched _ _ hs]
    rfl

end ErrorGuide
