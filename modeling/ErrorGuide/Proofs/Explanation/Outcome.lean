import ErrorGuide.Guide

/-! What comes out of explaining: either the texts of the selected variant, with a fragment, or the
labels of the deck, without one. Later arguments use these lemmas and not the definitions. -/

namespace ErrorGuide

namespace Explanation
variable (verbosity : Verbosity) (e : Explanation)

/-! Trimming touches the rationale and the steps alone. -/

@[simp] theorem trace_trimFor : (e.trimFor verbosity).trace = e.trace := by
  cases verbosity <;> rfl

@[simp] theorem variantId_trimFor : (e.trimFor verbosity).variantId = e.variantId := by
  cases verbosity <;> rfl

@[simp] theorem title_trimFor : (e.trimFor verbosity).title = e.title := by
  cases verbosity <;> rfl

@[simp] theorem summary_trimFor : (e.trimFor verbosity).summary = e.summary := by
  cases verbosity <;> rfl

@[simp] theorem badges_trimFor : (e.trimFor verbosity).badges = e.badges := by
  cases verbosity <;> rfl

@[simp] theorem patch_trimFor : (e.trimFor verbosity).patch = e.patch := by
  cases verbosity <;> rfl

@[simp] theorem html_trimFor : (e.trimFor verbosity).html = e.html := by
  cases verbosity <;> rfl

theorem why_trimFor :
    (e.trimFor verbosity).why = if verbosity = .brief then none else e.why := by
  cases verbosity <;> rfl

theorem steps_trimFor :
    (e.trimFor verbosity).steps = if verbosity = .brief then e.steps.take 1 else e.steps := by
  cases verbosity <;> rfl

end Explanation

namespace Deck
variable {d : Deck} {t : Trace} (audience : Audience) (verbosity : Verbosity)

theorem explain_of_matched {key : EntryKey} {index : Nat} {v : Variant}
    (h : d.select t = .matched key index v) :
    d.explain t audience verbosity =
      (Explanation.ofVariant d t key index v audience verbosity).trimFor verbosity := by
  rw [explain, h]

theorem explain_of_unmatched (h : ∀ key index v, d.select t ≠ .matched key index v) :
    d.explain t audience verbosity = (Explanation.fallback d.labels t).trimFor verbosity := by
  rw [explain]
  cases hs : d.select t with
  | matched key index v => exact absurd hs (h key index v)
  | noEntry key => rfl
  | noMatch key => rfl

@[simp] theorem trace_explain : (d.explain t audience verbosity).trace = t := by
  cases hs : d.select t with
  | matched key index v => rw [explain_of_matched audience verbosity hs]; simp [Explanation.ofVariant]
  | noEntry key =>
    rw [explain_of_unmatched audience verbosity (by simp [hs])]
    simp [Explanation.fallback]
  | noMatch key =>
    rw [explain_of_unmatched audience verbosity (by simp [hs])]
    simp [Explanation.fallback]

/-- An explanation has a fragment only from a variant. -/
theorem html_explain_eq_some {html : String} (h : (d.explain t audience verbosity).html = some html) :
    ∃ key index v, d.select t = .matched key index v ∧
      html = (Explanation.fragment d t v audience verbosity).render := by
  by_cases hs : ∃ key index v, d.select t = .matched key index v
  · obtain ⟨key, index, v, hs⟩ := hs
    rw [explain_of_matched audience verbosity hs, Explanation.html_trimFor] at h
    exact ⟨key, index, v, hs, (Option.some.inj h).symm⟩
  · have hs' : ∀ key index v, d.select t ≠ .matched key index v :=
      fun key index v he => hs ⟨key, index, v, he⟩
    rw [explain_of_unmatched audience verbosity hs', Explanation.html_trimFor] at h
    cases h

end Deck

namespace Guide

/-- A guide with a deck always explains. -/
theorem explain_eq {g : Guide} {d : Deck} (hd : g.deck = some d) (r : Request) :
    g.explain r = .ok (d.explain (g.trace r) r.audience r.verbosity) := by
  rw [explain, hd]

theorem eq_explain_of_ok {g : Guide} {d : Deck} {r : Request} {e : Explanation}
    (hd : g.deck = some d) (he : g.explain r = .ok e) :
    e = d.explain (g.trace r) r.audience r.verbosity := by
  rw [explain_eq hd r] at he
  exact (Except.ok.inj he).symm

/-- An explanation with a fragment is that of the selected variant. -/
theorem ofVariant_of_html {g : Guide} {d : Deck} {r : Request} {e : Explanation} {html : String}
    (hd : g.deck = some d) (he : g.explain r = .ok e) (hh : e.html = some html) :
    ∃ key index v, d.select e.trace = .matched key index v ∧
      e = (Explanation.ofVariant d e.trace key index v r.audience r.verbosity).trimFor
        r.verbosity ∧
      html = (Explanation.fragment d e.trace v r.audience r.verbosity).render := by
  obtain rfl := eq_explain_of_ok hd he
  rw [Deck.trace_explain]
  obtain ⟨key, index, v, hs, hhtml⟩ := Deck.html_explain_eq_some r.audience r.verbosity hh
  exact ⟨key, index, v, hs, Deck.explain_of_matched r.audience r.verbosity hs, hhtml⟩

end Guide

/-! A deck for examples. The filter of its first variant does not compile, so it matches nothing; the
second variant always applies, so the third is never chosen. -/

def Variant.sample : Variant where
  title := "Unknown <name>"
  summary := "The <b>variable</b> {{name}} is unknown."
  why := some "Nothing gave {{ name }} a value."
  steps := ["Look at {{codeLine}}.", "Run it again."]
  badges := ["names"]

def Deck.sample : Deck where
  edition := ⟨"en", .ofNat false 1⟩
  glossary := ⟨[("kid", ⟨[("variable", "box")], by decide⟩)], by decide⟩
  errors := ⟨[("NameError", ⟨[
    { condition := some { matchMessage := ["("] }, title := "Open", summary := "It is open." },
    .sample,
    { title := "Last", summary := "Nothing is known." }]⟩)], by decide⟩

def Guide.sample : Guide where
  deck := some .sample

def Trace.sample (name : String) : Trace :=
  { kind := some "NameError", message := "not known", raw := "", line := some 2, name := some name }

/-- The first variant is passed over, the second is taken. -/
theorem Deck.select_sample {t : Trace} (hk : t.kind = some "NameError")
    (hm : t.message = "not known") :
    Deck.sample.select t = .matched (.kind "NameError") 1 .sample := by
  have hkey : Deck.sample.keyFor (some "NameError") = .kind "NameError" := by decide
  have hopen : Pattern.matchesIn "(" "not known" = false := by decide +kernel
  rw [select, hk, hkey]
  simp [sample, entry?, EntryKey.name, OrderedMap.get?, KindEntry.firstFor, Variant.applies,
    Variant.sample, Condition.holds, anyMatches, hm, hopen]

/-- How a trace about a name is explained, to an audience without a vocabulary. -/
theorem Guide.explain_sample (name : String) :
    Guide.sample.explain { input := .trace (.sample name) } =
      .ok (Explanation.ofVariant .sample (.sample name) (.kind "NameError") 1 .sample .beginner
        .standard) := by
  have hs : Deck.sample.select (.sample name) = .matched (.kind "NameError") 1 .sample :=
    Deck.select_sample rfl rfl
  exact (explain_eq rfl _).trans (congrArg Except.ok (Deck.explain_of_matched _ _ hs))

end ErrorGuide
