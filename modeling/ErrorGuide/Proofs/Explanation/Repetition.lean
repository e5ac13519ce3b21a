import ErrorGuide.Proofs.Explanation.Outcome
import ErrorGuide.Proofs.Source.Lines

/-! Explaining again. A trace that was made before can only gain the line of code that it lacks, and
once explained it lacks none that its source could give. -/

namespace ErrorGuide

namespace Trace
variable {t : Trace} {code : Option String} {text : String}

/-- The trace has no line of code but the number of one, which the source has: `text`, once it is
trimmed. -/
def Lacks (t : Trace) (code : Option String) (text : String) : Prop :=
  t.codeLine = none ∧ ∃ source ∈ code, ∃ n ∈ t.line,
    1 ≤ n.toNat ∧ n.toNat ≤ (Source.linesOf source).length ∧
      ∃ line, (Source.linesOf source)[n.toNat - 1]? = some line ∧
        text = Text.trim (String.ofList line)

theorem withCode_of_lacks (h : t.Lacks code text) :
    t.withCode code = { t with codeLine := some text } := by
  obtain ⟨hnone, source, rfl, n, hn, hline⟩ := h
  rw [Option.mem_def] at hn
  simp only [withCode, hnone, hn]
  rw [Source.codeLine_eq_some_iff.2 hline]

theorem withCode_of_not_lacks (h : ∀ text, ¬t.Lacks code text) : t.withCode code = t := by
  unfold withCode
  split
  · next source n hnone hn =>
    -- A source that has the line would let the trace lack it.
    have hline : Source.codeLine source n = none := by
      rw [Option.eq_none_iff_forall_ne_some]
      intro text htext
      exact h text ⟨hnone, source, rfl, n, hn, Source.codeLine_eq_some_iff.1 htext⟩
    rw [hline, ← hnone]
  · rfl

theorem not_lacks_none (t : Trace) (text : String) : ¬t.Lacks none text := by
  rintro ⟨-, source, hsource, -⟩
  cases hsource

/-- What its source could give, a trace lacks no more. -/
theorem not_lacks_withCode (t : Trace) (code : Option String) (text : String) :
    ¬(t.withCode code).Lacks code text := by
  by_cases h : ∃ given, t.Lacks code given
  · obtain ⟨given, hgiven⟩ := h
    rw [withCode_of_lacks hgiven]
    rintro ⟨hnone, -⟩
    cases hnone
  · have hno : ∀ given, ¬t.Lacks code given := not_exists.1 h
    rw [withCode_of_not_lacks hno]
    exact hno text

theorem withCode_withCode {again : Option String} (h : again = none ∨ again = code) :
    (t.withCode code).withCode again = t.withCode code := by
  apply withCode_of_not_lacks
  rcases h with rfl | rfl
  · exact not_lacks_none _
  · exact not_lacks_withCode t again

end Trace

/-- A trace that was made before is explained as it is, but for the line of code that it lacks. To
explain the trace of an explanation, with its source or without one, gives the explanation again. -/
theorem explain_again {g : Guide} {d : Deck} (hd : g.deck = some d) (r : Request) :
    ∃ e, g.explain r = .ok e ∧
      (∀ t, r.input = .trace t →
        (∀ text, t.Lacks r.code text → e.trace = { t with codeLine := some text }) ∧
        ((∀ text, ¬t.Lacks r.code text) → e.trace = t)) ∧
      ∀ code, code = none ∨ code = r.code →
        g.explain { r with input := .trace e.trace, code := code } = .ok e := by
  refine ⟨_, Guide.explain_eq hd r, ?_, ?_⟩
  · intro t ht
    have htrace : g.trace r = t.withCode r.code := by
      rw [Guide.trace, ht]
      rfl
    rw [Deck.trace_explain, htrace]
    exact ⟨fun text => Trace.withCode_of_lacks, Trace.withCode_of_not_lacks⟩
  · intro code hcode
    rw [Deck.trace_explain, Guide.explain_eq hd]
    have htrace : g.trace { r with input := .trace (g.trace r), code := code } = g.trace r :=
      Trace.withCode_withCode hcode
    rw [htrace]

/-- The second line is filled in, and explaining the result without a source changes nothing. -/
theorem explain_again_sample :
    ∃ e, Guide.sample.explain
        { input := .trace (.sample "i"), code := some "i = 1\n  print(j)\n" } = .ok e ∧
      e.trace.codeLine = some "print(j)" ∧
      Guide.sample.explain { input := .trace e.trace } = .ok e := by
  obtain ⟨e, he, htrace, hagain⟩ := explain_again (g := .sample) rfl
    { input := .trace (.sample "i"), code := some "i = 1\n  print(j)\n" }
  have hline : (Source.linesOf "i = 1\n  print(j)\n")[1]? = some "  print(j)".toList := by
    decide +kernel
  have hlacks : (Trace.sample "i").Lacks (some "i = 1\n  print(j)\n") "print(j)" :=
    ⟨rfl, _, rfl, 2, rfl, by decide, by decide +kernel, _, hline, by decide +kernel⟩
  refine ⟨e, he, ?_, hagain none (.inl rfl)⟩
  rw [(htrace _ rfl).1 _ hlacks]

end ErrorGuide
