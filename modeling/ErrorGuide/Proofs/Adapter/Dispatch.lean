import ErrorGuide.Adapter.Registry
import ErrorGuide.Proofs.Trace.Marker

/-! Which of the bundled adapters reads a text. The text alone decides: one that has the word
`pyodide` goes to that family, any other one to `skulpt` if it has a marker, and the rest is read
without a family. The source decides on nothing but the lines of code that are shown. -/

namespace ErrorGuide
open Text

def SkulptMarked (cs : List Char) : Prop :=
  EndsInError cs ∨ Mentions "Traceback" cs ∨ Mentions "skulpt" cs ∨ TellsLine cs

namespace Trace

def withWindow (t : Trace) (w : Source.Window) : Trace :=
  { t with codeLine := w.codeLine, codeBefore := w.before, codeAfter := w.after }

def SameButCode (t t' : Trace) : Prop :=
  t' = { t with
    codeLine := t'.codeLine
    codeBefore := t'.codeBefore
    codeAfter := t'.codeAfter }

theorem sameButCode_withWindow (t : Trace) (w w' : Source.Window) :
    (t.withWindow w).SameButCode (t.withWindow w') := rfl

end Trace

namespace Family
variable {f : Family} {raw : String}

theorem accepts_skulpt_iff {cs : List Char} :
    skulpt.accepts cs = true ↔ ¬Mentions "pyodide" cs ∧ SkulptMarked cs := by
  simp [accepts, skulpt, SkulptMarked, Marker.occurs_anywhere_iff, Marker.occurs_errorEnding_iff,
    Marker.occurs_onLine_iff, ← Bool.not_eq_true]

theorem accepts_pyodide_iff {cs : List Char} :
    pyodide.accepts cs = true ↔
      EndsInError cs ∨ Mentions "Traceback" cs ∨ Mentions "pyodide" cs := by
  simp [accepts, pyodide, Marker.occurs_anywhere_iff, Marker.occurs_errorEnding_iff]

theorem extract_of_not_accepts (h : f.accepts raw.toList = false) (code : Option String) :
    f.extract raw code = none := by
  simp [extract, h]

/-- What a family reads in a text is the same for every source, but for the window. -/
theorem extract_of_accepts (h : f.accepts raw.toList = true) :
    ∃ t : Trace, t.raw = raw ∧ t.runtime = f.runtime ∧
      ∀ code, f.extract raw code = some (t.withWindow (f.context raw.toList code t.line)) := by
  rcases hplace : locate (framesIn (Trace.linesOf raw.toList)).getLast?
      (f.fallbackPlace (Trace.linesOf raw.toList) raw.toList) with ⟨file, line⟩
  let lines := Trace.linesOf raw.toList
  let tail := Trace.readTail (Trace.tailOf lines)
  refine ⟨{ kind := tail.kind, message := tail.message, raw, file, line, col := f.columnIn lines
            frames := framesIn lines, name := Trace.quotedName tail.message
            runtime := f.runtime }, rfl, rfl, ?_⟩
  intro code
  simp only [extract, h, if_true, hplace, Trace.withWindow, tail, lines]

/-- What a trace tells of a text that a family has read, apart from columns and lines of code. -/
structure Extracted (f : Family) (raw : String) (t : Trace) : Prop where
  tail : Trace.readTail (Trace.tailOf (Trace.linesOf raw.toList)) = ⟨t.kind, t.message⟩
  name : Trace.quotedName t.message = t.name
  frames : framesIn (Trace.linesOf raw.toList) = t.frames
  located : locate t.frames.getLast? (f.fallbackPlace (Trace.linesOf raw.toList) raw.toList) =
    (t.file, t.line)

theorem extracted_of_extract {code : Option String} {t : Trace} (h : f.extract raw code = some t) :
    f.Extracted raw t := by
  dsimp only [extract] at h
  -- The parts are named, so that none of them is computed when the trace is taken apart.
  generalize htail : Trace.readTail (Trace.tailOf (Trace.linesOf raw.toList)) = tail at h
  generalize hname : Trace.quotedName tail.message = name at h
  generalize hframes : framesIn (Trace.linesOf raw.toList) = frames at h
  generalize hlocate : locate frames.getLast?
    (f.fallbackPlace (Trace.linesOf raw.toList) raw.toList) = place at h
  split at h
  · obtain rfl := Option.some.inj h
    exact ⟨htail, hname, hframes, hlocate⟩
  · cases h

end Family

namespace Registry
variable {raw : String} (code : Option String)

theorem extract_builtin :
    builtin.extract raw code = ((Family.skulpt.extract raw code).or
      (Family.pyodide.extract raw code)).getD (Trace.generic raw) := by
  have hentries : builtin.adapters.entries =
      [("skulpt", Family.skulpt.extract), ("pyodide", Family.pyodide.extract)] := rfl
  rw [extract, hentries]
  cases hs : Family.skulpt.extract raw code <;> cases hp : Family.pyodide.extract raw code <;>
    simp [hs, hp]

structure ReadsAs (text : String) (runtime : Runtime) (t : Trace)
    (window : Option String → Source.Window) : Prop where
  raw : t.raw = text
  runtime : t.runtime = runtime
  extract_eq : ∀ code, builtin.extract text code = t.withWindow (window code)

theorem reads_pyodide (h : Mentions "pyodide" raw.toList) :
    ∃ t window, ReadsAs raw .pyodide t window := by
  have hskulpt : Family.skulpt.accepts raw.toList = false := by
    simp [← Bool.not_eq_true, Family.accepts_skulpt_iff, h]
  obtain ⟨t, hraw, hruntime, hextract⟩ :=
    Family.extract_of_accepts (Family.accepts_pyodide_iff.2 (.inr (.inr h)))
  refine ⟨t, fun code => Family.pyodide.context raw.toList code t.line, hraw, hruntime, ?_⟩
  intro code
  rw [extract_builtin, Family.extract_of_not_accepts hskulpt, hextract]
  rfl

theorem reads_skulpt (h : ¬Mentions "pyodide" raw.toList) (hmark : SkulptMarked raw.toList) :
    ∃ t window, ReadsAs raw .skulpt t window := by
  obtain ⟨t, hraw, hruntime, hextract⟩ :=
    Family.extract_of_accepts (Family.accepts_skulpt_iff.2 ⟨h, hmark⟩)
  refine ⟨t, fun code => Family.skulpt.context raw.toList code t.line, hraw, hruntime, ?_⟩
  intro code
  rw [extract_builtin, hextract]
  rfl

/-- Whatever marks a text for `pyodide` but its name marks it for `skulpt` as well. -/
theorem extract_of_unmarked (h : ¬Mentions "pyodide" raw.toList)
    (hmark : ¬SkulptMarked raw.toList) :
    Family.skulpt.extract raw code = none ∧ Family.pyodide.extract raw code = none := by
  have hskulpt : Family.skulpt.accepts raw.toList = false := by
    simp [← Bool.not_eq_true, Family.accepts_skulpt_iff, hmark]
  have hpyodide : Family.pyodide.accepts raw.toList = false := by
    rw [← Bool.not_eq_true, Family.accepts_pyodide_iff]
    rintro (herror | htraceback | hname)
    · exact hmark (.inl herror)
    · exact hmark (.inr (.inl htraceback))
    · exact h hname
  exact ⟨Family.extract_of_not_accepts hskulpt code, Family.extract_of_not_accepts hpyodide code⟩

theorem reads_unknown (h : ¬Mentions "pyodide" raw.toList) (hmark : ¬SkulptMarked raw.toList) :
    ReadsAs raw .unknown (Trace.generic raw) fun _ => {} where
  raw := rfl
  runtime := rfl
  extract_eq code := by
    obtain ⟨hskulpt, hpyodide⟩ := extract_of_unmarked code h hmark
    rw [extract_builtin, hskulpt, hpyodide]
    rfl

theorem ReadsAs.runtime_extract {runtime : Runtime} {t : Trace}
    {window : Option String → Source.Window} (h : ReadsAs raw runtime t window) :
    (builtin.extract raw code).runtime = runtime := by
  rw [h.extract_eq]
  exact h.runtime

theorem exists_readsAs (raw : String) :
    ∃ runtime t window, ReadsAs raw runtime t window ∧
      (runtime = .pyodide ↔ Mentions "pyodide" raw.toList) ∧
      (runtime = .skulpt ↔ ¬Mentions "pyodide" raw.toList ∧ SkulptMarked raw.toList) := by
  by_cases h : Mentions "pyodide" raw.toList
  · obtain ⟨t, window, hreads⟩ := reads_pyodide h
    exact ⟨_, t, window, hreads, by simp [h], by simp [h]⟩
  · by_cases hmark : SkulptMarked raw.toList
    · obtain ⟨t, window, hreads⟩ := reads_skulpt h hmark
      exact ⟨_, t, window, hreads, by simp [h], by simp [h, hmark]⟩
    · exact ⟨_, _, _, reads_unknown h hmark, by simp [h], by simp [hmark]⟩

def skulptOnly : Registry := empty.register "skulpt" Family.skulpt.extract

theorem extract_skulptOnly :
    skulptOnly.extract raw code = (Family.skulpt.extract raw code).getD (Trace.generic raw) := by
  have hentries : skulptOnly.adapters.entries = [("skulpt", Family.skulpt.extract)] := rfl
  rw [extract, hentries]
  cases hs : Family.skulpt.extract raw code <;> simp [hs]

/-- Without the word `pyodide` a text is taken by the first adapter or declined by the second. -/
theorem isSome_or_declined (h : ¬Mentions "pyodide" raw.toList) :
    (Family.skulpt.extract raw code).isSome = true ∨ Family.pyodide.extract raw code = none := by
  by_cases hmark : SkulptMarked raw.toList
  · obtain ⟨t, -, -, hextract⟩ :=
      Family.extract_of_accepts (Family.accepts_skulpt_iff.2 ⟨h, hmark⟩)
    exact .inl (by rw [hextract]; rfl)
  · exact .inr (extract_of_unmarked code h hmark).2

/-- The bundled adapters part all texts, by what is in the text and never by the source. A text that
mentions `pyodide` is read by that family, any other with a marker of `skulpt` by this one, and the
rest by none, so that a kind and a message are all that is known. The text itself is kept. Two
sources give traces that differ in the lines of code alone. Without the word the adapter for
`pyodide` has no part in the answer. -/
theorem extract_builtin_partition (raw : String) (code : Option String) :
    ∃ t, builtin.extract raw code = t ∧ t.raw = raw ∧
    (t.runtime = .pyodide ↔ Mentions "pyodide" raw.toList) ∧
    (t.runtime = .skulpt ↔ ¬Mentions "pyodide" raw.toList ∧ SkulptMarked raw.toList) ∧
    (t.runtime = .unknown ↔ ¬Mentions "pyodide" raw.toList ∧ ¬SkulptMarked raw.toList) ∧
    (t.runtime = .unknown → t.name = none ∧ t.file = none ∧ t.line = none ∧ t.col = none ∧
      t.frames = [] ∧ t.codeLine = none ∧ t.codeBefore = [] ∧ t.codeAfter = []) ∧
    (∀ code', t.SameButCode (builtin.extract raw code')) ∧
    (¬Mentions "pyodide" raw.toList → t = skulptOnly.extract raw code ∧
      ((Family.skulpt.extract raw code).isSome = true ∨
        Family.pyodide.extract raw code = none)) := by
  obtain ⟨runtime, t, window, hreads, hpyodide, hskulpt⟩ := exists_readsAs raw
  have hruntime : (builtin.extract raw code).runtime = runtime := hreads.runtime_extract code
  have hunknown :
      runtime = .unknown ↔ ¬Mentions "pyodide" raw.toList ∧ ¬SkulptMarked raw.toList := by
    rw [← hpyodide]
    by_cases hmark : SkulptMarked raw.toList <;> cases runtime <;> simp_all
  refine ⟨_, rfl, ?_, ?_, ?_, ?_, ?_, ?_, ?_⟩
  · rw [hreads.extract_eq]
    exact hreads.raw
  · rw [hruntime, hpyodide]
  · rw [hruntime, hskulpt]
  · rw [hruntime, hunknown]
  · intro hnone
    obtain ⟨hno, hmark⟩ := hunknown.1 (hruntime.symm.trans hnone)
    rw [(reads_unknown hno hmark).extract_eq]
    exact ⟨rfl, rfl, rfl, rfl, rfl, rfl, rfl, rfl⟩
  · intro code'
    rw [hreads.extract_eq, hreads.extract_eq]
    exact t.sameButCode_withWindow _ _
  · intro hno
    have hdeclined := isSome_or_declined code hno
    refine ⟨?_, hdeclined⟩
    rw [extract_builtin, extract_skulptOnly]
    rcases hdeclined with hsome | hnone
    · rw [Option.or_of_isSome hsome]
    · rw [hnone, Option.or_none]

/-- A text with a marker of both families, in other letters, belongs to the second. -/
theorem extract_builtin_partition_sample :
    (builtin.extract "PyOdide: on line 1" none).runtime = .pyodide ∧
      (builtin.extract "PyOdide: on line 1" (some "x")).runtime = .pyodide := by
  have hmentions : Mentions "pyodide" "PyOdide: on line 1".toList :=
    ⟨[], "PyOdide".toList, ": on line 1".toList, by decide +kernel,
      by unfold InAnyCase; decide +kernel⟩
  obtain ⟨-, rfl, -, hnone, -⟩ := extract_builtin_partition "PyOdide: on line 1" none
  obtain ⟨-, rfl, -, hsome, -⟩ := extract_builtin_partition "PyOdide: on line 1" (some "x")
  exact ⟨hnone.2 hmentions, hsome.2 hmentions⟩

end Registry
end ErrorGuide
