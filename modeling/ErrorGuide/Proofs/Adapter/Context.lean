import ErrorGuide.Guide
import ErrorGuide.Proofs.Adapter.Dispatch
import ErrorGuide.Proofs.Adapter.Snippet
import ErrorGuide.Proofs.Source.Window

/-! The source that traces show. It is the window of the line that the trace tells, and nothing fills it
in later. Without a source or a line number it is the line that the error text quotes, for the family
that knows how. A place right behind the source has no line, but still lines before it. -/

namespace ErrorGuide
open Text

variable {raw : String} {code : Option String} {t : Trace}

namespace Family
variable {f : Family}

/-- A trace shows the context of the line that it tells. -/
theorem context_of_extract (h : f.extract raw code = some t) :
    t.runtime = f.runtime ∧
      f.context raw.toList code t.line = ⟨t.codeLine, t.codeBefore, t.codeAfter⟩ := by
  cases haccepts : f.accepts raw.toList with
  | false =>
    rw [extract_of_not_accepts haccepts] at h
    cases h
  | true =>
    obtain ⟨t', -, hruntime, hextract⟩ := extract_of_accepts haccepts
    rw [hextract] at h
    obtain rfl := Option.some.inj h
    exact ⟨hruntime, rfl⟩

theorem context_of_missing (f : Family) (raw : List Char) {line : Option UInt32}
    (h : code = none ∨ line = none) :
    f.context raw code line = { codeLine := f.snippet.bind (snippetLine · raw) } := by
  rw [context]
  intro source n hsource hn
  rw [hsource, hn] at h
  simp at h

theorem window_of_extract (h : f.extract raw code = some t) {source : String} {n : UInt32}
    (hsource : source ∈ code) (hn : n ∈ t.line) :
    Source.window source n = ⟨t.codeLine, t.codeBefore, t.codeAfter⟩ := by
  have hcontext := (context_of_extract h).2
  rwa [Option.mem_def.1 hsource, Option.mem_def.1 hn] at hcontext

/-- Without a line from the source only the lines before a place right behind it are shown. -/
theorem context_of_lacking (h : f.extract raw code = some t)
    (hlacks : code = none ∨ t.line = none ∨ t.codeLine = none) :
    t.codeAfter = [] ∧
      (t.codeBefore ≠ [] ↔ ∃ source ∈ code, ∃ n ∈ t.line, Source.IsRightBehind source n) := by
  by_cases hmissing : code = none ∨ t.line = none
  · have hcontext := (context_of_extract h).2
    rw [context_of_missing f raw.toList hmissing] at hcontext
    obtain ⟨-, hbefore, hafter⟩ := Source.Window.mk.inj hcontext
    refine ⟨hafter.symm, iff_of_false (not_not.2 hbefore.symm) ?_⟩
    intro hbehind
    obtain ⟨source, hsource, n, hn, -⟩ := hbehind
    rw [Option.mem_def.1 hsource, Option.mem_def.1 hn] at hmissing
    simp at hmissing
  · obtain ⟨hcode, hline⟩ := not_or.1 hmissing
    obtain ⟨source, rfl⟩ := Option.ne_none_iff_exists'.1 hcode
    obtain ⟨n, hn⟩ := Option.ne_none_iff_exists'.1 hline
    have hnone : t.codeLine = none := by simpa [hn] using hlacks
    have hwindow := window_of_extract h rfl hn
    have hsource : Source.codeLine source n = none := by
      rw [← Source.codeLine_window, hwindow, hnone]
    have hafter := Source.after_eq_nil hsource
    have hempty := Source.window_eq_empty_iff (isSource_sourceLines source.toList) hsource
    rw [hwindow] at hafter hempty
    dsimp only at hafter
    refine ⟨hafter, ?_⟩
    simp only [Option.mem_def, Option.some.injEq, exists_eq_left', hn]
    rw [← not_iff_not, ← hempty, not_not, hnone, hafter]
    simp
end Family

inductive Trace.IsBundled (raw : String) (code : Option String) : Trace → Prop
  | skulpt {t : Trace} (h : Family.skulpt.extract raw code = some t) : IsBundled raw code t
  | pyodide {t : Trace} (h : Family.pyodide.extract raw code = some t) : IsBundled raw code t
  | generic : IsBundled raw code (generic raw)

theorem Registry.isBundled_extract_builtin (raw : String) (code : Option String) :
    Trace.IsBundled raw code (builtin.extract raw code) := by
  rw [extract_builtin]
  cases hs : Family.skulpt.extract raw code with
  | some t => exact .skulpt hs
  | none =>
    cases hp : Family.pyodide.extract raw code with
    | some t => exact .pyodide hp
    | none => exact .generic

namespace Trace

theorem IsBundled.window_eq (h : IsBundled raw code t) {source : String} {n : UInt32}
    (hsource : source ∈ code) (hn : n ∈ t.line) :
    Source.window source n = ⟨t.codeLine, t.codeBefore, t.codeAfter⟩ := by
  cases h with
  | skulpt h => exact Family.window_of_extract h hsource hn
  | pyodide h => exact Family.window_of_extract h hsource hn
  | generic => cases hn

/-- Without a source, or without the number of a line, a trace shows the line that the text quotes if it
is of the family `pyodide`, and no other one does. -/
theorem IsBundled.quoted_iff (h : IsBundled raw code t) (hmissing : code = none ∨ t.line = none)
    (text : String) :
    t.codeLine = some text ↔ t.runtime = .pyodide ∧ Quotes raw.toList text.toList := by
  have hfamily {f : Family} (h : f.extract raw code = some t) :
      t.runtime = f.runtime ∧ t.codeLine = f.snippet.bind (Family.snippetLine · raw.toList) := by
    obtain ⟨hruntime, hcontext⟩ := Family.context_of_extract h
    rw [Family.context_of_missing f raw.toList hmissing] at hcontext
    exact ⟨hruntime, (congrArg Source.Window.codeLine hcontext).symm⟩
  cases h with
  | skulpt h =>
    obtain ⟨hruntime, hline⟩ := hfamily h
    rw [hruntime, hline]
    simp [Family.skulpt]
  | pyodide h =>
    obtain ⟨hruntime, hline⟩ := hfamily h
    rw [hruntime, hline, ← Family.snippetLine_eq_some_iff]
    exact (and_iff_right rfl).symm
  | generic => simp [Trace.generic]

theorem IsBundled.codeLine_normal (h : IsBundled raw code t) {text : String}
    (htext : t.codeLine = some text) : Trimmed text.toList ∧ '\n' ∉ text.toList := by
  by_cases hmissing : code = none ∨ t.line = none
  · exact ((h.quoted_iff hmissing text).1 htext).2.normal
  · obtain ⟨hcode, hline⟩ := not_or.1 hmissing
    obtain ⟨source, hsource⟩ := Option.ne_none_iff_exists'.1 hcode
    obtain ⟨n, hn⟩ := Option.ne_none_iff_exists'.1 hline
    have hwindow := congrArg Source.Window.codeLine (h.window_eq hsource hn)
    rw [Source.codeLine_window, htext] at hwindow
    exact Source.codeLine_normal hwindow

/-- The line that could be filled in is the one of the window, which is there or cannot be had. -/
theorem IsBundled.withCode_eq (h : IsBundled raw code t) : t.withCode code = t := by
  unfold withCode
  split
  · next source n hnone hn =>
    have hwindow := congrArg Source.Window.codeLine (h.window_eq rfl hn)
    rw [Source.codeLine_window] at hwindow
    rw [hwindow]
  · rfl

end Trace

/-- What is shown of a source is exact. The window of a line that the source has shows this line and up
to two on each side; at every place it has the line that is looked up alone, which is trimmed and without
newlines. So where the bundled adapters have read a text nothing is left to be filled in. Without a source
or a line number only the family `pyodide` shows a line, the one that the text quotes. -/
theorem Guide.context_exact :
    (∀ code : String, ∃ lines, (∀ other, IsSource code.toList other ↔ other = lines) ∧
      ∀ n : UInt32, 1 ≤ n.toNat → n.toNat ≤ lines.length →
        (Source.window code n).Shows lines n.toNat) ∧
    (∀ (code : String) (n : UInt32), (Source.window code n).codeLine = Source.codeLine code n ∧
      ∀ text ∈ Source.codeLine code n, Trimmed text.toList ∧ '\n' ∉ text.toList) ∧
    (∀ (g : Guide) (r : Request) (raw : String), g.registry = .builtin → r.input = .text raw →
      g.trace r = Registry.builtin.extract raw r.code ∧ (g.trace r).IsBundled raw r.code) ∧
    ∀ (raw : String) (code : Option String) (t : Trace), t.IsBundled raw code →
      (∀ source ∈ code, ∀ n ∈ t.line,
        Source.window source n = ⟨t.codeLine, t.codeBefore, t.codeAfter⟩) ∧
      (code = none ∨ t.line = none → ∀ text,
        t.codeLine = some text ↔ t.runtime = .pyodide ∧ Quotes raw.toList text.toList) ∧
      ∀ text ∈ t.codeLine, Trimmed text.toList ∧ '\n' ∉ text.toList := by
  refine ⟨fun code => ⟨Source.linesOf code, ?_, ?_⟩, ?_, ?_, ?_⟩
  · intro other
    rw [← Source.linesOf_eq_iff, eq_comm]
  · intro n hpos hn
    exact Source.shows_windowAt hpos hn
  · intro code n
    exact ⟨Source.codeLine_window code n, fun text htext => Source.codeLine_normal htext⟩
  · intro g r raw hregistry hinput
    have hbundled := Registry.isBundled_extract_builtin raw r.code
    have htrace : g.trace r = Registry.builtin.extract raw r.code := by
      rw [trace, hregistry, hinput]
      exact hbundled.withCode_eq
    exact ⟨htrace, htrace ▸ hbundled⟩
  · intro raw code t h
    exact ⟨fun _ hsource _ hn => h.window_eq hsource hn, h.quoted_iff,
      fun text htext => h.codeLine_normal htext⟩

def Source.mixed : String := "a = 1\r\n\tb = 2 \nc"

def Trace.quoting : String := "pyodide: bad input on line 4 of main.py:\r\n  ^\n  while x > 0\n  ^\n"

/-- The line in the middle is shown with both others, and a text without a source shows its own line. -/
theorem Guide.context_exact_sample :
    (∃ lines, (Source.window Source.mixed 2).Shows lines 2) ∧
    (({} : Guide).trace { input := .text Trace.quoting }).codeLine = some "while x > 0" := by
  obtain ⟨hlines, -, htrace, hbundled⟩ := context_exact
  constructor
  · obtain ⟨lines, honly, hshows⟩ := hlines Source.mixed
    have hsource : Source.linesOf Source.mixed = lines :=
      (honly _).1 (Source.linesOf_eq_iff.1 rfl)
    exact ⟨lines, hshows 2 (by decide) (hsource ▸ by decide)⟩
  · obtain ⟨heq, h⟩ := htrace {} { input := .text Trace.quoting } Trace.quoting rfl rfl
    have hruntime : (Registry.builtin.extract Trace.quoting none).runtime = .pyodide := by
      decide +kernel
    have hquotes : Quotes Trace.quoting.toList "while x > 0".toList :=
      Family.snippetLine_eq_some_iff.1 (by decide +kernel)
    exact ((hbundled _ _ _ h).2.1 (.inl rfl) _).2 ⟨heq ▸ hruntime, hquotes⟩

/-- A place outside the source has no line, and nothing after it is shown. A place before the first line
or far behind the last one shows nothing, but one that is one or two lines behind it still shows the
lines up to two before it. So a trace without a line from the source has lines before that one just if
its place is right behind the source. -/
theorem Family.context_outside (code : String) (n : UInt32) :
    (∀ lines, IsSource code.toList lines →
      (Source.codeLine code n = none ↔ n = 0 ∨ lines.length < n.toNat) ∧
      (Source.IsRightBehind code n ↔ lines.length < n.toNat ∧ n.toNat ≤ lines.length + 2) ∧
      (lines.length < n.toNat → (Source.window code n).Overhangs lines n.toNat)) ∧
    (Source.codeLine code n = none →
      (Source.window code n = {} ↔ ¬Source.IsRightBehind code n)) ∧
    ∀ (f : Family) (raw : String) (source? : Option String) (t : Trace),
      f.extract raw source? = some t → source? = none ∨ t.line = none ∨ t.codeLine = none →
      t.codeAfter = [] ∧
        (t.codeBefore ≠ [] ↔ ∃ source ∈ source?, ∃ n ∈ t.line, Source.IsRightBehind source n) := by
  refine ⟨?_, ?_, ?_⟩
  · intro lines hlines
    exact ⟨Source.codeLine_eq_none_iff hlines, Source.isRightBehind_iff hlines,
      Source.overhangs_window hlines⟩
  · intro hnone
    exact Source.window_eq_empty_iff (isSource_sourceLines code.toList) hnone
  · intro f raw source? t h hlacks
    exact context_of_lacking h hlacks

def Source.unclosed : String := "x = 1\ny = ("

def Trace.atEnd : String := "File \"main.py\", line 3\nSyntaxError: unexpected EOF while parsing"

theorem Source.isRightBehind_unclosed : IsRightBehind unclosed 3 :=
  ⟨_, isSource_sourceLines _, by decide, by decide⟩

theorem Family.extract_atEnd : ∃ t, skulpt.extract Trace.atEnd (some Source.unclosed) = some t ∧
    t.line = some 3 ∧ t.codeLine = none := by
  have hplace : (skulpt.extract Trace.atEnd (some Source.unclosed)).map
      (fun t => (t.line, t.codeLine)) = some (some 3, none) := by decide +kernel
  obtain ⟨t, ht, hparts⟩ := Option.map_eq_some_iff.1 hplace
  exact ⟨t, ht, Prod.mk.inj hparts⟩

/-- Both lines before the end are shown, without a line of their own. -/
theorem Family.context_outside_atEnd :
    (Source.window Source.unclosed 3).Overhangs (Source.linesOf Source.unclosed) 3 ∧
    Source.window Source.unclosed 3 ≠ {} ∧
    ∃ t, skulpt.extract Trace.atEnd (some Source.unclosed) = some t ∧ t.codeAfter = [] ∧
      t.codeBefore ≠ [] := by
  obtain ⟨hsource, hwindow, htrace⟩ := context_outside Source.unclosed 3
  obtain ⟨hnone, -, hover⟩ := hsource _ (isSource_sourceLines _)
  obtain ⟨t, ht, hline, hcode⟩ := extract_atEnd
  obtain ⟨hafter, hbefore⟩ := htrace _ _ _ t ht (.inr (.inr hcode))
  refine ⟨hover (by decide), ?_, t, ht, hafter, ?_⟩
  · intro hempty
    exact (hwindow (hnone.2 (.inr (by decide)))).1 hempty Source.isRightBehind_unclosed
  · exact hbefore.2 ⟨_, rfl, 3, hline, Source.isRightBehind_unclosed⟩

/-- Right behind the source the window is not empty, and a trace shows lines before a line that it has
not got. -/
theorem Family.not_forall_context_empty :
    (¬∀ (code : String) (lines : List (List Char)) (n : UInt32), IsSource code.toList lines →
      n = 0 ∨ lines.length < n.toNat → Source.window code n = {}) ∧
    ¬∀ (f : Family) (raw : String) (code : Option String) (t : Trace), f.extract raw code = some t →
      t.codeLine = none → t.codeBefore = [] ∧ t.codeAfter = [] := by
  constructor
  · intro h
    have hempty := h Source.unclosed _ 3 (isSource_sourceLines _) (.inr (by decide))
    exact absurd hempty (by decide)
  · intro h
    obtain ⟨t, ht, hline, hcode⟩ := extract_atEnd
    have hbefore := (context_of_lacking ht (.inr (.inr hcode))).2
    exact hbefore.2 ⟨_, rfl, 3, hline, Source.isRightBehind_unclosed⟩ (h _ _ _ t ht hcode).1

end ErrorGuide
