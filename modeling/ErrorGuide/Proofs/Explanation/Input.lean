import ErrorGuide.Explanation.Input
import ErrorGuide.Proofs.Trace.Codec

/-! Traces handed in as texts: whatever text a trace is written as, it is that trace that is
explained. -/

namespace ErrorGuide
open Json Text Unicode

namespace Trace
variable (t : Trace)

theorem head_of_mem_texts {s : String} (hs : s ∈ t.encode.texts) :
    s.toList.head? = some '\x7b' := by
  simp only [texts, List.mem_cons, List.not_mem_nil, or_false] at hs
  obtain rfl | rfl := hs
  · rw [toCompact, String.toList_ofList]
    rfl
  · rw [toPretty, String.toList_ofList]
    rfl

/-- Whatever the order of its fields, the value of a trace has the field that marks it as one. -/
theorem raw_sorted : (sorted t.encode).field? "raw" = some (.str t.raw) := by
  obtain ⟨fields', hfields, hperm⟩ := reordering_sorted.obj t.encode.fields t.nodup_fields
  have hsorted : sorted t.encode = .obj fields' := hfields
  have hmem : ("raw", Json.str t.raw) ∈ fields' :=
    hperm.mem_iff.2 (List.mem_map.2 ⟨("raw", .str t.raw), by simp [encode, fields], rfl⟩)
  have hnodup : (fields'.map (·.1)).Nodup := by
    have hnames := hperm.map (·.1)
    rw [hnames.nodup_iff]
    simpa [Function.comp_def] using t.nodup_fields
  rw [hsorted, field?, (lookup_eq_some_iff_mem hnodup).2 hmem]

end Trace

theorem trimStart_blanks {blanks : List Char} (hblanks : ∀ c ∈ blanks, isBlank c = true)
    {s : String} (hs : ∀ c ∈ s.toList.head?, isBlank c = false) :
    trimStart (String.ofList blanks ++ s) = s := by
  rw [trimStart, String.toList_append, String.toList_ofList, List.dropWhile_append_of_pos hblanks]
  cases hcs : s.toList with
  | nil => rw [List.dropWhile_nil, ← hcs, String.ofList_toList]
  | cons c cs =>
    have hc : isBlank c = false := hs c (by simp [hcs])
    rw [List.dropWhile_cons_of_neg (by simp [hc]), ← hcs, String.ofList_toList]

theorem ErrorInput.ofText_trace {t : Trace} {s : String} (hs : s ∈ t.encode.texts)
    {blanks : List Char} (hblanks : ∀ c ∈ blanks, isBlank c = true) :
    ofText (String.ofList blanks ++ s) = .ok (.trace t) := by
  have hhead := t.head_of_mem_texts hs
  have htrim : trimStart (String.ofList blanks ++ s) = s :=
    trimStart_blanks hblanks (by simp only [hhead, Option.mem_some_iff]; rintro _ rfl; decide)
  have hvalue : Json.ofText s = .ok (sorted t.encode) := by
    refine ofText_of_readText (readText_of_mem_texts t.readable_encode.legible hs) ?_
    exact Nat.lt_of_le_of_lt t.readable_encode.nesting_le (by decide)
  have hdecode : decodeValue Trace.decode (sorted t.encode) = .ok t :=
    Trace.decode_encode reordering_sorted t .value
  simp [ofText, htrim, hhead, hvalue, t.raw_sorted, hdecode]

/-- A trace that is handed in as a text, with any blanks in front, is read as that trace, and
explained as it is. -/
theorem Trace.explained_from_text (t : Trace) {s : String} (hs : s ∈ t.encode.texts)
    {blanks : List Char} (hblanks : ∀ c ∈ blanks, isBlank c = true) :
    ErrorInput.ofText (String.ofList blanks ++ s) = .ok (.trace t) ∧
      ∀ (d : Deck) (code : Option String) (audience : Audience) (verbosity : Verbosity),
        ∃ e, explainText d (String.ofList blanks ++ s) code audience verbosity = .ok e ∧
          (Guide.load {} d).explain { input := .trace t, code, audience, verbosity } = .ok e := by
  have hinput := ErrorInput.ofText_trace hs hblanks
  refine ⟨hinput, fun d code audience verbosity => ?_⟩
  refine ⟨d.explain ((Guide.load {} d).trace { input := .trace t, code, audience, verbosity })
    audience verbosity, ?_, rfl⟩
  rw [explainText, hinput]
  rfl

namespace Trace

/-- A trace with two frames, and with characters that JSON texts escape. -/
def recorded : Trace where
  kind := some "NameError"
  message := "no 'é\t'"
  raw := "NameError: no 'é\t'\n"
  file := some "C:\\a.py"
  line := some 3
  frames := [{ file := some "C:\\a.py", line := some 3, func := some "f" }, { line := some 7 }]
  name := some "é\t"
  codeLine := some "a = \"\x01\""
  codeBefore := ["if b:"]
  runtime := .pyodide

def recordedText : String :=
  "\x7b\"type\":\"NameError\",\"message\":\"no 'é\\t'\",\"raw\":\"NameError: no 'é\\t'\\n\"," ++
    "\"file\":\"C:\\\\a.py\",\"line\":3," ++
    "\"frames\":[\x7b\"file\":\"C:\\\\a.py\",\"line\":3,\"func\":\"f\"\x7d,\x7b\"line\":7\x7d]," ++
    "\"name\":\"é\\t\",\"codeLine\":\"a = \\\"\\u0001\\\"\",\"codeBefore\":[\"if b:\"]," ++
    "\"runtime\":\"pyodide\"\x7d"

theorem recorded_toCompact : recorded.encode.toCompact = recordedText := by
  decide +kernel

theorem explained_from_recordedText :
    ErrorInput.ofText (String.ofList ['\n', '\u3000'] ++ recordedText) = .ok (.trace recorded) ∧
      ∀ (d : Deck) (code : Option String) (audience : Audience) (verbosity : Verbosity),
        ∃ e, explainText d (String.ofList ['\n', '\u3000'] ++ recordedText) code audience verbosity =
            .ok e ∧
          (Guide.load {} d).explain { input := .trace recorded, code, audience, verbosity } =
            .ok e := by
  have hs : recordedText ∈ recorded.encode.texts := recorded_toCompact ▸ List.mem_cons_self
  exact explained_from_text recorded hs (List.all_eq_true.1 rfl)

end Trace
end ErrorGuide
