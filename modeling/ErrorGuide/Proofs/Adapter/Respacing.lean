import ErrorGuide.Proofs.Adapter.Dispatch
import ErrorGuide.Proofs.Text.InkedLines
import ErrorGuide.Proofs.Trace.Respacing

/-! What the adapters read in texts and sources whose lines end in another way, and in texts with
white space around them. It is the same but for the text itself: the lines of a trimmed text are the
same, and the markers that are looked for in the whole text are found in the same places. -/

namespace ErrorGuide
open Text Unicode

structure SameReport (raw raw' : List Char) : Prop where
  lines : Trace.linesOf raw' = Trace.linesOf raw
  repadded : Repadded raw raw'

/-- The text with other line ends, between two texts of white space. -/
theorem SameReport.of_relined {raw raw' before after : String} (h : Relined raw raw')
    (hb : isBlankText before = true) (ha : isBlankText after = true) :
    SameReport raw.toList (before ++ raw' ++ after).toList where
  lines := by
    rw [Trace.linesOf, Trace.linesOf, String.toList_append, String.toList_append,
      strip_append _ (List.all_eq_true.1 ha), strip_prepend _ (List.all_eq_true.1 hb),
      h.lines_strip]
  repadded := by
    refine ⟨before.toList, raw'.toList ++ after.toList, ?_, List.all_eq_true.1 hb, ?_⟩
    · rw [String.toList_append, String.toList_append, List.append_assoc]
    · cases h with
      | same => exact .append_padding _ (List.all_eq_true.1 ha)
      | returns hno =>
        rw [String.toList_ofList]
        exact .withReturns_append _ (List.all_eq_true.1 ha)

namespace Source
variable {code code' : String}

theorem linesOf_relined (h : Relined code code') : linesOf code' = linesOf code := by
  rw [linesOf, linesOf, h.sourceLines_eq]

theorem window_relined (h : Relined code code') (line : UInt32) :
    window code' line = window code line := by
  rw [window, window, linesOf_relined h]

theorem codeLine_relined (h : Relined code code') (line : UInt32) :
    codeLine code' line = codeLine code line := by
  rw [codeLine, codeLine, linesOf_relined h]

end Source

namespace Family

structure Steady (f : Family) : Prop where
  markers : ∀ m ∈ f.markers, Text.Steady m
  rejects : ∀ m ∈ f.rejects, Text.Steady m
  fallback : ∀ scan, f.fallback = some (.raw, scan) → Text.Steady scan
  snippet : ∀ scan ∈ f.snippet, Text.Steady scan

variable {f : Family} {raw raw' : List Char}

theorem any_occurs_eq {markers : List (Scanner Unit)} (hm : ∀ m ∈ markers, Text.Steady m)
    (h : Repadded raw raw') : markers.any (occurs · raw') = markers.any (occurs · raw) := by
  rw [Bool.eq_iff_iff, List.any_eq_true, List.any_eq_true]
  exact exists_congr fun m => and_congr_right fun hmem => by rw [h.occurs_eq (hm m hmem)]

theorem Steady.accepts_eq (hf : f.Steady) (h : Repadded raw raw') :
    f.accepts raw' = f.accepts raw := by
  rw [accepts, accepts, any_occurs_eq hf.rejects h, any_occurs_eq hf.markers h]

theorem Steady.fallbackPlace_eq (hf : f.Steady) (lines : List (List Char))
    (h : Repadded raw raw') : f.fallbackPlace lines raw' = f.fallbackPlace lines raw := by
  rw [fallbackPlace, fallbackPlace]
  cases hfallback : f.fallback with
  | none => rfl
  | some place =>
    obtain ⟨scope, scan⟩ := place
    cases scope with
    | tail => rfl
    | raw => exact h.value_eq (hf.fallback scan hfallback)

theorem snippetLine_eq {scan : Scanner Unit} (hscan : Text.Steady scan) (h : Repadded raw raw') :
    snippetLine scan raw' = snippetLine scan raw := by
  have hfound := h.leftmost hscan
  rw [snippetLine, snippetLine]
  generalize leftmost scan raw = o, leftmost scan raw' = o' at hfound
  cases hfound with
  | none => rfl
  | some halike =>
    rw [Option.bind_eq_bind, Option.bind_some, Option.bind_eq_bind, Option.bind_some,
      find?_map_strip rfl, find?_map_strip rfl, halike.2.inkedLines_eq]

theorem Steady.context_eq (hf : f.Steady) (h : Repadded raw raw') {code code' : Option String}
    (hcode : Option.Rel Relined code code') (line : Option UInt32) :
    f.context raw' code' line = f.context raw code line := by
  have hsnippet : f.snippet.bind (snippetLine · raw') = f.snippet.bind (snippetLine · raw) := by
    cases hs : f.snippet with
    | none => rfl
    | some scan => exact snippetLine_eq (hf.snippet scan hs) h
  cases hcode with
  | none => simp only [context, hsnippet]
  | some hcode =>
    cases line with
    | none => simp only [context, hsnippet]
    | some line => simp only [context, Source.window_relined hcode]

end Family

def Trace.withRaw (t : Trace) (raw : String) : Trace := { t with raw }

theorem Family.Steady.extract_eq {f : Family} (hf : f.Steady) {raw raw' : String}
    {code code' : Option String} (h : SameReport raw.toList raw'.toList)
    (hcode : Option.Rel Relined code code') :
    f.extract raw' code' = (f.extract raw code).map (·.withRaw raw') := by
  cases haccepts : f.accepts raw.toList with
  | false =>
    rw [extract_of_not_accepts haccepts,
      extract_of_not_accepts ((hf.accepts_eq h.repadded).trans haccepts)]
    rfl
  | true =>
    rcases hplace : locate (framesIn (Trace.linesOf raw.toList)).getLast?
        (f.fallbackPlace (Trace.linesOf raw.toList) raw.toList) with ⟨file, line⟩
    simp only [extract, haccepts, (hf.accepts_eq h.repadded).trans haccepts, if_true, h.lines,
      hf.fallbackPlace_eq _ h.repadded, hplace, hf.context_eq h.repadded hcode, Option.map_some,
      Trace.withRaw]

namespace Family

theorem solid_traceback : Marker.Solid "Traceback" := ⟨by decide, rfl⟩

theorem solid_skulpt : Marker.Solid "skulpt" := ⟨by decide, rfl⟩

theorem solid_pyodide : Marker.Solid "pyodide" := ⟨by decide, rfl⟩

theorem steady_skulpt : skulpt.Steady where
  markers := by
    simp only [skulpt, List.forall_mem_cons]
    exact ⟨Marker.steady_errorEnding, Marker.steady_anywhere solid_traceback,
      Marker.steady_anywhere solid_skulpt, Marker.steady_onLine, List.forall_mem_nil _⟩
  rejects := List.forall_mem_singleton.2 (Marker.steady_anywhere solid_pyodide)
  fallback scan h := by
    cases h
  snippet scan h := by
    cases h

theorem steady_pyodide : pyodide.Steady where
  markers := by
    simp only [pyodide, List.forall_mem_cons]
    exact ⟨Marker.steady_errorEnding, Marker.steady_anywhere solid_traceback,
      Marker.steady_anywhere solid_pyodide, List.forall_mem_nil _⟩
  rejects := List.forall_mem_nil _
  fallback scan h := by
    cases h
    exact Marker.steady_onLineOf
  snippet scan h := by
    cases h
    exact Marker.steady_onLineOfThen

end Family

/-- The bundled adapters read the same in both texts. -/
theorem Registry.extract_builtin_respaced {raw raw' : String} {code code' : Option String}
    (h : SameReport raw.toList raw'.toList) (hcode : Option.Rel Relined code code') :
    builtin.extract raw' code' = (builtin.extract raw code).withRaw raw' := by
  rw [extract_builtin, extract_builtin, Family.steady_skulpt.extract_eq h hcode,
    Family.steady_pyodide.extract_eq h hcode]
  cases Family.skulpt.extract raw code with
  | some t => rfl
  | none =>
    cases Family.pyodide.extract raw code with
    | some t => rfl
    | none =>
      simp only [Option.map_none, Option.or_none, Option.getD_none, Trace.generic, h.lines,
        Trace.withRaw]

end ErrorGuide
