import ErrorGuide.Guide
import ErrorGuide.Proofs.Adapter.Respacing

/-! Explanations of texts and sources with other line ends, and of texts with white space around
them. Nothing is explained in another way, and only the text itself is told as it was handed in. -/

namespace ErrorGuide
open Text

def Explanation.withRaw (e : Explanation) (raw : String) : Explanation :=
  { e with trace := e.trace.withRaw raw }

theorem Explanation.trimFor_withRaw (e : Explanation) (raw : String) (verbosity : Verbosity) :
    (e.withRaw raw).trimFor verbosity = (e.trimFor verbosity).withRaw raw := by
  cases verbosity <;> rfl

namespace Trace
variable (t : Trace) (raw : String)

theorem rules_withRaw : ∀ rule ∈ Patch.catalog,
    rule.applies (t.withRaw raw) = rule.applies t ∧ rule.apply (t.withRaw raw) = rule.apply t := by
  simp only [Patch.catalog, List.forall_mem_cons]
  exact ⟨⟨rfl, rfl⟩, ⟨rfl, rfl⟩, ⟨rfl, rfl⟩, ⟨rfl, rfl⟩, List.forall_mem_nil _⟩

theorem patch_withRaw : (t.withRaw raw).patch = t.patch := by
  have hrules := t.rules_withRaw raw
  rw [patch, patch, List.find?_congr fun rule hrule => (hrules rule hrule).1]
  cases hfind : Patch.catalog.find? (·.applies t) with
  | none => rfl
  | some rule => exact (hrules rule (List.mem_of_find?_eq_some hfind)).2

/-- The line that is taken from the source does not tell how its lines end. -/
theorem withCode_withRaw {code code' : Option String} (hcode : Option.Rel Relined code code') :
    (t.withRaw raw).withCode code' = (t.withCode code).withRaw raw := by
  cases hcodeLine : t.codeLine with
  | some text => simp [withCode, withRaw, hcodeLine]
  | none =>
    cases hcode with
    | none => simp [withCode, withRaw, hcodeLine]
    | some hcode =>
      cases hline : t.line with
      | none => simp [withCode, withRaw, hcodeLine, hline]
      | some n => simp [withCode, withRaw, hcodeLine, hline, Source.codeLine_relined hcode]

end Trace

theorem Explanation.ofVariant_withRaw (d : Deck) (t : Trace) (raw : String) (key : EntryKey)
    (index : Nat) (v : Variant) (audience : Audience) (verbosity : Verbosity) :
    ofVariant d (t.withRaw raw) key index v audience verbosity =
      (ofVariant d t key index v audience verbosity).withRaw raw := by
  rw [ofVariant, ofVariant, fragment, fragment, t.patch_withRaw]
  rfl

/-- Of a trace the raw text alone has no part in what is said of it. -/
theorem Deck.explain_withRaw (d : Deck) (t : Trace) (raw : String) (audience : Audience)
    (verbosity : Verbosity) :
    d.explain (t.withRaw raw) audience verbosity =
      (d.explain t audience verbosity).withRaw raw := by
  have hselect : d.select (t.withRaw raw) = d.select t := rfl
  rw [explain, explain, hselect, ← Explanation.trimFor_withRaw]
  cases d.select t with
  | matched key index v =>
    exact congrArg _ (Explanation.ofVariant_withRaw d t raw key index v audience verbosity)
  | noEntry key => rfl
  | noMatch key => rfl

/-- However the lines of a text and of the source end, and whatever white space is around the text,
the bundled adapters make the same trace but for the raw text, and every deck explains it in the same
way. -/
theorem explain_respaced {raw raw' before after : String} {code code' : Option String}
    (hraw : Relined raw raw') (hcode : Option.Rel Relined code code')
    (hbefore : isBlankText before = true) (hafter : isBlankText after = true) :
    Registry.builtin.extract (before ++ raw' ++ after) code' =
        (Registry.builtin.extract raw code).withRaw (before ++ raw' ++ after) ∧
      ∀ (d : Deck) (audience : Audience) (verbosity : Verbosity), ∃ e,
        (Guide.load {} d).explain { input := .text raw, code, audience, verbosity } = .ok e ∧
        (Guide.load {} d).explain
            { input := .text (before ++ raw' ++ after), code := code', audience, verbosity } =
          .ok (e.withRaw (before ++ raw' ++ after)) := by
  have hextract := Registry.extract_builtin_respaced (.of_relined hraw hbefore hafter) hcode
  refine ⟨hextract, fun d audience verbosity => ⟨_, rfl, congrArg Except.ok ?_⟩⟩
  have htrace : (Guide.load {} d).trace
      { input := .text (before ++ raw' ++ after), code := code', audience, verbosity } =
      ((Guide.load {} d).trace { input := .text raw, code, audience, verbosity }).withRaw
        (before ++ raw' ++ after) :=
    (congrArg (Trace.withCode · code') hextract).trans (Trace.withCode_withRaw _ _ hcode)
  rw [htrace, Deck.explain_withRaw]

/-- A place at the end of a line, and a source whose second line is shown. -/
theorem explain_respaced_sample :
    Registry.builtin.extract
        ("\t\n" ++ "pyodide on line 2 of a.py:\r\n^\r\nNameError: y" ++ "\r") (some "x\r\n y") =
      { kind := some "NameError", message := "y"
        raw := "\t\n" ++ "pyodide on line 2 of a.py:\r\n^\r\nNameError: y" ++ "\r"
        file := some "a.py", line := some 2, codeLine := some "y", codeBefore := ["x"]
        runtime := .pyodide } := by
  have hraw : Relined "pyodide on line 2 of a.py:\n^\nNameError: y"
      "pyodide on line 2 of a.py:\r\n^\r\nNameError: y" := .returns (by decide +kernel)
  have hcode : Relined "x\n y" "x\r\n y" := .returns (by decide +kernel)
  have hblank : isBlankText "\t\n" = true ∧ isBlankText "\r" = true := by decide +kernel
  rw [(explain_respaced hraw (.some hcode) hblank.1 hblank.2).1]
  decide +kernel

end ErrorGuide
