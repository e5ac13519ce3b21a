import ErrorGuide.Schema.Basic
import ErrorGuide.Text.Join

/-! The schemas that are published: those of decks, traces and explanations. -/

namespace ErrorGuide.Schema
open Text

def optionalText (name : String) (description : Option String := none) : Field × Schema :=
  ({ name, description }, .nullable .text)

def optionalTexts (name : String) (description : Option String := none) : Field × Schema :=
  ({ name, description }, .list .text)

def requiredText (name : String) (description : Option String := none) : Field × Schema :=
  ({ name, description, required := true }, .text)

def optionalWord (name : String) : Field × Schema := ({ name }, .nullable .word)

/-! Decks. -/

def edition : Schema :=
  .named "DeckMeta" none (.record [
    requiredText "language",
    ({ name := "version", required := true,
       description := some "Any JSON number; authors use `1`, `1.5` and the like." }, .number)])

def labels : Schema :=
  .named "UiStrings"
    (some "Deck-supplied UI strings. Missing or empty entries fall back to English defaults.")
    (.record [optionalText "line", optionalText "in", optionalText "thisFile",
      optionalText "errorDetails", optionalText "error", optionalText "pythonError",
      optionalText "fallbackSummary", optionalText "fallbackWhy", optionalText "fallbackStep"])

def rules : Schema :=
  .named "GlossaryRules" (some "Ordered `term -> replacement` rules for one audience.") (.map .text)

def condition : Schema :=
  .named "Condition" (some "Four independent filters; an empty list imposes no constraint.")
    (.record [
      optionalTexts "match_message" (some "At least one must match the message."),
      optionalTexts "not_message" (some "None may match the message."),
      optionalTexts "match_code" (some "At least one must match the offending code line."),
      optionalTexts "not_code" (some "None may match the offending code line.")])

def variant : Schema :=
  .named "Variant"
    (some ("One candidate explanation. Templates may use `\x7b\x7bloc\x7d\x7d`, " ++
      "`\x7b\x7bname\x7d\x7d` and `\x7b\x7bcodeLine\x7d\x7d`."))
    (.record [
      ({ name := "if" }, .nullable condition),
      requiredText "title",
      requiredText "summary",
      optionalText "why",
      optionalTexts "steps",
      optionalTexts "badges"])

def kindEntry : Schema :=
  .named "KindEntry" none (.record [
    ({ name := "variants", default := some (.arr []) }, .list variant)])

def deck : Schema :=
  .named "CopyDeck"
    (some (join "\n" ["Versioned, localized catalog of explanations.", "",
      "Key order of `glossary` and `errors` is preserved from the source document: glossary rules",
      "are applied in that order."]))
    (.record [
      ({ name := "meta", required := true }, edition),
      ({ name := "ui", description :=
          some "Short UI strings used for locations and the generic fallback explanation." }, labels),
      ({ name := "glossary", description :=
          some "Audience tag -> ordered vocabulary rules." }, .map rules),
      ({ name := "errors", required := true, description :=
          some "Error kind -> ordered variants. `Other` is the reserved catch-all." },
        .map kindEntry)])

/-! Traces. -/

def runtime : Schema :=
  .named "Runtime" (some "Runtime family that produced a trace.")
    (.choice ["skulpt", "pyodide", "unknown"])

def frame : Schema :=
  .named "Frame"
    (some "One `File \"...\", line N, in F` entry of a traceback, outermost first.")
    (.record [optionalText "file", optionalWord "line", optionalText "func"])

def trace : Schema :=
  .named "Trace"
    (some (join "\n" ["Normalized, best-effort description of one error occurrence.", "",
      "Only `raw` is guaranteed; every other field is whatever the extractor could recover.",
      "A value that deserializes with a `raw` key is treated as already normalized and is never",
      "re-parsed."]))
    (.record [
      ({ name := "type", description := some "Error-kind token, e.g. `NameError`.",
         default := some .null }, .nullable .text),
      ({ name := "message", default := some (.str "") }, .text),
      requiredText "raw" (some "Original diagnostic text, verbatim."),
      optionalText "file",
      optionalWord "line",
      optionalWord "col",
      ({ name := "frames" }, .list frame),
      optionalText "name"
        (some "Identifier quoted in the message (undefined name, missing attribute, ...)."),
      optionalText "codeLine" (some "Offending source line, trimmed."),
      optionalTexts "codeBefore",
      optionalTexts "codeAfter",
      ({ name := "runtime", default := some (.str "unknown") }, runtime)])

/-! Explanations. -/

def explanation : Schema :=
  .named "ExplainResult" (some "Rendered explanation handed back to callers.")
    (.record [
      ({ name := "trace", required := true }, trace),
      requiredText "variantId",
      requiredText "title",
      requiredText "summary",
      optionalText "why",
      optionalTexts "steps",
      optionalTexts "badges",
      optionalText "patch"
        (some "Corrected version of the offending line(s), when a heuristic recognized the shape."),
      optionalText "html" (some "Pre-rendered display fragment.")])

structure Published where
  fileName : String
  schema : Schema

def published : List Published := [
  ⟨"pfem.copydeck.v1.json", deck⟩,
  ⟨"pfem.trace.v1.json", trace⟩,
  ⟨"pfem.explain-result.v1.json", explanation⟩]

end ErrorGuide.Schema
