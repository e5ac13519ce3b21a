import ErrorGuide.Failure
import ErrorGuide.Guide
import ErrorGuide.Json.Reader
import ErrorGuide.Trace.Codec

/-! Errors as they are handed in: a text, or a trace written as JSON. -/

namespace ErrorGuide
open Text

namespace ErrorInput

/-- A JSON object with a `raw` field is a trace; anything else is an error text. -/
def ofText (s : String) : Except Failure ErrorInput :=
  let cs := (trimStart s).toList
  if cs.head? ≠ some '\x7b' then .ok (.text s)
  else match Json.ofText (String.ofList cs) with
    | .error _ => .ok (.text s)
    | .ok j =>
      if (j.field? "raw").isNone then .ok (.text s)
      else match Json.decodeValue Trace.decode j with
        | .ok t => .ok (.trace t)
        | .error cause => .error ⟨"parse trace json", [cause.message]⟩

end ErrorInput

def explainText (d : Deck) (error : String) (code : Option String) (audience : Audience)
    (verbosity : Verbosity) : Except Failure Explanation := do
  let input ← ErrorInput.ofText error
  let guide := Guide.load {} d
  (guide.explain { input, code, audience, verbosity }).mapError fun f =>
    ⟨"explain error", [f.message]⟩

end ErrorGuide
