import ErrorGuide.Explanation.Basic
import ErrorGuide.Text.Join

/-! Explanations as Markdown. -/

namespace ErrorGuide.Explanation
open Text

def markdown (e : Explanation) : String :=
  "### " ++ e.title ++ "\n\n" ++ e.summary ++ "\n\n" ++
    (match e.why with
      | some why => "> " ++ why ++ "\n\n"
      | none => "") ++
    concat (e.steps.map fun step => "- " ++ step ++ "\n") ++
    (if e.steps = [] then "" else "\n") ++
    (match e.patch with
      | some patch => "```python\n" ++ patch ++ "\n```\n\n"
      | none => "") ++
    "<sub>`" ++ e.variantId.text ++ "` · " ++ e.trace.kind.getD "Error" ++ ": " ++
    e.trace.message ++ "</sub>\n"

end ErrorGuide.Explanation
