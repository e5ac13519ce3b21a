import ErrorGuide.Explanation.Basic
import ErrorGuide.Text.Join
import ErrorGuide.Text.Lines

/-! Explanations as plain text for a terminal. -/

namespace ErrorGuide.Explanation
open Text

def numberedSteps (n : Nat) : List String → String
  | [] => ""
  | step :: steps =>
    String.ofList (decimal n) ++ ". " ++ step ++ "\n" ++ numberedSteps (n + 1) steps

def indentedLines (s : String) : String :=
  concat ((lines s.toList).map fun line => "    " ++ String.ofList line ++ "\n")

def plain (e : Explanation) : String :=
  e.title ++ "\n" ++ String.ofList (List.replicate e.title.toList.length '=') ++ "\n\n" ++
    e.summary ++ "\n" ++
    (match e.why with
      | some why => "\n" ++ why ++ "\n"
      | none => "") ++
    (if e.steps = [] then "" else "\n" ++ numberedSteps 1 e.steps) ++
    (match e.patch with
      | some patch => "\nTry:\n" ++ indentedLines patch
      | none => "") ++
    (if e.badges = [] then "" else "\n[" ++ join "] [" e.badges ++ "]\n")

end ErrorGuide.Explanation
