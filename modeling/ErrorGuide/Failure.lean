import ErrorGuide.Text.Decimal
import ErrorGuide.Text.Join
import ErrorGuide.Text.Lines

/-! Failures as they are reported: a message with the causes under it, the outermost first. -/

namespace ErrorGuide

structure Failure where
  message : String
  causes : List String := []
deriving Repr, DecidableEq

namespace Failure

def within (context : String) (f : Failure) : Failure := ⟨context, f.message :: f.causes⟩

def oneLine (f : Failure) : String := Text.join ": " (f.message :: f.causes)

def block (mark indent : String) (cause : String) : String :=
  mark ++ Text.join ("\n" ++ indent)
    ((Text.splitNewlines cause.toList).map String.ofList)

def causeBlocks : List String → List String
  | [] => []
  | [cause] => [block "    " "    " cause]
  | causes => causes.mapIdx fun i cause =>
    block ("    " ++ String.ofList (Text.decimal i) ++ ": ") "       " cause

def report (f : Failure) : String :=
  "Error: " ++ f.message ++
    if f.causes.isEmpty then ""
    else "\n\nCaused by:\n" ++ Text.join "\n" (causeBlocks f.causes)

end Failure
end ErrorGuide
