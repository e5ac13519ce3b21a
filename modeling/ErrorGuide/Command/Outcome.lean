import ErrorGuide.Failure

/-! What a command leaves behind. -/

namespace ErrorGuide.Command

structure Outcome where
  stdout : String := ""
  notes : String := ""
  warnings : List String := []
  failure : Option Failure := none
  exitCode : UInt32 := 0
deriving Repr, DecidableEq

def Outcome.ofFailure (f : Failure) : Outcome := { failure := some f, exitCode := 1 }

end ErrorGuide.Command
