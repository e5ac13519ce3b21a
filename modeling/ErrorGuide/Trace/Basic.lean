/-! Traces: what is known about one occurrence of an error. Only the raw text is always there. -/

namespace ErrorGuide

inductive Runtime where
  | skulpt
  | pyodide
  | unknown
deriving Repr, DecidableEq

def Runtime.name : Runtime → String
  | .skulpt => "skulpt"
  | .pyodide => "pyodide"
  | .unknown => "unknown"

structure Frame where
  file : Option String := none
  line : Option UInt32 := none
  func : Option String := none
deriving Repr, DecidableEq

/-- A normalised error. Frames come outermost first; `codeLine` is the offending line of the source,
trimmed, between `codeBefore` and `codeAfter`. -/
structure Trace where
  kind : Option String := none
  message : String := ""
  raw : String
  file : Option String := none
  line : Option UInt32 := none
  col : Option UInt32 := none
  frames : List Frame := []
  name : Option String := none
  codeLine : Option String := none
  codeBefore : List String := []
  codeAfter : List String := []
  runtime : Runtime := .unknown
deriving Repr, DecidableEq

namespace Trace

def ofRaw (raw : String) : Trace := { raw }

def codeText (t : Trace) : String := t.codeLine.getD ""

end Trace
end ErrorGuide
