import ErrorGuide.Adapter.Family

/-! The families that are known, and the reading of texts that belong to none. -/

namespace ErrorGuide
open Text Marker

namespace Family

def skulpt : Family where
  runtime := .skulpt
  fallback := some (.tail, atLineIn)
  markers := [errorEnding, anywhere "Traceback", anywhere "skulpt", onLine]
  rejects := [anywhere "pyodide"]

def pyodide : Family where
  runtime := .pyodide
  column := some Marker.column
  fallback := some (.raw, onLineOf)
  snippet := some onLineOfThen
  markers := [errorEnding, anywhere "Traceback", anywhere "pyodide"]

end Family

namespace Trace

def generic (raw : String) : Trace :=
  let tail := readTail (tailOf (linesOf raw.toList))
  { kind := tail.kind, message := tail.message, raw }

end Trace
end ErrorGuide
