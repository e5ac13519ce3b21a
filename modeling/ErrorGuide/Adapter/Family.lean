import ErrorGuide.Source.Window
import ErrorGuide.Trace.Marker
import ErrorGuide.Trace.Tail

/-! Families of interpreters. All families read their error texts in one way; a table says by which
markers they differ. -/

namespace ErrorGuide
open Text

inductive Scope where
  | tail
  | raw
deriving Repr, DecidableEq

structure Family where
  runtime : Runtime
  column : Option (Scanner (List Char)) := none
  /-- A place that is told without a frame; it is looked for if no frame tells a line number. -/
  fallback : Option (Scope × Scanner Marker.Place) := none
  snippet : Option (Scanner Unit) := none
  /-- A text is accepted only if it has one of these, if there are any. -/
  markers : List (Scanner Unit) := []
  rejects : List (Scanner Unit) := []

namespace Family

def accepts (f : Family) (raw : List Char) : Bool :=
  !f.rejects.any (occurs · raw) && (f.markers.isEmpty || f.markers.any (occurs · raw))

def framesIn (lines : List (List Char)) : List Frame :=
  lines.filterMap fun line => (leftmost Marker.frame line).map (·.value.frame)

def columnIn (f : Family) (lines : List (List Char)) : Option UInt32 := do
  let scan ← f.column
  let digits ← (lines.filterMap fun line => (leftmost scan line).map (·.value)).getLast?
  word32? digits

def fallbackPlace (f : Family) (lines : List (List Char)) (raw : List Char) :
    Option Marker.Place := do
  let (scope, scan) ← f.fallback
  let haystack := match scope with
    | .tail => Trace.tailOf lines
    | .raw => raw
  (leftmost scan haystack).map (·.value)

/-- The file and line that an error is located at: those of the last frame, or if it tells no line
number those of the secondary place. -/
def locate (last : Option Frame) (place : Option Marker.Place) : Option String × Option UInt32 :=
  let file := last.bind (·.file)
  match last.bind (·.line) with
  | some line => (file, some line)
  | none => match place with
    | some p => (some (String.ofList p.file), p.lineNumber)
    | none => (file, none)

def snippetLine (scan : Scanner Unit) (raw : List Char) : Option String := do
  let found ← leftmost scan raw
  let line ← ((lines found.after).map (strip Unicode.isBlank)).find?
    fun line => line ≠ [] && !line.all (· = '^')
  return String.ofList line

def context (f : Family) (raw : List Char) (code : Option String) (line : Option UInt32) :
    Source.Window :=
  match code, line with
  | some code, some line => Source.window code line
  | _, _ => { codeLine := f.snippet.bind (snippetLine · raw) }

def extract (f : Family) (raw : String) (code : Option String) : Option Trace :=
  let cs := raw.toList
  if f.accepts cs then
    let lines := Trace.linesOf cs
    let tail := Trace.readTail (Trace.tailOf lines)
    let frames := framesIn lines
    let (file, line) := locate frames.getLast? (f.fallbackPlace lines cs)
    let window := f.context cs code line
    some {
      kind := tail.kind
      message := tail.message
      raw
      file
      line
      col := f.columnIn lines
      frames
      name := Trace.quotedName tail.message
      codeLine := window.codeLine
      codeBefore := window.before
      codeAfter := window.after
      runtime := f.runtime }
  else none

end Family
end ErrorGuide
