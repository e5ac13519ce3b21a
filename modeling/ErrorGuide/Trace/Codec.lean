import ErrorGuide.Trace.Basic
import ErrorGuide.Json.Decode

/-! Traces as JSON. Absent and empty parts are left out, but the kind, the message, the raw text and
the runtime are always written. -/

namespace ErrorGuide
open Json

namespace Json

def optionalField {α : Type} (name : String) (encode : α → Json) :
    Option α → List (String × Json)
  | some a => [(name, encode a)]
  | none => []

def listField {α : Type} (name : String) (encode : α → Json) : List α → List (String × Json)
  | [] => []
  | items => [(name, .arr (items.map encode))]

def word (n : UInt32) : Json := .num (.whole n.toNat)

end Json

namespace Runtime

def choices : List (String × Runtime) :=
  [("skulpt", .skulpt), ("pyodide", .pyodide), ("unknown", .unknown)]

def decode (origin : Origin) : Decoder Runtime := choice origin choices

def encode (r : Runtime) : Json := .str r.name

end Runtime

namespace Frame

def encode (f : Frame) : Json :=
  .obj (optionalField "file" .str f.file ++ optionalField "line" word f.line ++
    optionalField "func" .str f.func)

structure Slots where
  file : Option (Option String) := none
  line : Option (Option UInt32) := none
  func : Option (Option String) := none

def Slots.step (s : Slots) (name : String) (d : Doc) : Except Cause Slots := do
  match name with
  | "file" => return { s with file := ← slot name s.file (optional text) d }
  | "line" => return { s with line := ← slot name s.line (optional word32) d }
  | "func" => return { s with func := ← slot name s.func (optional text) d }
  | _ =>
    ignore d
    return s

def ofEntries (entries : Entries) : Except Cause Frame := do
  let s ← entries.fold Slots.step {}
  return ⟨s.file.join, s.line.join, s.func.join⟩

def ofItems (items : Items) : Except Cause (Frame × Items) := do
  let (file, items) ← items.next (optional text)
  let (line, items) ← items.next (optional word32)
  let (func, items) ← items.next (optional text)
  return (⟨file.join, line.join, func.join⟩, items)

def decode (origin : Origin) : Decoder Frame := record origin "Frame" ofItems ofEntries

end Frame

namespace Trace

def encode (t : Trace) : Json :=
  .obj ([("type", match t.kind with
      | some k => .str k
      | none => .null),
    ("message", .str t.message), ("raw", .str t.raw)] ++
    optionalField "file" .str t.file ++ optionalField "line" word t.line ++
    optionalField "col" word t.col ++ listField "frames" Frame.encode t.frames ++
    optionalField "name" .str t.name ++ optionalField "codeLine" .str t.codeLine ++
    listField "codeBefore" .str t.codeBefore ++ listField "codeAfter" .str t.codeAfter ++
    [("runtime", t.runtime.encode)])

structure Slots where
  kind : Option (Option String) := none
  message : Option String := none
  raw : Option String := none
  file : Option (Option String) := none
  line : Option (Option UInt32) := none
  col : Option (Option UInt32) := none
  frames : Option (List Frame) := none
  name : Option (Option String) := none
  codeLine : Option (Option String) := none
  codeBefore : Option (List String) := none
  codeAfter : Option (List String) := none
  runtime : Option Runtime := none

def Slots.step (origin : Origin) (s : Slots) (name : String) (d : Doc) : Except Cause Slots := do
  match name with
  | "type" => return { s with kind := ← slot name s.kind (optional text) d }
  | "message" => return { s with message := ← slot name s.message text d }
  | "raw" => return { s with raw := ← slot name s.raw text d }
  | "file" => return { s with file := ← slot name s.file (optional text) d }
  | "line" => return { s with line := ← slot name s.line (optional word32) d }
  | "col" => return { s with col := ← slot name s.col (optional word32) d }
  | "frames" => return { s with frames := ← slot name s.frames (list (Frame.decode origin)) d }
  | "name" => return { s with name := ← slot name s.name (optional text) d }
  | "codeLine" => return { s with codeLine := ← slot name s.codeLine (optional text) d }
  | "codeBefore" => return { s with codeBefore := ← slot name s.codeBefore (list text) d }
  | "codeAfter" => return { s with codeAfter := ← slot name s.codeAfter (list text) d }
  | "runtime" => return { s with runtime := ← slot name s.runtime (Runtime.decode origin) d }
  | _ =>
    ignore d
    return s

def ofEntries (origin : Origin) (entries : Entries) : Except Cause Trace := do
  let s ← entries.fold (Slots.step origin) {}
  let raw ← required "raw" s.raw
  return {
    kind := s.kind.join, message := s.message.getD "", raw, file := s.file.join,
    line := s.line.join, col := s.col.join, frames := s.frames.getD [], name := s.name.join,
    codeLine := s.codeLine.join, codeBefore := s.codeBefore.getD [],
    codeAfter := s.codeAfter.getD [], runtime := s.runtime.getD .unknown }

def ofItems (origin : Origin) (items : Items) : Except Cause (Trace × Items) := do
  let (kind, items) ← items.next (optional text)
  let (message, items) ← items.next text
  let (raw, items) ← items.need 2 "struct Trace with 12 elements" text
  let (file, items) ← items.next (optional text)
  let (line, items) ← items.next (optional word32)
  let (col, items) ← items.next (optional word32)
  let (frames, items) ← items.next (list (Frame.decode origin))
  let (name, items) ← items.next (optional text)
  let (codeLine, items) ← items.next (optional text)
  let (codeBefore, items) ← items.next (list text)
  let (codeAfter, items) ← items.next (list text)
  let (runtime, items) ← items.next (Runtime.decode origin)
  return ({
    kind := kind.join, message := message.getD "", raw, file := file.join, line := line.join,
    col := col.join, frames := frames.getD [], name := name.join, codeLine := codeLine.join,
    codeBefore := codeBefore.getD [], codeAfter := codeAfter.getD [],
    runtime := runtime.getD .unknown }, items)

def decode (origin : Origin) : Decoder Trace :=
  record origin "Trace" (ofItems origin) (ofEntries origin)

end Trace
end ErrorGuide
