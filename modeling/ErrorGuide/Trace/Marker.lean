import ErrorGuide.Text.Decimal
import ErrorGuide.Text.Scan
import ErrorGuide.Trace.Basic

/-! Markers in error texts: the phrases by which interpreters tell places and themselves. All of
them are read in any case. -/

namespace ErrorGuide.Marker
open Text Unicode

structure Place where
  file : List Char
  line : List Char
deriving Repr, DecidableEq

def Place.lineNumber (p : Place) : Option UInt32 := word32? p.line

structure FrameText where
  place : Place
  func : Option (List Char)
deriving Repr, DecidableEq

def FrameText.frame (f : FrameText) : Frame :=
  ⟨some (String.ofList f.place.file), f.place.lineNumber, f.func.map String.ofList⟩

def spaced (w : String) (cs : List Char) : Option (List Char) := do
  let cs ← blanks cs
  let cs ← phrase w.toList cs
  blanks cs

def frameFunction (cs : List Char) : Option (List Char × List Char) := do
  let cs ← exactly ',' cs
  let cs ← spaced "in" cs
  run (!isBlank ·) cs

/-- A frame: `File "name", line 1` and perhaps `, in name`. -/
def frame : Scanner FrameText := fun _ cs => do
  let cs ← phrase "File".toList cs
  let cs ← blanks cs
  let cs ← exactly '"' cs
  let (file, cs) ← run (· ≠ '"') cs
  let cs ← exactly '"' cs
  let cs ← exactly ',' cs
  let cs ← spaced "line" cs
  let (line, cs) ← run isDigit cs
  match frameFunction cs with
  | some (func, cs) => return (⟨⟨file, line⟩, some func⟩, cs)
  | none => return (⟨⟨file, line⟩, none⟩, cs)

def column : Scanner (List Char) := fun _ cs => do
  let cs ← phrase "column".toList cs
  let cs ← blanks cs
  run isDigit cs

def isFileChar (c : Char) : Bool := !isBlank c && c ≠ ':'

def onLineOf : Scanner Place := fun _ cs => do
  let cs ← phrase "on".toList cs
  let cs ← spaced "line" cs
  let (line, cs) ← run isDigit cs
  let cs ← spaced "of" cs
  let (file, cs) ← run isFileChar cs
  return (⟨file, line⟩, cs)

def onLineOfThen : Scanner Unit := fun before cs => do
  let (_, cs) ← onLineOf before cs
  let cs ← exactly ':' cs
  return ((), cs)

def either (v w : String) (cs : List Char) : Option (List Char) :=
  (phrase v.toList cs).or (phrase w.toList cs)

/-- Gives back characters until a word starts or ends between what is kept and what follows. The
characters taken so far are in reverse. -/
def backToBoundary : List Char → List Char → Option (List Char × List Char)
  | [], _ => none
  | c :: taken, rest =>
    if isWord c == rest.head?.any isWord then backToBoundary taken (c :: rest)
    else some ((c :: taken).reverse, rest)

/-- A place at the start of a word: `on line 1 of name` or `at line 1 in name`, in which the name
ends where a word starts or ends. -/
def atLineIn : Scanner Place := fun before cs => do
  guard (wordMayStart before)
  let cs ← either "on" "at" cs
  let cs ← spaced "line" cs
  let (line, cs) ← run isDigit cs
  let cs ← blanks cs
  let cs ← either "of" "in" cs
  let cs ← blanks cs
  let (file, cs) ← run isFileChar cs
  let (file, cs) ← backToBoundary file.reverse cs
  return (⟨file, line⟩, cs)

def errorEnding : Scanner Unit := fun _ cs => do
  let cs ← phrase "Error".toList cs
  guard (wordMayEnd cs)
  return ((), cs)

def onLine : Scanner Unit := fun before cs => do
  guard (wordMayStart before)
  let cs ← phrase "on".toList cs
  let cs ← spaced "line" cs
  let (_, cs) ← run isDigit cs
  return ((), cs)

def anywhere (w : String) : Scanner Unit := fun _ cs => do
  let cs ← phrase w.toList cs
  return ((), cs)

end ErrorGuide.Marker
