import ErrorGuide.Text.Lines
import ErrorGuide.Text.Scan
import ErrorGuide.Text.Trim

/-! The tail of an error text: its last line, which names the kind of error and its message. -/

namespace ErrorGuide.Trace
open Text Unicode

def linesOf (raw : List Char) : List (List Char) :=
  (lines (strip isBlank raw)).filter (· ≠ [])

def tailOf (lines : List (List Char)) : List Char := lines.getLast?.getD []

def kindEnding : List Char := "Error".toList

def isKind (word : List Char) : Bool :=
  kindEnding.isSuffixOf word && kindEnding.length < word.length

def kindAndMessage? (line : List Char) : Option (List Char × List Char) :=
  let word := line.takeWhile isWord
  match (line.dropWhile isWord).dropWhile isBlank with
  | ':' :: rest => if isKind word then some (word, rest.dropWhile isBlank) else none
  | _ => none

/-- The last line of an error text, taken apart; without a kind all of it is message. -/
structure Tail where
  kind : Option String
  message : String
deriving Repr, DecidableEq

def readTail (line : List Char) : Tail :=
  match kindAndMessage? line with
  | some (kind, message) => ⟨some (String.ofList kind), String.ofList message⟩
  | none => ⟨none, String.ofList line⟩

def isQuote (c : Char) : Bool := c = '"' || c = '\x27'

def quotedScan : Scanner (List Char)
  | _, [] => none
  | _, c :: cs => do
    guard (isQuote c)
    let (name, cs) ← run (!isQuote ·) cs
    match cs with
    | [] => none
    | _ :: cs => return (name, cs)

def quotedName (message : String) : Option String :=
  (leftmost quotedScan message.toList).map fun found => String.ofList found.value

end ErrorGuide.Trace
