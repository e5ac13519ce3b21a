import ErrorGuide.Text.Lines
import ErrorGuide.Text.Trim

/-! The source around a reported line. -/

namespace ErrorGuide.Source
open Text

def contextLines : Nat := 2

def linesOf (code : String) : List (List Char) := sourceLines code.toList

def lineAt? (lines : List (List Char)) : Nat → Option String
  | 0 => none
  | n + 1 => lines[n]?.map fun line => String.ofList (strip Unicode.isBlank line)

def codeLine (code : String) (line : UInt32) : Option String := lineAt? (linesOf code) line.toNat

/-- The offending line, trimmed, and the lines next to it as they are. -/
structure Window where
  codeLine : Option String := none
  before : List String := []
  after : List String := []
deriving Repr, DecidableEq

/-- The window around line number `n`, clipped to the lines that there are. -/
def windowAt (lines : List (List Char)) : Nat → Window
  | 0 => {}
  | n + 1 => {
      codeLine := lineAt? lines (n + 1)
      before := ((lines.take n).drop (n - contextLines)).map String.ofList
      after := ((lines.drop (n + 1)).take contextLines).map String.ofList }

def window (code : String) (line : UInt32) : Window := windowAt (linesOf code) line.toNat

end ErrorGuide.Source
