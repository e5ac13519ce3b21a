import ErrorGuide.Unicode.Blank
import ErrorGuide.Unicode.Fold
import ErrorGuide.Unicode.Word

/-! Scanners: readers of a fixed shape at one place of a text, and the search for the leftmost
place where one succeeds. A scanner sees the character before its place and gives what it read
together with the rest of the text. -/

namespace ErrorGuide.Text
open Unicode

/-- Reads at a place, given the character before it. -/
abbrev Scanner (α : Type) := Option Char → List Char → Option (α × List Char)

def phrase : List Char → List Char → Option (List Char)
  | [], cs => some cs
  | _ :: _, [] => none
  | a :: w, c :: cs => if sameFold a c then phrase w cs else none

def exactly (a : Char) : List Char → Option (List Char)
  | [] => none
  | c :: cs => if c = a then some cs else none

def run (p : Char → Bool) (cs : List Char) : Option (List Char × List Char) :=
  match cs.takeWhile p with
  | [] => none
  | taken => some (taken, cs.dropWhile p)

def blanks (cs : List Char) : Option (List Char) := (run isBlank cs).map (·.2)

def wordMayStart (before : Option Char) : Bool := !before.any isWord

def wordMayEnd (cs : List Char) : Bool := !cs.head?.any isWord

structure Found (α : Type) where
  before : List Char
  value : α
  after : List Char
deriving Repr, DecidableEq

/-- The success at the leftmost place of `cs`, which follows the character `prev`. -/
def leftmostFrom {α : Type} (f : Scanner α) (prev : Option Char) : List Char → Option (Found α)
  | [] => (f prev []).map fun (a, rest) => ⟨[], a, rest⟩
  | c :: cs => match f prev (c :: cs) with
    | some (a, rest) => some ⟨[], a, rest⟩
    | none => (leftmostFrom f (some c) cs).map fun found =>
      { found with before := c :: found.before }

def leftmost {α : Type} (f : Scanner α) (cs : List Char) : Option (Found α) :=
  leftmostFrom f none cs

def occurs {α : Type} (f : Scanner α) (cs : List Char) : Bool := (leftmost f cs).isSome

end ErrorGuide.Text
