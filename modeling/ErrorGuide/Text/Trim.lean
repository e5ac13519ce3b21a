import ErrorGuide.Unicode.Blank

/-! Trimming: white space of any kind is taken off the ends of a text. -/

namespace ErrorGuide.Text
open Unicode

def dropTailWhile (p : Char → Bool) (cs : List Char) : List Char :=
  (cs.reverse.dropWhile p).reverse

def strip (p : Char → Bool) (cs : List Char) : List Char :=
  dropTailWhile p (cs.dropWhile p)

def trimStart (s : String) : String := String.ofList (s.toList.dropWhile isBlank)

def trimEnd (s : String) : String := String.ofList (dropTailWhile isBlank s.toList)

def trim (s : String) : String := String.ofList (strip isBlank s.toList)

def isBlankText (s : String) : Bool := s.toList.all isBlank

end ErrorGuide.Text
