/-! Lines of a text. A line ends at a newline, and a carriage return right before it is no part of
the line. -/

namespace ErrorGuide.Text

def splitNewlines : List Char → List (List Char)
  | [] => [[]]
  | c :: rest =>
    if c = '\n' then [] :: splitNewlines rest
    else match splitNewlines rest with
      | piece :: pieces => (c :: piece) :: pieces
      | [] => [[c]]

def dropReturn (piece : List Char) : List Char :=
  if piece.getLast? = some '\r' then piece.dropLast else piece

/-- The lines of a text: a newline ends one, so none follows the last newline, and a last line
without a newline stays as it is. -/
def terminatedLines : List (List Char) → List (List Char)
  | [] => []
  | [last] => if last = [] then [] else [last]
  | piece :: pieces => dropReturn piece :: terminatedLines pieces

def lines (cs : List Char) : List (List Char) := terminatedLines (splitNewlines cs)

def sourceLines (cs : List Char) : List (List Char) := (splitNewlines cs).map dropReturn

end ErrorGuide.Text
