import ErrorGuide.Json.Basic
import ErrorGuide.Number.Shortest
import ErrorGuide.Text.Decimal
import ErrorGuide.Text.Hex

/-! JSON texts of values: compact, and indented by two spaces a level. -/

namespace ErrorGuide.Json
open Text

def escapeChar (c : Char) : List Char :=
  if c = '"' then ['\\', '"']
  else if c = '\\' then ['\\', '\\']
  else if c = '\x08' then ['\\', 'b']
  else if c = '\x0c' then ['\\', 'f']
  else if c = '\n' then ['\\', 'n']
  else if c = '\r' then ['\\', 'r']
  else if c = '\t' then ['\\', 't']
  else if c.toNat < 0x20 then
    ['\\', 'u', '0', '0', hexDigit (c.toNat / 16), hexDigit (c.toNat % 16)]
  else [c]

def quote (s : List Char) : List Char := '"' :: s.flatMap escapeChar ++ ['"']

/-- How reals are written: exponents of the leading digit from `low` up to and without `high` go
without exponent mark. -/
structure RealStyle where
  low : Int
  high : Int

def realStyle : RealStyle := ⟨-5, 16⟩

/-- Digits with a point after the first `whole` of them, zeros filled in as needed. -/
def placePoint (digits : List Char) (whole : Int) : List Char :=
  if whole ≤ 0 then
    ['0', '.'] ++ List.replicate (-whole).toNat '0' ++ digits
  else if digits.length ≤ whole.toNat then
    digits ++ List.replicate (whole.toNat - digits.length) '0' ++ ['.', '0']
  else digits.take whole.toNat ++ ['.'] ++ digits.drop whole.toNat

def withExponent (digits : List Char) (e : Int) : List Char :=
  let fraction := match digits.drop 1 with
    | [] => []
    | more => '.' :: more
  digits.take 1 ++ fraction ++ ['e', if e < 0 then '-' else '+'] ++ decimal e.natAbs

def realDigits (magnitude : Nat) : List Char :=
  if magnitude = 0 then ['0', '.', '0']
  else
    let d := Binary64.shortest magnitude
    let digits := decimal d.coefficient
    let lead := d.exponent + Int.ofNat digits.length - 1
    if realStyle.low ≤ lead ∧ lead < realStyle.high then placePoint digits (lead + 1)
    else withExponent digits lead

def Number.print : Number → List Char
  | .whole n => decimal n
  | .negative n => '-' :: decimal n
  | .real x => (if x.negative then ['-'] else []) ++ realDigits x.magnitude

mutual

def compact : Json → List Char
  | .null => ['n', 'u', 'l', 'l']
  | .bool true => ['t', 'r', 'u', 'e']
  | .bool false => ['f', 'a', 'l', 's', 'e']
  | .num n => n.print
  | .str s => quote s.toList
  | .arr [] => ['[', ']']
  | .arr (item :: items) => '[' :: compact item ++ compactItems items
  | .obj [] => ['\x7b', '\x7d']
  | .obj ((name, value) :: fields) =>
    '\x7b' :: quote name.toList ++ ':' :: compact value ++ compactFields fields

def compactItems : List Json → List Char
  | [] => [']']
  | item :: items => ',' :: compact item ++ compactItems items

def compactFields : List (String × Json) → List Char
  | [] => ['\x7d']
  | (name, value) :: fields =>
    ',' :: quote name.toList ++ ':' :: compact value ++ compactFields fields

end

def newline (level : Nat) : List Char := '\n' :: List.replicate (2 * level) ' '

mutual

def indented (level : Nat) : Json → List Char
  | .null => ['n', 'u', 'l', 'l']
  | .bool true => ['t', 'r', 'u', 'e']
  | .bool false => ['f', 'a', 'l', 's', 'e']
  | .num n => n.print
  | .str s => quote s.toList
  | .arr [] => ['[', ']']
  | .arr (item :: items) =>
    '[' :: newline (level + 1) ++ indented (level + 1) item ++ indentedItems level items
  | .obj [] => ['\x7b', '\x7d']
  | .obj ((name, value) :: fields) =>
    '\x7b' :: newline (level + 1) ++ quote name.toList ++ [':', ' '] ++
      indented (level + 1) value ++ indentedFields level fields

def indentedItems (level : Nat) : List Json → List Char
  | [] => newline level ++ [']']
  | item :: items =>
    ',' :: newline (level + 1) ++ indented (level + 1) item ++ indentedItems level items

def indentedFields (level : Nat) : List (String × Json) → List Char
  | [] => newline level ++ ['\x7d']
  | (name, value) :: fields =>
    ',' :: newline (level + 1) ++ quote name.toList ++ [':', ' '] ++
      indented (level + 1) value ++ indentedFields level fields

end

def toCompact (j : Json) : String := String.ofList (compact j)

def toPretty (j : Json) : String := String.ofList (indented 0 j)

end ErrorGuide.Json
