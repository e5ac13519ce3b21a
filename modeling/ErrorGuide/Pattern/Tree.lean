/-! Patterns as they are written. -/

namespace ErrorGuide.Pattern

/-- A character that stands for itself. One that is written as a byte, in two hexadecimal digits,
is known as such. -/
structure Literal where
  char : Char
  asByte : Bool := false
deriving Repr, DecidableEq

inductive LetterClass where
  | digit
  | space
  | word
deriving Repr, DecidableEq

inductive AsciiClass where
  | alnum | alpha | ascii | blank | cntrl | digit | graph | lower | print | punct | space | upper
  | word | xdigit
deriving Repr, DecidableEq

def AsciiClass.ofName : String → Option AsciiClass
  | "alnum" => some .alnum
  | "alpha" => some .alpha
  | "ascii" => some .ascii
  | "blank" => some .blank
  | "cntrl" => some .cntrl
  | "digit" => some .digit
  | "graph" => some .graph
  | "lower" => some .lower
  | "print" => some .print
  | "punct" => some .punct
  | "space" => some .space
  | "upper" => some .upper
  | "word" => some .word
  | "xdigit" => some .xdigit
  | _ => none

inductive PropertyName where
  | named (name : String)
  | valued (name value : String)
deriving Repr, DecidableEq

inductive SetOperation where
  | intersection
  | difference
  | symmetricDifference
deriving Repr, DecidableEq

mutual

inductive SetItem where
  | single (l : Literal)
  | range (first last : Literal)
  | letter (k : LetterClass) (negated : Bool)
  | ascii (k : AsciiClass) (negated : Bool)
  | property (p : PropertyName) (negated : Bool)
  | nested (negated : Bool) (s : SetTree)

inductive SetTree where
  | union (items : List SetItem)
  | operation (op : SetOperation) (left right : SetTree)

end

inductive Assertion where
  | lineStart | lineEnd | textStart | textEnd
  | wordBoundary | notWordBoundary | wordStart | wordEnd | wordStartHalf | wordEndHalf
deriving Repr, DecidableEq

inductive Flag where
  | caseInsensitive | multiLine | dotMatchesNewline | swapGreed | unicode | crlf | extended
deriving Repr, DecidableEq

def Flag.ofChar : Char → Option Flag
  | 'i' => some .caseInsensitive
  | 'm' => some .multiLine
  | 's' => some .dotMatchesNewline
  | 'U' => some .swapGreed
  | 'u' => some .unicode
  | 'R' => some .crlf
  | 'x' => some .extended
  | _ => none

abbrev FlagChanges := List (Flag × Bool)

inductive Tree where
  | empty
  | literal (l : Literal)
  | dot
  | assertion (a : Assertion)
  | letter (k : LetterClass) (negated : Bool)
  | property (p : PropertyName) (negated : Bool)
  | bracket (negated : Bool) (s : SetTree)
  | repetition (least : Nat) (most : Option Nat) (greedy : Bool) (t : Tree)
  /-- A group in parentheses. One that starts with flags has no number. -/
  | group (numbered : Bool) (changes : FlagChanges) (t : Tree)
  | flags (changes : FlagChanges)
  | alternation (branches : List Tree)
  | concat (parts : List Tree)

def Tree.ofParts : List Tree → Tree
  | [] => .empty
  | [t] => t
  | parts => .concat parts

mutual

def SetItem.depth : SetItem → Nat
  | .nested _ s => s.depth + 1
  | _ => 0

def SetTree.depth : SetTree → Nat
  | .union [] => 0
  | .union [item] => item.depth
  | .union (item :: items) => max item.depth (itemsDepth items) + 1
  | .operation _ left right => max left.depth right.depth + 1

def itemsDepth : List SetItem → Nat
  | [] => 0
  | item :: items => max item.depth (itemsDepth items)

end

mutual

def Tree.depth : Tree → Nat
  | .bracket _ s => s.depth + 1
  | .repetition _ _ _ t => t.depth + 1
  | .group _ _ t => t.depth + 1
  | .alternation branches => treesDepth branches + 1
  | .concat parts => treesDepth parts + 1
  | _ => 0

def treesDepth : List Tree → Nat
  | [] => 0
  | t :: ts => max t.depth (treesDepth ts)

end

inductive Fault where
  | escapeInClass | classRangeOrder | classRangeBoundary | classUnclosed
  | decimalInvalid
  | hexEmpty | hexNotScalar | hexDigit
  | escapeEnd | escapeUnknown
  | negationDangling | flagTwice | negationTwice | flagEnd | flagUnknown
  | nameTwice | nameEmpty | nameCharacter | nameEnd
  | groupUnclosed | groupUnopened | nestedTooDeep
  | countOrder | countEmpty | countUnclosed | repetitionOfNothing
  | wordUnclosed | wordUnknown | wordEnd
  | propertySyntax | backreference | lookAround
  | unicodeNotAllowed | invalidUtf8
  | propertyNotFound | propertyValueNotFound
  | tooLarge
deriving Repr, DecidableEq

/-- How a fault is reported, with the pattern that has it. The report may go over several lines. -/
abbrev Wording := String → Fault → String

def nestLimit : Nat := 250

def Fault.message : Fault → String
  | .escapeInClass => "invalid escape sequence found in character class"
  | .classRangeOrder => "invalid character class range, the start must be <= the end"
  | .classRangeBoundary => "invalid range boundary, must be a literal"
  | .classUnclosed => "unclosed character class"
  | .decimalInvalid => "decimal literal invalid"
  | .hexEmpty => "hexadecimal literal empty"
  | .hexNotScalar => "hexadecimal literal is not a Unicode scalar value"
  | .hexDigit => "invalid hexadecimal digit"
  | .escapeEnd => "incomplete escape sequence, reached end of pattern prematurely"
  | .escapeUnknown => "unrecognized escape sequence"
  | .negationDangling => "dangling flag negation operator"
  | .flagTwice => "duplicate flag"
  | .negationTwice => "flag negation operator repeated"
  | .flagEnd => "expected flag but got end of regex"
  | .flagUnknown => "unrecognized flag"
  | .nameTwice => "duplicate capture group name"
  | .nameEmpty => "empty capture group name"
  | .nameCharacter => "invalid capture group character"
  | .nameEnd => "unclosed capture group name"
  | .groupUnclosed => "unclosed group"
  | .groupUnopened => "unopened group"
  | .nestedTooDeep => "exceed the maximum number of nested parentheses/brackets (250)"
  | .countOrder => "invalid repetition count range, the start must be <= the end"
  | .countEmpty => "repetition quantifier expects a valid decimal"
  | .countUnclosed => "unclosed counted repetition"
  | .repetitionOfNothing => "repetition operator missing expression"
  | .wordUnclosed =>
    "special word boundary assertion is either unclosed or contains an invalid character"
  | .wordUnknown =>
    "unrecognized special word boundary assertion, valid choices are: start, end, " ++
      "start-half or end-half"
  | .wordEnd =>
    "found either the beginning of a special word boundary or a bounded repetition on a \\b " ++
      "with an opening brace, but no closing brace"
  | .propertySyntax => "invalid Unicode character class"
  | .backreference => "backreferences are not supported"
  | .lookAround => "look-around, including look-ahead and look-behind, is not supported"
  | .unicodeNotAllowed => "Unicode not allowed here"
  | .invalidUtf8 => "pattern can match invalid UTF-8"
  | .propertyNotFound => "Unicode property not found"
  | .propertyValueNotFound => "Unicode property value not found"
  | .tooLarge => "Compiled regex exceeds size limit of 10485760 bytes."

end ErrorGuide.Pattern
