import ErrorGuide.Pattern.Tree
import ErrorGuide.Text.Hex
import ErrorGuide.Unicode.Blank
import ErrorGuide.Unicode.Category
import ErrorGuide.Unicode.Property

/-! Reading of patterns. In extended mode white space and comments between the parts of a pattern
are passed over. -/

namespace ErrorGuide.Pattern
open Text Unicode

/-- Passes over white space and over comments, which start with a number sign and end with the
line. -/
def skipExtended (inComment : Bool) : List Char → List Char
  | [] => []
  | c :: cs =>
    if inComment then skipExtended (c ≠ '\n') cs
    else if isBlank c then skipExtended false cs
    else if c = '#' then skipExtended true cs
    else c :: cs

def skip (extended : Bool) (cs : List Char) : List Char :=
  if extended then skipExtended false cs else cs

/-- The character to come after a hyphen. In extended mode a number sign among the white space is
passed over once. -/
def peek (extended : Bool) (cs : List Char) : Option Char :=
  if extended then
    let next := match cs.dropWhile isBlank with
      | '#' :: more => more.dropWhile isBlank
      | more => more
    if next = [] then cs.head? else next.head?
  else cs.head?

/-! Escapes. -/

inductive Primitive where
  | literal (l : Literal)
  | dot
  | assertion (a : Assertion)
  | letter (k : LetterClass) (negated : Bool)
  | property (p : PropertyName) (negated : Bool)

def Primitive.tree : Primitive → Tree
  | .literal l => .literal l
  | .dot => .dot
  | .assertion a => .assertion a
  | .letter k negated => .letter k negated
  | .property p negated => .property p negated

def scalar (n : Nat) : Except Fault Char :=
  if h : n.isValidChar then .ok (Char.ofNatAux n h) else .error .hexNotScalar

def fixedHex (extended : Bool) : Nat → Nat → List Char → Except Fault (Nat × List Char)
  | 0, value, cs => .ok (value, cs)
  | _ + 1, _, [] => .error .escapeEnd
  | n + 1, value, c :: cs => match hexValue? c with
    | some d => fixedHex extended n (16 * value + d) (skip extended cs)
    | none => .error .hexDigit

def bracedHex (extended : Bool) : Nat → Option Nat → List Char → Except Fault (Nat × List Char)
  | 0, _, _ => .error .escapeEnd
  | fuel + 1, value, cs => match skip extended cs with
    | [] => .error .escapeEnd
    | c :: cs =>
      if c = '\x7d' then match value with
        | some n => .ok (n, skip extended cs)
        | none => .error .hexEmpty
      else match hexValue? c with
        | some d => bracedHex extended fuel (some (16 * value.getD 0 + d)) cs
        | none => .error .hexDigit

def readHex (extended : Bool) (digits : Nat) (cs : List Char) :
    Except Fault (Primitive × List Char) :=
  match skip extended cs with
  | [] => .error .escapeEnd
  | c :: rest =>
    if c = '\x7b' then do
      let (n, cs) ← bracedHex extended cs.length none rest
      return (.literal { char := ← scalar n }, cs)
    else do
      let (n, cs) ← fixedHex extended digits 0 (c :: rest)
      return (.literal { char := ← scalar n, asByte := digits = 2 }, cs)

def bracedName (extended : Bool) : Nat → List Char → Except Fault (List Char × List Char)
  | 0, _ => .error .escapeEnd
  | fuel + 1, cs => match skip extended cs with
    | [] => .error .escapeEnd
    | c :: cs =>
      if c = '\x7d' then .ok ([], cs)
      else do
        let (name, cs) ← bracedName extended fuel cs
        return (c :: name, cs)

def splitFirst? (sep : List Char) : List Char → Option (List Char × List Char)
  | [] => none
  | c :: cs =>
    if sep.isPrefixOf (c :: cs) then some ([], (c :: cs).drop sep.length)
    else (splitFirst? sep cs).map fun (before, after) => (c :: before, after)

/-- A name, or a name and a value on both sides of a sign; the sign of inequality tells nothing more
than the others. -/
def propertyName (cs : List Char) : PropertyName :=
  let split := ((splitFirst? ['!', '='] cs).or (splitFirst? [':'] cs)).or (splitFirst? ['='] cs)
  match split with
  | some (name, value) => .valued (String.ofList name) (String.ofList value)
  | none => .named (String.ofList cs)

def readProperty (extended negated : Bool) (cs : List Char) :
    Except Fault (Primitive × List Char) :=
  match skip extended cs with
  | [] => .error .escapeEnd
  | c :: rest =>
    if c = '\x7b' then do
      let (name, cs) ← bracedName extended cs.length rest
      return (.property (propertyName name) negated, cs)
    else if c = '\\' then .error .propertySyntax
    else .ok (.property (.named (String.ofList [c])) negated, skip extended rest)

def isWordName (c : Char) : Bool := c.isAlpha || c = '-'

def wordName (extended : Bool) : Nat → List Char → List Char × List Char
  | 0, cs => ([], cs)
  | _ + 1, [] => ([], [])
  | fuel + 1, c :: cs =>
    if isWordName c then
      let (name, cs) := wordName extended fuel (skip extended cs)
      (c :: name, cs)
    else ([], c :: cs)

def wordAssertion? (name : List Char) : Option Assertion :=
  if name = "start".toList then some .wordStart
  else if name = "end".toList then some .wordEnd
  else if name = "start-half".toList then some .wordStartHalf
  else if name = "end-half".toList then some .wordEndHalf
  else none

def readBoundary (extended : Bool) : List Char → Except Fault (Primitive × List Char)
  | '\x7b' :: cs => match skip extended cs with
    | [] => .error .wordEnd
    | c :: rest =>
      if isWordName c then
        let (name, after) := wordName extended cs.length (c :: rest)
        match after with
        | '\x7d' :: after => match wordAssertion? name with
          | some a => .ok (.assertion a, after)
          | none => .error .wordUnknown
        | _ => .error .wordUnclosed
      else .ok (.assertion .wordBoundary, '\x7b' :: cs)
  | cs => .ok (.assertion .wordBoundary, cs)

def isEscapable (c : Char) : Bool :=
  c.toNat < 0x80 && !c.isAlphanum && c ≠ '<' && c ≠ '>'

def readEscape (extended : Bool) : List Char → Except Fault (Primitive × List Char)
  | [] => .error .escapeEnd
  | c :: cs => match c with
    | 'x' => readHex extended 2 cs
    | 'u' => readHex extended 4 cs
    | 'U' => readHex extended 8 cs
    | 'p' => readProperty extended false cs
    | 'P' => readProperty extended true cs
    | 'd' => .ok (.letter .digit false, cs)
    | 'D' => .ok (.letter .digit true, cs)
    | 's' => .ok (.letter .space false, cs)
    | 'S' => .ok (.letter .space true, cs)
    | 'w' => .ok (.letter .word false, cs)
    | 'W' => .ok (.letter .word true, cs)
    | 'a' => .ok (.literal { char := '\x07' }, cs)
    | 'f' => .ok (.literal { char := '\x0c' }, cs)
    | 't' => .ok (.literal { char := '\t' }, cs)
    | 'n' => .ok (.literal { char := '\n' }, cs)
    | 'r' => .ok (.literal { char := '\r' }, cs)
    | 'v' => .ok (.literal { char := '\x0b' }, cs)
    | 'A' => .ok (.assertion .textStart, cs)
    | 'z' => .ok (.assertion .textEnd, cs)
    | 'b' => readBoundary extended cs
    | 'B' => .ok (.assertion .notWordBoundary, cs)
    | '<' => .ok (.assertion .wordStart, cs)
    | '>' => .ok (.assertion .wordEnd, cs)
    | c =>
      if c.isDigit then .error .backreference
      else if isEscapable c then .ok (.literal { char := c }, cs)
      else .error .escapeUnknown

/-! Sets in brackets. -/

def readSetPrimitive (extended : Bool) : List Char → Except Fault (Primitive × List Char)
  | [] => .error .classUnclosed
  | '\\' :: cs => readEscape extended cs
  | c :: cs => .ok (.literal { char := c }, cs)

def Primitive.setItem : Primitive → Except Fault SetItem
  | .literal l => .ok (.single l)
  | .letter k negated => .ok (.letter k negated)
  | .property p negated => .ok (.property p negated)
  | _ => .error .escapeInClass

def Primitive.boundary : Primitive → Except Fault Literal
  | .literal l => .ok l
  | _ => .error .classRangeBoundary

/-- Reads a single item or a range. A hyphen before the closing bracket or before another hyphen
makes no range. -/
def readSetRange (extended : Bool) (cs : List Char) : Except Fault (SetItem × List Char) := do
  let (first, cs) ← readSetPrimitive extended cs
  match skip extended cs with
  | [] => .error .classUnclosed
  | c :: rest =>
    let next := peek extended rest
    if c ≠ '-' ∨ next = some ']' ∨ next = some '-' then return (← first.setItem, c :: rest)
    match skip extended rest with
    | [] => .error .classUnclosed
    | cs =>
      let (last, cs) ← readSetPrimitive extended cs
      let l ← first.boundary
      let m ← last.boundary
      if m.char < l.char then .error .classRangeOrder
      return (.range l m, cs)

/-- Reads the name of an ASCII class between colons, after the opening bracket; `none` if there is
none, and then the bracket opens a nested set. -/
def readAscii? (cs : List Char) : Option (SetItem × List Char) := do
  let ':' :: cs := cs | none
  let (negated, cs) := match cs with
    | '^' :: cs => (true, cs)
    | _ => (false, cs)
  let name := cs.takeWhile (· ≠ ':')
  let ':' :: ']' :: rest := cs.dropWhile (· ≠ ':') | none
  let k ← AsciiClass.ofName (String.ofList name)
  return (.ascii k negated, rest)

def leadingHyphens (extended : Bool) : Nat → List Char → List SetItem × List Char
  | 0, cs => ([], cs)
  | fuel + 1, cs => match cs with
    | '-' :: rest =>
      let (items, cs) := leadingHyphens extended fuel (skip extended rest)
      (.single { char := '-' } :: items, cs)
    | _ => ([], cs)

/-- Reads the start of a set after its opening bracket: whether it is negated, and items that could
not stand later. A closing bracket right at the start is an item. -/
def openSet (extended : Bool) (cs : List Char) : Except Fault (Bool × List SetItem × List Char) :=
  let cs := skip extended cs
  let (negated, cs) := match cs with
    | '^' :: rest => (true, skip extended rest)
    | _ => (false, cs)
  let (items, cs) := leadingHyphens extended cs.length cs
  let (items, cs) := match items, cs with
    | [], ']' :: rest => ([.single { char := ']' }], skip extended rest)
    | _, _ => (items, cs)
  if cs = [] then .error .classUnclosed else .ok (negated, items, cs)

/-- The set so far: a pending operation is applied to its left side and the items since. Items are
in reverse. -/
def closeUnion (pending : Option (SetOperation × SetTree)) (items : List SetItem) : SetTree :=
  match pending with
  | some (op, left) => .operation op left (.union items.reverse)
  | none => .union items.reverse

def setOperation? : List Char → Option (SetOperation × List Char)
  | '&' :: '&' :: cs => some (.intersection, cs)
  | '-' :: '-' :: cs => some (.difference, cs)
  | '~' :: '~' :: cs => some (.symmetricDifference, cs)
  | _ => none

/-- Reads the rest of a set up to its closing bracket. Operations bind less than juxtaposition and
group to the left. -/
def readSet (extended : Bool) :
    Nat → Option (SetOperation × SetTree) → List SetItem → List Char →
      Except Fault (SetTree × List Char)
  | 0, _, _, _ => .error .classUnclosed
  | fuel + 1, pending, items, cs => match skip extended cs with
    | [] => .error .classUnclosed
    | '[' :: rest => match readAscii? rest with
      | some (item, cs) => readSet extended fuel pending (item :: items) cs
      | none => do
        let (negated, start, cs) ← openSet extended rest
        let (inner, cs) ← readSet extended fuel none start.reverse cs
        readSet extended fuel pending (.nested negated inner :: items) cs
    | ']' :: rest => .ok (closeUnion pending items, rest)
    | cs => match setOperation? cs with
      | some (op, cs) => readSet extended fuel (some (op, closeUnion pending items)) [] cs
      | none => do
        let (item, cs) ← readSetRange extended cs
        readSet extended fuel pending (item :: items) cs

def readBracket (extended : Bool) (cs : List Char) : Except Fault (Tree × List Char) := do
  let (negated, start, cs) ← openSet extended cs
  let (inner, cs) ← readSet extended (cs.length + 1) none start.reverse cs
  return (.bracket negated inner, cs)

/-! Repetitions. -/

def countDigits (extended : Bool) : Nat → List Char → List Char × List Char
  | 0, cs => ([], cs)
  | _ + 1, [] => ([], [])
  | fuel + 1, c :: cs =>
    if c.isDigit then
      let (digits, cs) := countDigits extended fuel (skip extended cs)
      (c :: digits, cs)
    else ([], c :: cs)

def readCount (extended : Bool) (cs : List Char) : Except Fault Nat × List Char :=
  let (digits, cs) := countDigits extended cs.length (cs.dropWhile isBlank)
  let rest := skip extended (cs.dropWhile isBlank)
  let value := digits.foldl (fun n c => 10 * n + (c.toNat - '0'.toNat)) 0
  if digits = [] then (.error .countEmpty, rest)
  else if UInt32.size ≤ value then (.error .decimalInvalid, rest)
  else (.ok value, rest)

structure Count where
  least : Nat
  most : Option Nat

def readCounts (extended : Bool) (cs : List Char) : Except Fault (Count × List Char) :=
  match skip extended cs with
  | [] => .error .countUnclosed
  | cs =>
    let (start, cs) := readCount extended cs
    match cs with
    | [] => .error .countUnclosed
    | ',' :: rest => match skip extended rest with
      | [] => .error .countUnclosed
      | '\x7d' :: rest => do
        let n ← start
        return (⟨n, none⟩, rest)
      | cs => do
        let n ← start
        let (stop, cs) := readCount extended cs
        let m ← stop
        let '\x7d' :: rest := cs | .error .countUnclosed
        return (⟨n, some m⟩, rest)
    | '\x7d' :: rest => do
      let n ← start
      return (⟨n, some n⟩, rest)
    | _ => do
      let _ ← start
      .error .countUnclosed

def readGreed : List Char → Bool × List Char
  | '?' :: cs => (false, cs)
  | cs => (true, cs)

/-- Takes the part that a repetition is for; flags are no part. The parts are in reverse. -/
def takePart : List Tree → Except Fault (Tree × List Tree)
  | [] => .error .repetitionOfNothing
  | .empty :: _ => .error .repetitionOfNothing
  | .flags _ :: _ => .error .repetitionOfNothing
  | t :: parts => .ok (t, parts)

/-! Groups. -/

/-- Reads flags up to a colon or a closing parenthesis. `seen` holds the flags read so far, in
reverse, and `negated` whether a hyphen came before, and `last` whether one came last. -/
def readFlags (seen : FlagChanges) (negated last : Bool) :
    List Char → Except Fault (FlagChanges × List Char)
  | [] => .error .flagEnd
  | c :: cs =>
    if c = ':' ∨ c = ')' then
      if last then .error .negationDangling else .ok (seen.reverse, c :: cs)
    else if c = '-' then
      if negated then .error .negationTwice else readFlags seen true true cs
    else match Flag.ofChar c with
      | none => .error .flagUnknown
      | some f =>
        if seen.any (·.1 = f) then .error .flagTwice
        else readFlags ((f, !negated) :: seen) negated false cs

def isNumeric (c : Char) : Bool :=
  Category.decimalNumber.mem c || Category.letterNumber.mem c || Category.otherNumber.mem c

def isNameChar (first : Bool) (c : Char) : Bool :=
  c = '_' || isAlphabetic c ||
    (!first && (c = '.' || c = '[' || c = ']' || isNumeric c))

def readName (first : Bool) : List Char → Except Fault (List Char × List Char)
  | [] => .error .nameEnd
  | c :: cs =>
    if c = '>' then if first then .error .nameEmpty else .ok ([], cs)
    else if isNameChar first c then do
      let (name, cs) ← readName false cs
      return (c :: name, cs)
    else .error .nameCharacter

inductive Opening where
  | group (numbered : Bool) (changes : FlagChanges)
  | named (name : String)
  | flags (changes : FlagChanges)

def readOpening : List Char → Except Fault (Opening × List Char)
  | '?' :: '=' :: _ => .error .lookAround
  | '?' :: '!' :: _ => .error .lookAround
  | '?' :: '<' :: '=' :: _ => .error .lookAround
  | '?' :: '<' :: '!' :: _ => .error .lookAround
  | '?' :: 'P' :: '<' :: cs => do
    let (name, cs) ← readName true cs
    return (.named (String.ofList name), cs)
  | '?' :: '<' :: cs => do
    let (name, cs) ← readName true cs
    return (.named (String.ofList name), cs)
  | '?' :: cs =>
    if cs = [] then .error .groupUnclosed
    else do
      let (changes, cs) ← readFlags [] false false cs
      match cs with
      | ')' :: rest =>
        if changes = [] then .error .repetitionOfNothing else return (.flags changes, rest)
      | _ => return (.group false changes, cs.drop 1)
  | cs => .ok (.group true [], cs)

structure Cursor where
  rest : List Char
  extended : Bool
  names : List String

def extendedAfter (changes : FlagChanges) (extended : Bool) : Bool :=
  (changes.lookup .extended).getD extended

/-- A group's body out of its branches, of which all but the last are given in reverse. -/
def closeBranches (branches : List Tree) (parts : List Tree) : Tree :=
  match branches with
  | [] => Tree.ofParts parts.reverse
  | _ => .alternation (branches.reverse ++ [Tree.ofParts parts.reverse])

/-- Reads branches up to the closing parenthesis of a group, or to the end of the pattern if there
is no group around. -/
def readBranches (inGroup : Bool) :
    Nat → List Tree → List Tree → Cursor → Except Fault (Tree × Cursor)
  | 0, _, _, _ => .error .groupUnclosed
  | fuel + 1, branches, parts, cur =>
    let onward (t : Tree) (cs : List Char) :=
      readBranches inGroup fuel branches (t :: parts) { cur with rest := cs }
    let repeated (c : Count) (read : List Char → Bool × List Char) (cs : List Char) := do
      let (t, parts) ← takePart parts
      let (greedy, cs) := read cs
      readBranches inGroup fuel branches (.repetition c.least c.most greedy t :: parts)
        { cur with rest := cs }
    match skip cur.extended cur.rest with
    | [] =>
      if inGroup then .error .groupUnclosed
      else .ok (closeBranches branches parts, { cur with rest := [] })
    | '(' :: cs => do
      let (opening, cs) ← readOpening (skip cur.extended cs)
      match opening with
      | .flags changes =>
        readBranches inGroup fuel branches (.flags changes :: parts)
          { cur with rest := cs, extended := extendedAfter changes cur.extended }
      | .group numbered changes =>
        let (t, inner) ← readBranches true fuel [] []
          { cur with rest := cs, extended := extendedAfter changes cur.extended }
        readBranches inGroup fuel branches (.group numbered changes t :: parts)
          { inner with extended := cur.extended }
      | .named name =>
        if cur.names.contains name then .error .nameTwice
        let (t, inner) ← readBranches true fuel [] []
          { cur with rest := cs, names := name :: cur.names }
        readBranches inGroup fuel branches (.group true [] t :: parts)
          { inner with extended := cur.extended }
    | ')' :: cs =>
      if inGroup then .ok (closeBranches branches parts, { cur with rest := cs })
      else .error .groupUnopened
    | '|' :: cs =>
      readBranches inGroup fuel (Tree.ofParts parts.reverse :: branches) [] { cur with rest := cs }
    | '[' :: cs => do
      let (t, cs) ← readBracket cur.extended cs
      onward t cs
    | '?' :: cs => repeated ⟨0, some 1⟩ readGreed cs
    | '*' :: cs => repeated ⟨0, none⟩ readGreed cs
    | '+' :: cs => repeated ⟨1, none⟩ readGreed cs
    | '\x7b' :: cs => do
      let _ ← takePart parts
      let (c, cs) ← readCounts cur.extended cs
      let (greedy, cs) := readGreed (skip cur.extended cs)
      if c.most.any (· < c.least) then .error .countOrder
      repeated c (fun _ => (greedy, cs)) cs
    | '\\' :: cs => do
      let (p, cs) ← readEscape cur.extended cs
      onward p.tree cs
    | '.' :: cs => onward .dot cs
    | '^' :: cs => onward (.assertion .lineStart) cs
    | '$' :: cs => onward (.assertion .lineEnd) cs
    | c :: cs => onward (.literal { char := c }) cs

def Tree.ofChars (cs : List Char) : Except Fault Tree := do
  let (t, _) ← readBranches false (cs.length + 1) [] [] ⟨cs, false, []⟩
  if nestLimit < t.depth then .error .nestedTooDeep
  return t

end ErrorGuide.Pattern
