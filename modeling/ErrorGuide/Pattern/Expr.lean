import ErrorGuide.Pattern.CharSet
import ErrorGuide.Pattern.Reader

/-! What a pattern means: flags are applied, and few kinds of parts are left. -/

namespace ErrorGuide.Pattern

inductive WordPlace where
  | boundary | notBoundary | first | last | firstHalf | lastHalf
deriving Repr, DecidableEq

inductive Look where
  | textStart | textEnd
  | lineStart | lineEnd
  | anyLineStart | anyLineEnd
  | word (place : WordPlace) (unicode : Bool)
deriving Repr, DecidableEq

def WordPlace.holds (before after : Bool) : WordPlace → Bool
  | .boundary => before != after
  | .notBoundary => before == after
  | .first => !before && after
  | .last => before && !after
  | .firstHalf => !before
  | .lastHalf => !after

def Look.holds (before after : Option Char) : Look → Bool
  | .textStart => before = none
  | .textEnd => after = none
  | .lineStart => before = none || before = some '\n'
  | .lineEnd => after = none || after = some '\n'
  | .anyLineStart =>
    before = none || before = some '\n' || (before = some '\r' && after ≠ some '\n')
  | .anyLineEnd => after = none || after = some '\r' || (after = some '\n' && before ≠ some '\r')
  | .word place unicode =>
    let inWord := fun c => (CharSet.ofLetter unicode .word).contains c
    place.holds (before.any inWord) (after.any inWord)

inductive Expr where
  | empty
  | char (c : Char)
  | set (s : CharSet)
  | look (l : Look)
  | cat (a b : Expr)
  /-- The first of two has precedence. -/
  | alt (a b : Expr)
  | times (least : Nat) (most : Option Nat) (greedy : Bool) (e : Expr)
  | group (e : Expr)
deriving DecidableEq

namespace Expr

def parts : Expr → List Expr
  | .empty => []
  | .cat a b => a.parts ++ b.parts
  | e => [e]

def catParts : List Expr → Expr
  | [] => .empty
  | [e] => e
  | e :: es => .cat e (catParts es)

def cats (es : List Expr) : Expr := catParts (es.flatMap parts)

def alts : List Expr → Expr
  | [] => .set .none
  | [e] => e
  | e :: es => .alt e (alts es)

def isNumbered : Expr → Bool
  | .empty => false
  | .char _ => false
  | .set _ => false
  | .look _ => false
  | .cat a b => a.isNumbered || b.isNumbered
  | .alt a b => a.isNumbered || b.isNumbered
  | .times _ _ _ e => e.isNumbered
  | .group _ => true

/-- The parts that two sequences both start with. Groups with numbers differ, however alike they
are written. -/
def sharedParts : List Expr → List Expr → List Expr
  | e :: es, f :: fs => if e = f && !e.isNumbered then e :: sharedParts es fs else []
  | _, _ => []

/-- An alternation. What all branches start with, each having more than one part, is there once, in
front: its own preferences then come before the choice of a branch. -/
def alternation (es : List Expr) : Expr :=
  let branches := es.map parts
  let shared := match branches with
    | first :: second :: others => (second :: others).foldl sharedParts first
    | _ => []
  if shared = [] || branches.any (·.length ≤ 1) then alts es
  else catParts (shared ++ (alts (branches.map fun b => catParts (b.drop shared.length))).parts)

def takesNothing : Expr → Bool
  | .empty => true
  | .look _ => true
  | .char _ => false
  | .set _ => false
  | .cat a b => a.takesNothing && b.takesNothing
  | .alt a b => a.takesNothing && b.takesNothing
  | .times _ most _ e => most = some 0 || e.takesNothing
  | .group e => e.takesNothing

def repetition (least : Nat) (most : Option Nat) (greedy : Bool) (e : Expr) : Expr :=
  let least := if e.takesNothing then min least 1 else least
  let most := if e.takesNothing then some (min (most.getD 1) 1) else most
  if most = some 0 then .empty
  else if least = 1 ∧ most = some 1 then e
  else .times least most greedy e

def weight : Expr → Nat
  | .empty => 32
  | .char c => 32 * c.utf8Size
  | .set s => 64 + (if s.isAscii then 8 else 62) * s.spans
  | .look _ => 32
  | .cat a b => a.weight + b.weight
  | .alt a b => a.weight + b.weight + 36
  | .times least none _ e => max least 1 * e.weight + 40
  | .times least (some most) _ e => max least most * e.weight + (most - least) * 40 + 32
  | .group e => e.weight + 64

def weightLimit : Nat := 10485760

end Expr

structure Settings where
  caseInsensitive : Bool := false
  multiLine : Bool := false
  dotMatchesNewline : Bool := false
  swapGreed : Bool := false
  unicode : Bool := true
  crlf : Bool := false

namespace Settings

def set (s : Settings) (value : Bool) : Flag → Settings
  | .caseInsensitive => { s with caseInsensitive := value }
  | .multiLine => { s with multiLine := value }
  | .dotMatchesNewline => { s with dotMatchesNewline := value }
  | .swapGreed => { s with swapGreed := value }
  | .unicode => { s with unicode := value }
  | .crlf => { s with crlf := value }
  | .extended => s

def after (s : Settings) (changes : FlagChanges) : Settings :=
  changes.foldl (fun s (flag, value) => s.set value flag) s

def fold (s : Settings) (cs : CharSet) : CharSet :=
  if !s.caseInsensitive then cs else if s.unicode then .folded cs else .asciiFolded cs

/-- The rest of a set. Without Unicode it would hold bytes that are no characters. -/
def notIf (s : Settings) (negated : Bool) (cs : CharSet) : Except Fault CharSet :=
  if negated && !s.unicode then .error .invalidUtf8 else .ok (.notIf negated cs)

/-- The character of a literal. Without Unicode a byte beyond ASCII is no character. -/
def charOf (s : Settings) (l : Literal) : Except Fault Char :=
  if !s.unicode && l.asByte && 0x7F < l.char.toNat then .error .invalidUtf8 else .ok l.char

/-- The character of a literal between brackets. Without Unicode these hold only ASCII. -/
def setChar (s : Settings) (l : Literal) : Except Fault Char := do
  let c ← s.charOf l
  if !s.unicode && 0x7F < c.toNat then .error .unicodeNotAllowed else .ok c

def ofLiteral (s : Settings) (l : Literal) : Except Fault Expr := do
  let c ← s.charOf l
  if !s.caseInsensitive then return .char c
  if s.unicode then
    let others := (Unicode.caseOrbit c).filter (· ≠ c)
    if others = [] then return .char c else return .set (.ofList (c :: others))
  else if c.isAlpha then return .set (.ofList [c, swapCase c])
  else return .char c

def ofDot (s : Settings) : Except Fault Expr :=
  if !s.unicode then .error .invalidUtf8
  else if s.dotMatchesNewline then .ok (.set .all)
  else if s.crlf then .ok (.set (.not (.union (.single '\n') (.single '\r'))))
  else .ok (.set (.not (.single '\n')))

def ofAssertion (s : Settings) : Assertion → Look
  | .lineStart => if !s.multiLine then .textStart else if s.crlf then .anyLineStart else .lineStart
  | .lineEnd => if !s.multiLine then .textEnd else if s.crlf then .anyLineEnd else .lineEnd
  | .textStart => .textStart
  | .textEnd => .textEnd
  | .wordBoundary => .word .boundary s.unicode
  | .notWordBoundary => .word .notBoundary s.unicode
  | .wordStart => .word .first s.unicode
  | .wordEnd => .word .last s.unicode
  | .wordStartHalf => .word .firstHalf s.unicode
  | .wordEndHalf => .word .lastHalf s.unicode

def ofLetter (s : Settings) (k : LetterClass) (negated : Bool) : Except Fault CharSet :=
  s.notIf negated (.ofLetter s.unicode k)

def ofProperty (s : Settings) (p : PropertyName) (negated : Bool) : Except Fault CharSet := do
  if !s.unicode then .error .unicodeNotAllowed
  return .notIf negated (s.fold (← p.set))

def combine (op : SetOperation) (left right : CharSet) : CharSet :=
  match op with
  | .intersection => .inter left right
  | .difference => .inter left (.not right)
  | .symmetricDifference => .union (.inter left (.not right)) (.inter right (.not left))

mutual

/-- The set of an item, in the case asked for. The sets of letter escapes hold both cases anyway. -/
def ofItem (s : Settings) : SetItem → Except Fault CharSet
  | .single l => do return s.fold (.single (← s.setChar l))
  | .range first last => do
    let c ← s.setChar first
    let d ← s.setChar last
    return s.fold (.range c d)
  | .letter k negated => s.ofLetter k negated
  | .ascii k negated => s.notIf negated (s.fold (.ofAscii k))
  | .property p negated => s.ofProperty p negated
  | .nested negated t => do s.notIf negated (← ofSet s t)

def ofSet (s : Settings) : SetTree → Except Fault CharSet
  | .union items => do return .unions (← ofItems s items)
  | .operation op left right => do
    let l ← ofSet s left
    let r ← ofSet s right
    return combine op l r

def ofItems (s : Settings) : List SetItem → Except Fault (List CharSet)
  | [] => .ok []
  | item :: items => do
    let set ← ofItem s item
    return set :: (← ofItems s items)

end

mutual

/-- The meaning of a pattern under some settings, with the settings after it: flags hold to the end
of the group around them, across its branches. -/
def ofTree (s : Settings) : Tree → Except Fault (Expr × Settings)
  | .empty => .ok (.empty, s)
  | .literal l => do return (← s.ofLiteral l, s)
  | .dot => do return (← s.ofDot, s)
  | .assertion a => .ok (.look (s.ofAssertion a), s)
  | .letter k negated => do return (.set (← s.ofLetter k negated), s)
  | .property p negated => do return (.set (← s.ofProperty p negated), s)
  | .bracket negated t => do return (.set (← s.notIf negated (← s.ofSet t)), s)
  | .repetition least most greedy t => do
    let (e, _) ← ofTree s t
    return (.repetition least most (greedy != s.swapGreed) e, s)
  | .group numbered changes t => do
    let (e, _) ← ofTree (s.after changes) t
    return (if numbered then .group e else e, s)
  | .flags changes => .ok (.empty, s.after changes)
  | .alternation branches => do
    let (es, s) ← ofTrees s branches
    return (.alternation es, s)
  | .concat parts => do
    let (es, s) ← ofTrees s parts
    return (.cats es, s)

def ofTrees (s : Settings) : List Tree → Except Fault (List Expr × Settings)
  | [] => .ok ([], s)
  | t :: ts => do
    let (e, s) ← ofTree s t
    let (es, s) ← ofTrees s ts
    return (e :: es, s)

end

end Settings

def Expr.ofPattern (pattern : String) : Except Fault Expr := do
  let t ← Tree.ofChars pattern.toList
  let (e, _) ← Settings.ofTree { caseInsensitive := true } t
  if weightLimit < e.weight then .error .tooLarge else .ok e

end ErrorGuide.Pattern
