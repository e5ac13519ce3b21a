import ErrorGuide.Unicode.Blank
import ErrorGuide.Unicode.Category
import ErrorGuide.Unicode.Fold
import ErrorGuide.Unicode.Property
import ErrorGuide.Unicode.Script
import ErrorGuide.Unicode.Word
import ErrorGuide.Pattern.Tree

/-! Sets of characters, as expressions that decide membership. -/

namespace ErrorGuide.Pattern
open Unicode

inductive CharSet where
  | ranges (r : Ranges)
  | not (s : CharSet)
  | union (a b : CharSet)
  | inter (a b : CharSet)
  /-- Every character that differs in case at most from one of the set. -/
  | folded (s : CharSet)
  | asciiFolded (s : CharSet)
deriving DecidableEq

def swapCase (c : Char) : Char :=
  if c.isUpper then c.toLower else if c.isLower then c.toUpper else c

namespace CharSet

def contains (c : Char) : CharSet → Bool
  | .ranges r => r.mem c.toNat
  | .not s => !s.contains c
  | .union a b => a.contains c || b.contains c
  | .inter a b => a.contains c && b.contains c
  | .folded s => s.contains c || (caseOrbit c).any s.contains
  | .asciiFolded s => s.contains c || s.contains (swapCase c)

def none : CharSet := .ranges []

def all : CharSet := .ranges [(0, 0x10FFFF)]

def single (c : Char) : CharSet := .ranges [(c.toNat, c.toNat)]

def range (first last : Char) : CharSet := .ranges [(first.toNat, last.toNat)]

def ofList (cs : List Char) : CharSet :=
  .ranges ((cs.map Char.toNat).mergeSort.eraseDups.map fun n => (n, n))

def ascii : CharSet := .ranges [(0, 0x7F)]

def unions (sets : List CharSet) : CharSet := sets.foldr .union none

/-- The set holds ASCII characters alone, for sure. Two ASCII letters have other forms beyond it. -/
def isAscii : CharSet → Bool
  | .ranges r => r.all (·.2 ≤ 0x7F)
  | .not _ => false
  | .union a b => a.isAscii && b.isAscii
  | .inter a b => a.isAscii || b.isAscii
  | .folded s => s.isAscii && ['k', 'K', 's', 'S'].all fun c => !s.contains c
  | .asciiFolded s => s.isAscii

/-- The number of ranges that the set takes, about. The rest of a set holds long ranges, which
count as many. -/
def spans : CharSet → Nat
  | .ranges r => r.length
  | .not s => s.spans + 15
  | .union a b => a.spans + b.spans
  | .inter a b => a.spans + b.spans
  | .folded s => 2 * s.spans
  | .asciiFolded s => 2 * s.spans

def notIf (negated : Bool) (s : CharSet) : CharSet := if negated then .not s else s

def ofLetter (unicode : Bool) : LetterClass → CharSet
  | .digit => .ranges (if unicode then digitRanges else [(0x30, 0x39)])
  | .space => .ranges (if unicode then blankRanges else [(0x09, 0x0D), (0x20, 0x20)])
  | .word =>
    .ranges (if unicode then wordRanges
      else [(0x30, 0x39), (0x41, 0x5A), (0x5F, 0x5F), (0x61, 0x7A)])

def ofAscii : AsciiClass → CharSet
  | .alnum => .ranges [(0x30, 0x39), (0x41, 0x5A), (0x61, 0x7A)]
  | .alpha => .ranges [(0x41, 0x5A), (0x61, 0x7A)]
  | .ascii => ascii
  | .blank => .ranges [(0x09, 0x09), (0x20, 0x20)]
  | .cntrl => .ranges [(0x00, 0x1F), (0x7F, 0x7F)]
  | .digit => .ranges [(0x30, 0x39)]
  | .graph => .ranges [(0x21, 0x7E)]
  | .lower => .ranges [(0x61, 0x7A)]
  | .print => .ranges [(0x20, 0x7E)]
  | .punct => .ranges [(0x21, 0x2F), (0x3A, 0x40), (0x5B, 0x60), (0x7B, 0x7E)]
  | .space => .ranges [(0x09, 0x0D), (0x20, 0x20)]
  | .upper => .ranges [(0x41, 0x5A)]
  | .word => .ranges [(0x30, 0x39), (0x41, 0x5A), (0x5F, 0x5F), (0x61, 0x7A)]
  | .xdigit => .ranges [(0x30, 0x39), (0x41, 0x46), (0x61, 0x66)]

def ofCategories (gs : List Category) : CharSet := unions (gs.map fun g => .ranges g.ranges)

end CharSet

def categoryNames : List (List String × List Category) :=
  [(["c", "other"], [.control, .format, .privateUse, .surrogate]),
   (["cc", "control", "cntrl"], [.control]),
   (["cf", "format"], [.format]),
   (["co", "privateuse"], [.privateUse]),
   (["l", "letter"],
     [.uppercaseLetter, .lowercaseLetter, .titlecaseLetter, .modifierLetter, .otherLetter]),
   (["lc", "casedletter"], [.uppercaseLetter, .lowercaseLetter, .titlecaseLetter]),
   (["ll", "lowercaseletter"], [.lowercaseLetter]),
   (["lm", "modifierletter"], [.modifierLetter]),
   (["lo", "otherletter"], [.otherLetter]),
   (["lt", "titlecaseletter"], [.titlecaseLetter]),
   (["lu", "uppercaseletter"], [.uppercaseLetter]),
   (["m", "mark", "combiningmark"], [.nonspacingMark, .spacingMark, .enclosingMark]),
   (["mc", "spacingmark"], [.spacingMark]),
   (["me", "enclosingmark"], [.enclosingMark]),
   (["mn", "nonspacingmark"], [.nonspacingMark]),
   (["n", "number"], [.decimalNumber, .letterNumber, .otherNumber]),
   (["nd", "decimalnumber", "digit"], [.decimalNumber]),
   (["nl", "letternumber"], [.letterNumber]),
   (["no", "othernumber"], [.otherNumber]),
   (["p", "punctuation", "punct"],
     [.connectorPunctuation, .dashPunctuation, .openPunctuation, .closePunctuation,
       .initialPunctuation, .finalPunctuation, .otherPunctuation]),
   (["pc", "connectorpunctuation"], [.connectorPunctuation]),
   (["pd", "dashpunctuation"], [.dashPunctuation]),
   (["pe", "closepunctuation"], [.closePunctuation]),
   (["pf", "finalpunctuation"], [.finalPunctuation]),
   (["pi", "initialpunctuation"], [.initialPunctuation]),
   (["po", "otherpunctuation"], [.otherPunctuation]),
   (["ps", "openpunctuation"], [.openPunctuation]),
   (["s", "symbol"], [.mathSymbol, .currencySymbol, .modifierSymbol, .otherSymbol]),
   (["sc", "currencysymbol"], [.currencySymbol]),
   (["sk", "modifiersymbol"], [.modifierSymbol]),
   (["sm", "mathsymbol"], [.mathSymbol]),
   (["so", "othersymbol"], [.otherSymbol]),
   (["z", "separator"], [.spaceSeparator, .lineSeparator, .paragraphSeparator]),
   (["zl", "lineseparator"], [.lineSeparator]),
   (["zp", "paragraphseparator"], [.paragraphSeparator]),
   (["zs", "spaceseparator"], [.spaceSeparator])]

/-- The set of a general category by its loose name. Surrogates are no characters, so their category
has a name but no set. -/
def categorySet? (name : String) : Option (Except Fault CharSet) :=
  let assigned := CharSet.ofCategories Category.all
  if name = "any" then some (.ok .all)
  else if name = "ascii" then some (.ok .ascii)
  else if name = "assigned" then some (.ok assigned)
  else if name = "cn" ∨ name = "unassigned" then some (.ok (.not assigned))
  else if name = "cs" ∨ name = "surrogate" then some (.error .propertyValueNotFound)
  else (categoryNames.find? (·.1.contains name)).map fun (names, gs) =>
    let s := CharSet.ofCategories gs
    .ok (if names.contains "other" then .union s (.not assigned) else s)

/-- The loose form of a name: in lower case, without blanks, hyphens, underscores, and characters
beyond ASCII, and without a leading `is`. A name `isc` stays as it is. -/
def looseName (name : String) : String :=
  let cs := name.toList
  let isFirst := (cs.take 2).map Char.toLower = ['i', 's']
  let kept := ((if isFirst then cs.drop 2 else cs).filter fun c =>
    c ≠ ' ' && c ≠ '_' && c ≠ '-' && c.toNat < 0x80).map Char.toLower
  String.ofList (if isFirst && kept = ['c'] then ['i', 's', 'c'] else kept)

/-- The set of a property. A name stands for a property of its own, a general category or a script,
in this order; three names are short for categories only. -/
def namedSet (name : String) : Except Fault CharSet :=
  let loose := looseName name
  let own := if ["cf", "sc", "lc"].contains loose then none else property? loose
  match own with
  | some r => .ok (.ranges r)
  | none => match categorySet? loose with
    | some s => s
    | none => match script? loose with
      | some r => .ok (.ranges r)
      | none => .error .propertyNotFound

def valuedSet (name value : String) : Except Fault CharSet :=
  let name := looseName name
  let value := looseName value
  if name = "gc" ∨ name = "generalcategory" then
    match categorySet? value with
    | some s => s
    | none => .error .propertyValueNotFound
  else if ["sc", "script", "scx", "scriptextensions"].contains name then
    match script? value with
    | some r => .ok (.ranges r)
    | none => .error .propertyValueNotFound
  else if (property? name).isSome then .error .propertyValueNotFound
  else .error .propertyNotFound

def PropertyName.set : PropertyName → Except Fault CharSet
  | .named name => namedSet name
  | .valued name value => valuedSet name value

end ErrorGuide.Pattern
