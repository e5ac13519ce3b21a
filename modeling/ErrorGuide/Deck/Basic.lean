import ErrorGuide.Data.OrderedMap
import ErrorGuide.Number.Binary64

/-! Decks: the explanations of one language, by kind of error. -/

namespace ErrorGuide

structure Edition where
  language : String
  version : Binary64
deriving Repr, DecidableEq

/-- Four independent filters of patterns; an empty list imposes no constraint. -/
structure Condition where
  matchMessage : List String := []
  notMessage : List String := []
  matchCode : List String := []
  notCode : List String := []
deriving Repr, DecidableEq

inductive Filter where
  | matchMessage
  | notMessage
  | matchCode
  | notCode
deriving Repr, DecidableEq

def Filter.name : Filter → String
  | .matchMessage => "match_message"
  | .notMessage => "not_message"
  | .matchCode => "match_code"
  | .notCode => "not_code"

namespace Condition

def isEmpty (c : Condition) : Bool :=
  c.matchMessage.isEmpty && c.notMessage.isEmpty && c.matchCode.isEmpty && c.notCode.isEmpty

def patterns (c : Condition) : List (Filter × String) :=
  c.matchMessage.map (Filter.matchMessage, ·) ++ c.notMessage.map (Filter.notMessage, ·) ++
    c.matchCode.map (Filter.matchCode, ·) ++ c.notCode.map (Filter.notCode, ·)

end Condition

structure Variant where
  condition : Option Condition := none
  title : String
  summary : String
  why : Option String := none
  steps : List String := []
  badges : List String := []
deriving Repr, DecidableEq

def Variant.isUnconditional (v : Variant) : Bool := v.condition.all (·.isEmpty)

structure KindEntry where
  variants : List Variant
deriving Repr, DecidableEq

/-- Terms with their replacements, in the order in which they are applied. -/
abbrev Rules := OrderedMap String

structure Labels where
  line : Option String := none
  inWord : Option String := none
  thisFile : Option String := none
  errorDetails : Option String := none
  error : Option String := none
  pythonError : Option String := none
  fallbackSummary : Option String := none
  fallbackWhy : Option String := none
  fallbackStep : Option String := none
deriving Repr, DecidableEq

namespace Labels

def isEmpty (l : Labels) : Bool := l == {}

def orDefault (label : Option String) (default : String) : String :=
  match label with
  | some s => if s = "" then default else s
  | none => default

def lineText (l : Labels) : String := orDefault l.line "line"

def inText (l : Labels) : String := orDefault l.inWord "in"

def thisFileText (l : Labels) : String := orDefault l.thisFile "this file"

def errorDetailsText (l : Labels) : String := orDefault l.errorDetails "Error details"

def errorText (l : Labels) : String := orDefault l.error "Error"

def pythonErrorText (l : Labels) : String := orDefault l.pythonError "Python error"

def fallbackSummaryText (l : Labels) : String :=
  orDefault l.fallbackSummary
    "Start with the last line of the message and the highlighted code line."

def fallbackWhyText (l : Labels) : String :=
  orDefault l.fallbackWhy
    "The last line of the traceback tells you the error type and main cause."

def fallbackStepText (l : Labels) : String :=
  orDefault l.fallbackStep "Fix one small thing and run again."

end Labels

inductive EntryKey where
  | kind (name : String)
  | fallback
deriving Repr, DecidableEq

namespace EntryKey

def fallbackName : String := "Other"

def name : EntryKey → String
  | .kind k => k
  | .fallback => fallbackName

def resolve (known : String → Bool) : Option String → EntryKey
  | some k => if known k then .kind k else .fallback
  | none => .fallback

end EntryKey

/-- A deck. The order of `glossary` and `errors` is the one in which it was written. -/
structure Deck where
  edition : Edition
  labels : Labels := {}
  glossary : OrderedMap Rules := OrderedMap.empty
  errors : OrderedMap KindEntry
deriving DecidableEq

namespace Deck

def entry? (d : Deck) (key : EntryKey) : Option KindEntry := d.errors.get? key.name

def hasKind (d : Deck) (kind : String) : Bool := d.errors.contains kind

def keyFor (d : Deck) (kind : Option String) : EntryKey := EntryKey.resolve d.hasKind kind

def glossaryFor (d : Deck) (audience : String) : Option Rules :=
  (d.glossary.get? audience).filter (!·.isEmpty)

end Deck
end ErrorGuide
