import ErrorGuide.Deck.Basic
import ErrorGuide.Pattern.Search
import ErrorGuide.Trace.Basic

/-! Which variant of a deck a trace selects: the first of its kind whose condition holds. -/

namespace ErrorGuide
open Pattern

def anyMatches (patterns : List String) (text : String) : Bool := patterns.any (matchesIn · text)

/-- All four filters pass. A pattern that does not compile matches nothing. -/
def Condition.holds (c : Condition) (message code : String) : Bool :=
  (c.matchMessage.isEmpty || anyMatches c.matchMessage message) &&
    !anyMatches c.notMessage message &&
    (c.matchCode.isEmpty || anyMatches c.matchCode code) &&
    !anyMatches c.notCode code

def Variant.applies (v : Variant) (t : Trace) : Bool :=
  v.condition.all (·.holds t.message t.codeText)

inductive Selection where
  | matched (key : EntryKey) (index : Nat) (v : Variant)
  | noEntry (key : EntryKey)
  | noMatch (key : EntryKey)
deriving Repr, DecidableEq

def KindEntry.firstFor (entry : KindEntry) (t : Trace) : Option (Variant × Nat) :=
  entry.variants.zipIdx.find? fun (v, _) => v.applies t

def Deck.select (d : Deck) (t : Trace) : Selection :=
  let key := d.keyFor t.kind
  match d.entry? key with
  | none => .noEntry key
  | some entry => match entry.firstFor t with
    | some (v, index) => .matched key index v
    | none => .noMatch key

end ErrorGuide
