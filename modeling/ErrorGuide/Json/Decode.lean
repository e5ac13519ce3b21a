import ErrorGuide.Json.Reader
import ErrorGuide.Data.OrderedMap
import ErrorGuide.Json.Printer
import ErrorGuide.Text.Join
import ErrorGuide.Text.Quoted

/-! Decoding of documents into records, with the causes of failure. A decoder walks the document
from the left, so of several faults the first in the text is reported. -/

namespace ErrorGuide.Json
open Text

/-- Where a document comes from: straight from a text, or from a value that was read before. -/
inductive Origin where
  | text
  | value
deriving Repr, DecidableEq

inductive Found where
  | number (n : Number)
  | flag (b : Bool)
  | text (s : String)
  | null
  | list
  | object
deriving Repr, DecidableEq

def Found.describe : Found → String
  | .number n => (match n with
    | .real _ => "floating point `"
    | _ => "integer `") ++ String.ofList n.print ++ "`"
  | .flag b => if b then "boolean `true`" else "boolean `false`"
  | .text s => "string " ++ quoted s
  | .null => "null"
  | .list => "sequence"
  | .object => "map"

inductive Cause where
  | malformed (f : Fault)
  | wrongType (found : Found) (expected : String)
  | wrongValue (found : Found) (expected : String)
  | wrongLength (n : Nat) (expected : String)
  | missing (field : String)
  | repeated (field : String)
  | unknownVariant (name : String) (choices : List String)
  | refused (message : String)
deriving Repr, DecidableEq

def describeChoices : List String → String
  | [] => "there are no variants"
  | [a] => "expected `" ++ a ++ "`"
  | [a, b] => "expected `" ++ a ++ "` or `" ++ b ++ "`"
  | names => "expected one of " ++ join ", " (names.map fun n => "`" ++ n ++ "`")

def Cause.message : Cause → String
  | .malformed f => f.message
  | .wrongType found expected => "invalid type: " ++ found.describe ++ ", expected " ++ expected
  | .wrongValue found expected => "invalid value: " ++ found.describe ++ ", expected " ++ expected
  | .wrongLength n expected =>
    "invalid length " ++ String.ofList (decimal n) ++ ", expected " ++ expected
  | .missing field => "missing field `" ++ field ++ "`"
  | .repeated field => "duplicate field `" ++ field ++ "`"
  | .unknownVariant name choices =>
    "unknown variant `" ++ name ++ "`, " ++ describeChoices choices
  | .refused message => message

abbrev Decoder (α : Type) := Doc → Except Cause α

def mismatch (expected : String) : Doc → Cause
  | .broken read _ _ => .malformed read
  | .null => .wrongType .null expected
  | .bool b => .wrongType (.flag b) expected
  | .num (.ok n) => .wrongType (.number n) expected
  | .num (.error f) => .malformed f
  | .str (.ok s) => .wrongType (.text s) expected
  | .str (.error f) => .malformed f
  | .arr _ => .wrongType .list expected
  | .obj _ => .wrongType .object expected

def text : Decoder String
  | .str (.ok s) => .ok s
  | d => .error (mismatch "a string" d)

def word32 : Decoder UInt32
  | .num (.ok (.whole n)) =>
    if n < UInt32.size then .ok (UInt32.ofNat n)
    else .error (.wrongValue (.number (.whole n)) "u32")
  | .num (.ok (.negative n)) => .error (.wrongValue (.number (.negative n)) "u32")
  | d => .error (mismatch "u32" d)

def real : Decoder Binary64
  | .num (.ok (.whole n)) => .ok (Binary64.ofNat false n)
  | .num (.ok (.negative n)) => .ok (Binary64.ofNat true n)
  | .num (.ok (.real x)) => .ok x
  | d => .error (mismatch "f64" d)

def optional {α : Type} (dec : Decoder α) : Decoder (Option α)
  | .null => .ok none
  | d => (dec d).map some

def Items.decode {α : Type} (dec : Decoder α) : Items → Except Cause (List α)
  | .close => .ok []
  | .cut read _ => .error (.malformed read)
  | .item d rest => do
    let a ← dec d
    let more ← rest.decode dec
    return a :: more

def list {α : Type} (dec : Decoder α) : Decoder (List α)
  | .arr items => items.decode dec
  | d => .error (mismatch "a sequence" d)

def Entries.fold {σ : Type} (step : σ → String → Doc → Except Cause σ) (s : σ) :
    Entries → Except Cause σ
  | .close => .ok s
  | .cut read _ => .error (.malformed read)
  | .notKey _ => .error (.malformed .keyNotString)
  | .entry (.error f) _ _ => .error (.malformed f)
  | .entry (.ok name) value rest => do
    let s ← step s name value
    rest.fold step s

/-- A name that comes again keeps its place and takes the later value. -/
def orderedMap {α : Type} (dec : Decoder α) : Decoder (OrderedMap α)
  | .obj entries => entries.fold (fun m name d => (dec d).map (m.insert name)) OrderedMap.empty
  | d => .error (mismatch "a map" d)

def ignore (d : Doc) : Except Cause Unit := d.skip.mapError .malformed

def slot {α : Type} (field : String) (old : Option α) (dec : Decoder α) (d : Doc) :
    Except Cause (Option α) :=
  if old.isSome then .error (.repeated field) else (dec d).map some

def required {α : Type} (field : String) : Option α → Except Cause α
  | some a => .ok a
  | none => .error (.missing field)

def Items.next {α : Type} (dec : Decoder α) : Items → Except Cause (Option α × Items)
  | .close => .ok (none, .close)
  | .cut read _ => .error (.malformed read)
  | .item d rest => (dec d).map fun a => (some a, rest)

def Items.need {α : Type} (n : Nat) (record : String) (dec : Decoder α) (items : Items) :
    Except Cause (α × Items) := do
  match ← items.next dec with
  | (some a, rest) => .ok (a, rest)
  | (none, _) => .error (.wrongLength n record)

def Items.length : Items → Nat
  | .item _ rest => rest.length + 1
  | _ => 0

def Items.finish (origin : Origin) (total : Nat) : Items → Except Cause Unit
  | .close => .ok ()
  | .cut .trailingComma _ => .error (.malformed .trailingComma)
  | .cut .endInList _ => .error (.malformed .endInList)
  | .cut _ _ => .error (.malformed .trailingText)
  | .item _ _ => match origin with
    | .text => .error (.malformed .trailingText)
    | .value => .error (.wrongLength total "fewer elements in array")

def ofItems {α : Type} (origin : Origin) (dec : Items → Except Cause (α × Items)) (items : Items) :
    Except Cause α := do
  let (a, rest) ← dec items
  rest.finish origin items.length
  return a

/-- A record is an object or a list of its fields in order. -/
def record {α : Type} (origin : Origin) (name : String)
    (fromItems : Items → Except Cause (α × Items)) (fromEntries : Entries → Except Cause α) :
    Decoder α
  | .arr items => ofItems origin fromItems items
  | .obj entries => fromEntries entries
  | d => .error (mismatch ("struct " ++ name) d)

def pick {α : Type} (choices : List (String × α)) (name : String) : Except Cause α :=
  match choices.lookup name with
  | some a => .ok a
  | none => .error (.unknownVariant name (choices.map (·.1)))

def unit : Decoder Unit
  | .null => .ok ()
  | d => .error (mismatch "unit" d)

def Entries.finishChoice : Entries → Except Cause Unit
  | .close => .ok ()
  | .cut .endInObject _ => .error (.malformed .endInObject)
  | _ => .error (.malformed .noValue)

/-- A choice by name in a text: the name, or an object with the name as its one key and null as its
value. -/
def choiceOfText {α : Type} (choices : List (String × α)) : Decoder α
  | .str (.ok name) => pick choices name
  | .str (.error f) => .error (.malformed f)
  | .obj .close => .error (.malformed .noValue)
  | .obj (.cut .endInObject _) => .error (.malformed .endInValue)
  | .obj (.cut read _) => .error (.malformed read)
  | .obj (.notKey d) => .error (mismatch "variant identifier" d)
  | .obj (.entry (.error f) _ _) => .error (.malformed f)
  | .obj (.entry (.ok name) value rest) => do
    let a ← pick choices name
    unit value
    rest.finishChoice
    return a
  | .broken _ _ name => .error (.malformed name)
  | _ => .error (.malformed .noValue)

def choiceOfValue {α : Type} (choices : List (String × α)) : Decoder α
  | .str (.ok name) => pick choices name
  | .obj (.entry (.ok name) value .close) => do
    let a ← pick choices name
    unit value
    return a
  | .obj _ => .error (.wrongValue .object "map with a single key")
  | d => .error (mismatch "string or map" d)

def choice {α : Type} (origin : Origin) (choices : List (String × α)) : Decoder α :=
  match origin with
  | .text => choiceOfText choices
  | .value => choiceOfValue choices

def decodeText {α : Type} (dec : Origin → Decoder α) (s : String) : Except Cause α := do
  let source := readText s.toList
  let a ← dec .text source.doc
  if source.trailing then .error (.malformed .trailingText)
  return a

def decodeValue {α : Type} (dec : Origin → Decoder α) (j : Json) : Except Cause α :=
  dec .value j.toDoc

end ErrorGuide.Json
