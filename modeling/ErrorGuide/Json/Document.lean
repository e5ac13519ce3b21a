import ErrorGuide.Json.Basic

/-! Documents: what reading a JSON text finds, faults included. A fault stands in the document at
the place where reading stopped, so a consumer that walks the document from the left meets every
fault, and every mismatch of its own, in the order of the text. Some faults depend on the consumer:
whether it reads the value, passes over it, or looks for a name only. -/

namespace ErrorGuide.Json

inductive Fault where
  | endInValue | endInList | endInObject | endInString
  | noValue | noIdent | noColon | noListComma | noObjectComma
  | keyNotString | trailingComma | trailingText
  | badNumber | hugeNumber
  | badEscape | badHexEnd | loneSurrogate | controlCharacter
  | tooDeep
deriving Repr, DecidableEq

def Fault.message : Fault → String
  | .endInValue => "EOF while parsing a value"
  | .endInList => "EOF while parsing a list"
  | .endInObject => "EOF while parsing an object"
  | .endInString => "EOF while parsing a string"
  | .noValue => "expected value"
  | .noIdent => "expected ident"
  | .noColon => "expected `:`"
  | .noListComma => "expected `,` or `]`"
  | .noObjectComma => "expected `,` or `\x7d`"
  | .keyNotString => "key must be a string"
  | .trailingComma => "trailing comma"
  | .trailingText => "trailing characters"
  | .badNumber => "invalid number"
  | .hugeNumber => "number out of range"
  | .badEscape => "invalid escape"
  | .badHexEnd => "unexpected end of hex escape"
  | .loneSurrogate => "lone leading surrogate in hex escape"
  | .controlCharacter => "control character (\\u0000-\\u001F) found while parsing a string"
  | .tooDeep => "recursion limit exceeded"

mutual

inductive Doc where
  /-- No value; the fault as a consumer meets it who reads a value, who passes over one, and who
  reads a name. -/
  | broken (read skip name : Fault)
  | null
  | bool (b : Bool)
  /-- A number that is well written, but may be too large. -/
  | num (value : Except Fault Number)
  /-- A string that ends, but may hold half a surrogate pair. -/
  | str (text : Except Fault String)
  | arr (items : Items)
  | obj (entries : Entries)

inductive Items where
  | close
  | cut (read skip : Fault)
  | item (d : Doc) (rest : Items)

inductive Entries where
  | close
  | cut (read skip : Fault)
  | notKey (found : Doc)
  | entry (key : Except Fault String) (value : Doc) (rest : Entries)

end

mutual

def toDoc : Json → Doc
  | .null => .null
  | .bool b => .bool b
  | .num n => .num (.ok n)
  | .str s => .str (.ok s)
  | .arr items => .arr (itemsOf items)
  | .obj fields => .obj (entriesOf fields)

def itemsOf : List Json → Items
  | [] => .close
  | item :: items => .item (toDoc item) (itemsOf items)

def entriesOf : List (String × Json) → Entries
  | [] => .close
  | (name, value) :: fields => .entry (.ok name) (toDoc value) (entriesOf fields)

end

mutual

def Doc.skip : Doc → Except Fault Unit
  | .broken _ skip _ => .error skip
  | .null => .ok ()
  | .bool _ => .ok ()
  | .num _ => .ok ()
  | .str _ => .ok ()
  | .arr items => items.skip
  | .obj entries => entries.skip

def Items.skip : Items → Except Fault Unit
  | .close => .ok ()
  | .cut _ skip => .error skip
  | .item d rest => do
    d.skip
    rest.skip

def Entries.skip : Entries → Except Fault Unit
  | .close => .ok ()
  | .cut _ skip => .error skip
  | .notKey _ => .error .keyNotString
  | .entry _ value rest => do
    value.skip
    rest.skip

end

def insertSorted (name : String) (value : Json) : List (String × Json) → List (String × Json)
  | [] => [(name, value)]
  | (other, v) :: rest =>
    if name < other then (name, value) :: (other, v) :: rest
    else if name = other then (name, value) :: rest
    else (other, v) :: insertSorted name value rest

mutual

/-- The value of a document, read to a depth of less than `depth` lists and objects; fields come in
name order, and of fields with one name the last one counts. -/
def Doc.value (depth : Nat) : Doc → Except Fault Json
  | .broken read _ _ => .error read
  | .null => .ok .null
  | .bool b => .ok (.bool b)
  | .num n => n.map .num
  | .str s => s.map .str
  | .arr items =>
    if depth ≤ 1 then .error .tooDeep else (Items.values (depth - 1) items).map .arr
  | .obj entries =>
    if depth ≤ 1 then .error .tooDeep else (Entries.fields (depth - 1) [] entries).map .obj

def Items.values (depth : Nat) : Items → Except Fault (List Json)
  | .close => .ok []
  | .cut read _ => .error read
  | .item d rest => do
    let v ← Doc.value depth d
    let vs ← Items.values depth rest
    return v :: vs

def Entries.fields (depth : Nat) (acc : List (String × Json)) :
    Entries → Except Fault (List (String × Json))
  | .close => .ok acc
  | .cut read _ => .error read
  | .notKey _ => .error .keyNotString
  | .entry key value rest => do
    let name ← key
    let v ← Doc.value depth value
    Entries.fields depth (insertSorted name v acc) rest

end

def depthLimit : Nat := 128

end ErrorGuide.Json
