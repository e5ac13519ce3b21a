import ErrorGuide.Json.Document
import ErrorGuide.Text.Decimal
import ErrorGuide.Text.Hex

/-! Reading of JSON texts into documents. -/

namespace ErrorGuide.Json
open Text

def isSpace (c : Char) : Bool := c = ' ' || c = '\n' || c = '\t' || c = '\r'

def skipSpace (cs : List Char) : List Char := cs.dropWhile isSpace

/-! Numbers. -/

/-- Digits as they add up: the value of those that fit 64 bits, and how many were left over. -/
structure Tally where
  value : Nat
  used : Nat
  left : Nat

/-- Takes digits until the next one would not fit; the rest is only counted. -/
def tally (value used : Nat) : List Char → Tally
  | [] => ⟨value, used, 0⟩
  | c :: rest =>
    let next := 10 * value + (digitValue? c).getD 0
    if next < UInt64.size then tally next (used + 1) rest else ⟨value, used, rest.length + 1⟩

/-- `significand · 10 ^ exponent` in double precision. The significand is rounded first and the
power of ten second, and each factor or divisor is at most `1e308`; `none` if it is too large. -/
def scaleByTen (bits : Nat) (exponent : Int) : Nat → Option Nat
  | 0 => some bits
  | fuel + 1 =>
    if exponent.natAbs ≤ 308 then
      let scaled :=
        if 0 ≤ exponent then Binary64.mulBits bits (Binary64.tenPower exponent.toNat)
        else Binary64.divBits bits (Binary64.tenPower exponent.natAbs)
      if Binary64.infinite ≤ scaled then none else some scaled
    else if bits = 0 then some 0
    else if 0 ≤ exponent then none
    else scaleByTen (Binary64.divBits bits (Binary64.tenPower 308)) (exponent + 308) fuel

def realOf (negative : Bool) (significand : Nat) (exponent : Int) : Except Fault Number :=
  match scaleByTen (Binary64.nearest significand 1) exponent 4 with
  | some bits => .ok (.real ⟨negative, bits⟩)
  | none => .error .hugeNumber

structure ExponentPart where
  negative : Bool
  digits : List Char

/-- The number of a well-written numeral. A numeral with neither a fraction nor an exponent is whole
if it fits 64 bits; minus zero is real. -/
def numberOf (negative : Bool) (whole : List Char) (fraction : Option (List Char))
    (mark : Option ExponentPart) : Except Fault Number :=
  let w := tally 0 0 whole
  match fraction, mark with
  | none, none =>
    if 0 < w.left then realOf negative w.value w.left
    else if !negative then .ok (.whole w.value)
    else if 0 < w.value ∧ w.value ≤ Nat.pow 2 63 then .ok (.negative w.value)
    else .ok (.real (Binary64.ofNat true w.value))
  | _, _ =>
    let f := tally w.value 0 (fraction.getD [])
    let start : Int := Int.ofNat w.left - Int.ofNat f.used
    match mark with
    | none => realOf negative f.value start
    | some e =>
      match numeral? (Nat.pow 2 31) e.digits with
      | some n => realOf negative f.value (if e.negative then start - n else start + n)
      | none =>
        if f.value ≠ 0 ∧ !e.negative then .error .hugeNumber
        else .ok (.real (Binary64.zero negative))

structure Read (α : Type) where
  value : α
  rest : Option (List Char)

def Read.stop (read skip name : Fault) : Read Doc := ⟨.broken read skip name, none⟩

/-- A fault where a digit belongs: at the end of the text a reader misses the rest of the value. -/
def noDigit (cs : List Char) : Read Doc :=
  if cs = [] then Read.stop .endInValue .badNumber .noValue
  else Read.stop .badNumber .badNumber .noValue

def readExponent (negative : Bool) (whole : List Char) (fraction : Option (List Char))
    (cs : List Char) : Read Doc :=
  let (minus, cs) := match cs with
    | '+' :: r => (false, r)
    | '-' :: r => (true, r)
    | _ => (false, cs)
  match cs.takeWhile isAsciiDigit with
  | [] => noDigit cs
  | digits =>
    ⟨.num (numberOf negative whole fraction (some ⟨minus, digits⟩)), cs.dropWhile isAsciiDigit⟩

def readAfterWhole (negative : Bool) (whole : List Char) : List Char → Read Doc
  | '.' :: cs =>
    match cs.takeWhile isAsciiDigit with
    | [] => noDigit cs
    | digits => match cs.dropWhile isAsciiDigit with
      | 'e' :: r => readExponent negative whole (some digits) r
      | 'E' :: r => readExponent negative whole (some digits) r
      | r => ⟨.num (numberOf negative whole (some digits) none), r⟩
  | 'e' :: cs => readExponent negative whole none cs
  | 'E' :: cs => readExponent negative whole none cs
  | cs => ⟨.num (numberOf negative whole none none), cs⟩

/-- A number without its sign. A zero stands alone in front of the point. -/
def readNumber (negative : Bool) (cs : List Char) : Read Doc :=
  match cs.takeWhile isAsciiDigit with
  | [] => noDigit cs
  | '0' :: _ :: _ => Read.stop .badNumber .badNumber .noValue
  | whole => readAfterWhole negative whole (cs.dropWhile isAsciiDigit)

/-! Strings. -/

/-- A string from inside its quotes: its text, or the fault a reader of the text meets first; and
the rest after the closing quote, or the fault that even passing over it meets. -/
structure StringRead where
  text : Except Fault (List Char)
  rest : Except Fault (List Char)

def StringRead.fail (f : Fault) : StringRead := ⟨.error f, .error f⟩

def StringRead.push (c : Char) (r : StringRead) : StringRead :=
  { r with text := r.text.map (c :: ·) }

def StringRead.spoil (f : Fault) (r : StringRead) : StringRead := { r with text := .error f }

def shortEscape? : Char → Option Char
  | '"' => some '"'
  | '\\' => some '\\'
  | '/' => some '/'
  | 'b' => some '\x08'
  | 'f' => some '\x0c'
  | 'n' => some '\n'
  | 'r' => some '\r'
  | 't' => some '\t'
  | _ => none

/-- The fault of a unit escape whose four digits are not there: the text ends, or it has others. -/
def hexFault (cs : List Char) : Fault :=
  if (String.ofList cs).utf8ByteSize < 4 then .endInString else .badEscape

def isLeading (u : Nat) : Bool := 0xD800 ≤ u && u < 0xDC00

def isTrailing (u : Nat) : Bool := 0xDC00 ≤ u && u < 0xE000

def joinSurrogates (u v : Nat) : Char :=
  Char.ofNat ((u - 0xD800) * 0x400 + (v - 0xDC00) + 0x10000)

/-- What is read after an escape: a leading surrogate that no trailing one follows spoils the
text. -/
def StringRead.after (lead : Option Nat) (r : StringRead) : StringRead :=
  if lead.isSome then r.spoil .badHexEnd else r

/-- Reads a string after its opening quote, or after a leading surrogate in it. -/
def readString : Option Nat → List Char → StringRead
  | _, [] => StringRead.fail .endInString
  | lead, '"' :: cs => StringRead.after lead ⟨.ok [], .ok cs⟩
  | _, ['\\'] => StringRead.fail .endInString
  | lead, '\\' :: 'u' :: a :: b :: c :: d :: cs =>
    match hexNumeral? 0 [a, b, c, d], lead with
    | none, _ => StringRead.fail (hexFault (a :: b :: c :: d :: cs))
    | some v, some u =>
      if isTrailing v then (readString none cs).push (joinSurrogates u v)
      else (readString none cs).spoil .loneSurrogate
    | some v, none =>
      if isTrailing v then (readString none cs).spoil .loneSurrogate
      else if isLeading v then readString (some v) cs
      else (readString none cs).push (Char.ofNat v)
  | _, '\\' :: 'u' :: cs => StringRead.fail (hexFault cs)
  | lead, '\\' :: c :: cs => match shortEscape? c with
    | some e => StringRead.after lead ((readString none cs).push e)
    | none => StringRead.after lead (StringRead.fail .badEscape)
  | lead, c :: cs =>
    if c.toNat < 0x20 then StringRead.after lead (StringRead.fail .controlCharacter)
    else StringRead.after lead ((readString none cs).push c)

/-! Values. -/

def readWord (word : List Char) (d : Doc) (cs : List Char) : Read Doc :=
  match word, cs with
  | [], cs => ⟨d, cs⟩
  | _ :: _, [] => Read.stop .endInValue .endInValue .noValue
  | w :: word, c :: cs =>
    if c = w then readWord word d cs else Read.stop .noIdent .noIdent .noValue

def readStringValue (cs : List Char) : Read Doc :=
  let s := readString none cs
  match s.rest, s.text with
  | .ok rest, text => ⟨.str (text.map String.ofList), rest⟩
  | .error f, .error g => Read.stop g f g
  | .error f, .ok _ => Read.stop f f f

mutual

/-- Reads a value; the fuel bounds the number of values, lists and objects entered. -/
def readValue : Nat → List Char → Read Doc
  | 0, _ => Read.stop .tooDeep .tooDeep .tooDeep
  | fuel + 1, cs => match skipSpace cs with
    | [] => Read.stop .endInValue .endInValue .endInValue
    | c :: cs =>
      if c = 'n' then readWord ['u', 'l', 'l'] .null cs
      else if c = 't' then readWord ['r', 'u', 'e'] (.bool true) cs
      else if c = 'f' then readWord ['a', 'l', 's', 'e'] (.bool false) cs
      else if c = '-' then readNumber true cs
      else if isAsciiDigit c then readNumber false (c :: cs)
      else if c = '"' then readStringValue cs
      else if c = '[' then
        let r := readItems fuel true cs
        ⟨.arr r.value, r.rest⟩
      else if c = '\x7b' then
        let r := readEntries fuel true cs
        ⟨.obj r.value, r.rest⟩
      else Read.stop .noValue .noValue .noValue

def readItems : Nat → Bool → List Char → Read Items
  | 0, _, _ => ⟨.cut .tooDeep .tooDeep, none⟩
  | fuel + 1, first, cs => match skipSpace cs with
    | [] => ⟨.cut .endInList .endInList, none⟩
    | c :: rest =>
      if c = ']' then ⟨.close, some rest⟩
      else if first then readItem fuel (c :: rest)
      else if c = ',' then
        match skipSpace rest with
        | [] => ⟨.cut .endInValue .endInValue, none⟩
        | d :: _ =>
          if d = ']' then ⟨.cut .trailingComma .noValue, none⟩ else readItem fuel rest
      else ⟨.cut .noListComma .noListComma, none⟩

def readItem : Nat → List Char → Read Items
  | 0, _ => ⟨.cut .tooDeep .tooDeep, none⟩
  | fuel + 1, cs =>
    let v := readValue fuel cs
    match v.rest with
    | none => ⟨.item v.value (.cut .tooDeep .tooDeep), none⟩
    | some rest =>
      let more := readItems fuel false rest
      ⟨.item v.value more.value, more.rest⟩

def readEntries : Nat → Bool → List Char → Read Entries
  | 0, _, _ => ⟨.cut .tooDeep .tooDeep, none⟩
  | fuel + 1, first, cs => match skipSpace cs with
    | [] => ⟨.cut .endInObject .endInObject, none⟩
    | c :: rest =>
      if c = '\x7d' then ⟨.close, some rest⟩
      else if first then
        if c = '"' then readEntry fuel rest
        else ⟨.notKey (readValue fuel (c :: rest)).value, none⟩
      else if c = ',' then
        match skipSpace rest with
        | [] => ⟨.cut .endInValue .endInObject, none⟩
        | d :: rest =>
          if d = '"' then readEntry fuel rest
          else if d = '\x7d' then ⟨.cut .trailingComma .keyNotString, none⟩
          else ⟨.cut .keyNotString .keyNotString, none⟩
      else ⟨.cut .noObjectComma .noObjectComma, none⟩

def readEntry : Nat → List Char → Read Entries
  | 0, _ => ⟨.cut .tooDeep .tooDeep, none⟩
  | fuel + 1, cs =>
    let key := readString none cs
    match key.rest with
    | .error skip => match key.text with
      | .error read => ⟨.cut read skip, none⟩
      | .ok _ => ⟨.cut skip skip, none⟩
    | .ok rest =>
      let name := key.text.map String.ofList
      match skipSpace rest with
      | [] => ⟨.entry name (.broken .endInObject .endInObject .endInObject) .close, none⟩
      | c :: rest =>
        if c = ':' then
          let v := readValue fuel rest
          match v.rest with
          | none => ⟨.entry name v.value .close, none⟩
          | some rest =>
            let more := readEntries fuel false rest
            ⟨.entry name v.value more.value, more.rest⟩
        else ⟨.entry name (.broken .noColon .noColon .noColon) .close, none⟩

end

structure Source where
  doc : Doc
  trailing : Bool

/-- Reads a whole text. Each character enters at most one value and one list or object, in no more
than three steps. -/
def readText (cs : List Char) : Source :=
  let r := readValue (3 * cs.length + 3) cs
  ⟨r.value, match r.rest with
    | none => false
    | some rest => !(skipSpace rest).isEmpty⟩

def ofText (s : String) : Except Fault Json := do
  let source := readText s.toList
  let v ← source.doc.value depthLimit
  if source.trailing then .error .trailingText
  return v

end ErrorGuide.Json
