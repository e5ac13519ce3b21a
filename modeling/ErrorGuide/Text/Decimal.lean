/-! Decimal numerals in ASCII digits, read with a bound and written without leading zeros. -/

namespace ErrorGuide.Text

def digitValue? (c : Char) : Option Nat :=
  if '0' ≤ c ∧ c ≤ '9' then some (c.toNat - '0'.toNat) else none

def isAsciiDigit (c : Char) : Bool := '0' ≤ c && c ≤ '9'

/-- The value of a run of ASCII digits that follows digits worth `acc`. -/
def digitsValue? (acc : Nat) : List Char → Option Nat
  | [] => some acc
  | c :: rest => match digitValue? c with
    | some d => digitsValue? (10 * acc + d) rest
    | none => none

def numeral? (bound : Nat) (cs : List Char) : Option Nat :=
  if cs = [] then none else (digitsValue? 0 cs).filter (· < bound)

def signedNumeral? (bound : Nat) : List Char → Option Nat
  | '+' :: rest => numeral? bound rest
  | cs => numeral? bound cs

def digitChar (d : Nat) : Char := Char.ofNat ('0'.toNat + d)

def decimal (n : Nat) : List Char :=
  if n < 10 then [digitChar n] else decimal (n / 10) ++ [digitChar (n % 10)]
termination_by n
decreasing_by omega

/-- A 32-bit number as a text tells it, in ASCII digits that a plus sign may precede; absent if the
text has digits of another script or the number does not fit. -/
def word32? (cs : List Char) : Option UInt32 := (signedNumeral? UInt32.size cs).map UInt32.ofNat

end ErrorGuide.Text
