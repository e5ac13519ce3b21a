/-! Finite double-precision numbers, held as a sign and the bits of the magnitude, with
multiplication and division that are computed exactly and then rounded once. -/

namespace ErrorGuide

/-- A finite binary64 number. The magnitude is the bit pattern without the sign: an exponent above
52 bits of fraction. -/
structure Binary64 where
  negative : Bool
  magnitude : Nat
deriving Repr, DecidableEq

namespace Binary64

def implicitBit : Nat := Nat.pow 2 52

def infinite : Nat := 0x7FF * implicitBit

/-- A magnitude is `significand · 2 ^ exponent`. -/
def significand (bits : Nat) : Nat :=
  if bits < implicitBit then bits else implicitBit + bits % implicitBit

def exponent (bits : Nat) : Int :=
  if bits < implicitBit then -1074 else Int.ofNat (bits / implicitBit) - 1075

def binade (num den : Nat) : Int :=
  let guess : Int := Int.ofNat num.log2 - Int.ofNat den.log2
  if den * Nat.pow 2 guess.toNat ≤ num * Nat.pow 2 (-guess).toNat then guess else guess - 1

/-- The quotient rounded to a whole number; a half goes to the even neighbour. -/
def roundQuotient (num den : Nat) : Nat :=
  let q := num / den
  let r := num % den
  if den < 2 * r ∨ (2 * r = den ∧ q % 2 = 1) then q + 1 else q

/-- The bits of the number nearest to `num / den`, at least `infinite` if it is too large. -/
def nearest (num den : Nat) : Nat :=
  if num = 0 then 0
  else
    let e := max (binade num den - 52) (-1074)
    (e + 1074).toNat * implicitBit +
      roundQuotient (num * Nat.pow 2 (-e).toNat) (den * Nat.pow 2 e.toNat)

def nearestScaled (m : Nat) (e : Int) (d : Nat) : Nat :=
  nearest (m * Nat.pow 2 e.toNat) (d * Nat.pow 2 (-e).toNat)

def mulBits (a b : Nat) : Nat :=
  nearestScaled (significand a * significand b) (exponent a + exponent b) 1

def divBits (a b : Nat) : Nat :=
  nearestScaled (significand a) (exponent a - exponent b) (significand b)

def tenPower (k : Nat) : Nat := nearest (Nat.pow 10 k) 1

def zero (negative : Bool) : Binary64 := ⟨negative, 0⟩

def ofNat (negative : Bool) (n : Nat) : Binary64 := ⟨negative, nearest n 1⟩

def same (x y : Binary64) : Bool :=
  x.magnitude = y.magnitude && (x.negative == y.negative || x.magnitude = 0)

def isWhole (x : Binary64) : Bool :=
  significand x.magnitude % Nat.pow 2 (-exponent x.magnitude).toNat = 0

end Binary64
end ErrorGuide
