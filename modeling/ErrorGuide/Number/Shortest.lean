import ErrorGuide.Number.Binary64

/-! Shortest decimals: the fewest digits that no other double-precision number is nearer to. On
each decimal grid, coarse to fine, only the two neighbours of the value can lie in the interval of
reals that round to it. -/

namespace ErrorGuide.Binary64

structure Decimal where
  coefficient : Nat
  exponent : Int
deriving Repr, DecidableEq

def ratioLe (a b c d : Nat) : Bool := a * d ≤ c * b

/-- The decimal lies between the midpoints to the neighbours of the number with these bits. The
midpoints themselves round to an even significand. -/
def Decimal.roundsTo (x : Decimal) (bits : Nat) : Bool :=
  let m := significand bits
  let e := Binary64.exponent bits - 2
  let below := if m = implicitBit ∧ 2 * implicitBit ≤ bits then 4 * m - 1 else 4 * m - 2
  let above := 4 * m + 2
  let num := x.coefficient * Nat.pow 10 x.exponent.toNat * Nat.pow 2 (-e).toNat
  let den := Nat.pow 10 (-x.exponent).toNat * Nat.pow 2 e.toNat
  if m % 2 = 0 then ratioLe below 1 num den && ratioLe num den above 1
  else !ratioLe num den below 1 && !ratioLe above 1 num den

/-- The number of decimal places that bring a proper fraction to at least one, counted up to
`fuel`. -/
def placesToOne (num den : Nat) : Nat → Nat
  | 0 => 0
  | fuel + 1 => if den ≤ num then 0 else placesToOne (num * 10) den fuel + 1

def wholeDecade (n : Nat) : Nat → Nat
  | 0 => 0
  | fuel + 1 => if n < 10 then 0 else wholeDecade (n / 10) fuel + 1

def decade (num den : Nat) : Int :=
  if den ≤ num then Int.ofNat (wholeDecade (num / den) 400)
  else -Int.ofNat (placesToOne num den 400)

/-- The neighbours of `num / den` on the grid of `10 ^ g`, the nearer one first; of two equally
near ones the even one. -/
def gridNeighbours (num den : Nat) (g : Int) : List Decimal :=
  let n := num * Nat.pow 10 (-g).toNat
  let d := den * Nat.pow 10 g.toNat
  let q := n / d
  let r := n % d
  let low : Decimal := ⟨q, g⟩
  let high : Decimal := ⟨q + 1, g⟩
  if r = 0 then [low]
  else if 2 * r < d ∨ (2 * r = d ∧ q % 2 = 0) then [low, high] else [high, low]

def searchGrids (bits num den : Nat) (g : Int) : Nat → Decimal
  | 0 => (gridNeighbours num den g).headD ⟨0, 0⟩
  | fuel + 1 => match (gridNeighbours num den g).find? (·.roundsTo bits) with
    | some x => x
    | none => searchGrids bits num den (g - 1) fuel

def Decimal.normal (x : Decimal) : Nat → Decimal
  | 0 => x
  | fuel + 1 =>
    if x.coefficient ≠ 0 ∧ x.coefficient % 10 = 0 then
      Decimal.normal ⟨x.coefficient / 10, x.exponent + 1⟩ fuel
    else x

def shortest (bits : Nat) : Decimal :=
  let num := significand bits * Nat.pow 2 (exponent bits).toNat
  let den := Nat.pow 2 (-exponent bits).toNat
  (searchGrids bits num den (decade num den) 17).normal 20

end ErrorGuide.Binary64
