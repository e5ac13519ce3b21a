import ErrorGuide.Text.Hex

/-! Sets of code points, written as ascending lists of inclusive ranges. -/

namespace ErrorGuide.Unicode

/-- Inclusive ranges of code points, in ascending order and apart. -/
abbrev Ranges := List (Nat × Nat)

/-- Membership; an ascending list is left as soon as it has passed `n`. -/
def Ranges.mem (n : Nat) : Ranges → Bool
  | [] => false
  | (lo, hi) :: rest => if n < lo then false else n ≤ hi || Ranges.mem n rest

/-- Reads `lo-hi` and `n`, in hexadecimal and parted by blanks. `low` is the part before a hyphen. -/
def Ranges.scanHex (low : Option Nat) (value : Nat) : List Char → Ranges
  | [] => [(low.getD value, value)]
  | ' ' :: rest => (low.getD value, value) :: Ranges.scanHex none 0 rest
  | '-' :: rest => Ranges.scanHex (some value) 0 rest
  | c :: rest => Ranges.scanHex low (16 * value + (Text.hexValue? c).getD 0) rest

def Ranges.ofHex (lines : List String) : Ranges := lines.flatMap (Ranges.scanHex none 0 ·.toList)

end ErrorGuide.Unicode
