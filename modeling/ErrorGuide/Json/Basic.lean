import ErrorGuide.Number.Binary64

/-! JSON values. A number keeps whether it was written as a whole number; an object keeps the order
of its fields. -/

namespace ErrorGuide

/-- A number: whole and not negative, whole and negative (`negative n` is `-n`), or real. -/
inductive Json.Number where
  | whole (n : Nat)
  | negative (n : Nat)
  | real (x : Binary64)
deriving Repr, DecidableEq

inductive Json where
  | null
  | bool (b : Bool)
  | num (n : Json.Number)
  | str (s : String)
  | arr (items : List Json)
  | obj (fields : List (String × Json))
deriving Repr

namespace Json

/-- A real equals no whole number, and the two zeros are one. -/
def Number.same : Number → Number → Bool
  | .real x, .real y => x.same y
  | x, y => x == y

def field? (name : String) : Json → Option Json
  | .obj fields => fields.lookup name
  | _ => none

end Json
end ErrorGuide
