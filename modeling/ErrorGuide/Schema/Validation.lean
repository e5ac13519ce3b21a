import ErrorGuide.Schema.Basic

/-! Validation: how many demands of a schema a value fails. -/

namespace ErrorGuide.Schema

def isText : Json → Bool
  | .str _ => true
  | _ => false

def isNumber : Json → Bool
  | .num _ => true
  | _ => false

def isNull : Json → Bool
  | .null => true
  | _ => false

def isWhole : Json → Bool
  | .num (.real x) => x.isWhole
  | .num _ => true
  | _ => false

def isNegative : Json → Bool
  | .num (.negative _) => true
  | .num (.real x) => x.negative && x.magnitude ≠ 0
  | _ => false

def isOneOf (names : List String) : Json → Bool
  | .str s => names.contains s
  | _ => false

def demand (holds : Bool) : Nat := if holds then 0 else 1

def missing (fields : List (Field × Schema)) (j : Json) : Nat :=
  (requiredNames fields).countP fun name => (j.field? name).isNone

mutual

/-- The number of demands that a value fails. An alternative between a reference and null is one
demand, whatever fails in it. -/
def violations : Schema → Json → Nat
  | .text, j => demand (isText j)
  | .number, j => demand (isNumber j)
  | .word, j => demand (isWhole j) + demand (!isNegative j)
  | .choice names, j => demand (isText j) + demand (isOneOf names j)
  | .nullable (.named _ _ s), j => if isNull j then 0 else demand (violations s j = 0)
  | .nullable s, j => if isNull j then 0 else violations s j
  | .list item, j => match j with
    | .arr items => (items.map (violations item)).sum
    | _ => 1
  | .map value, j => match j with
    | .obj fields => (fields.map fun field => violations value field.2).sum
    | _ => 1
  | .record fields, j => match j with
    | .obj _ => missing fields j + fieldViolations fields j
    | _ => 1
  | .named _ _ s, j => violations s j

def fieldViolations : List (Field × Schema) → Json → Nat
  | [], _ => 0
  | (field, s) :: fields, j =>
    (match j.field? field.name with
      | some v => violations s v
      | none => 0) + fieldViolations fields j

end

def accepts (s : Schema) (j : Json) : Bool := s.violations j = 0

end ErrorGuide.Schema
