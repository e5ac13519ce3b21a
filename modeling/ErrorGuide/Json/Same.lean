import ErrorGuide.Json.Document

/-! Equality of JSON values: the order of an object's fields does not count. -/

namespace ErrorGuide.Json

mutual

/-- The value with the fields of objects in name order; of fields with one name the last counts. -/
def sorted : Json → Json
  | .arr items => .arr (sortedItems items)
  | .obj fields => .obj (sortedFields [] fields)
  | j => j

def sortedItems : List Json → List Json
  | [] => []
  | j :: js => sorted j :: sortedItems js

def sortedFields (acc : List (String × Json)) : List (String × Json) → List (String × Json)
  | [] => acc
  | (name, j) :: fields => sortedFields (insertSorted name (sorted j) acc) fields

end

mutual

def equal : Json → Json → Bool
  | .null, .null => true
  | .bool a, .bool b => a == b
  | .num a, .num b => a.same b
  | .str a, .str b => a == b
  | .arr as, .arr bs => equalItems as bs
  | .obj as, .obj bs => equalFields as bs
  | _, _ => false

def equalItems : List Json → List Json → Bool
  | [], [] => true
  | a :: as, b :: bs => equal a b && equalItems as bs
  | _, _ => false

def equalFields : List (String × Json) → List (String × Json) → Bool
  | [], [] => true
  | (m, a) :: as, (n, b) :: bs => m == n && equal a b && equalFields as bs
  | _, _ => false

end

def same (a b : Json) : Bool := equal a.sorted b.sorted

end ErrorGuide.Json
