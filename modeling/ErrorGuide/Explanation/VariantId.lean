import ErrorGuide.Deck.Basic
import ErrorGuide.Text.Decimal

/-! Identifiers of variants: the kind and the index of the variant in its entry, written
`kind/variants/index`. -/

namespace ErrorGuide
open Text

structure VariantId where
  kind : String
  index : UInt64
deriving Repr, DecidableEq

namespace VariantId

def separator : List Char := "/variants/".toList

def fallback : VariantId := ⟨EntryKey.fallbackName, 0⟩

def ofKey (key : EntryKey) (index : Nat) : VariantId := ⟨key.name, UInt64.ofNat index⟩

def chars (id : VariantId) : List Char := id.kind.toList ++ separator ++ decimal id.index.toNat

def text (id : VariantId) : String := String.ofList id.chars

def splitLast? (sep : List Char) : List Char → Option (List Char × List Char)
  | [] => none
  | c :: cs => match splitLast? sep cs with
    | some (before, after) => some (c :: before, after)
    | none =>
      if sep.isPrefixOf (c :: cs) then some ([], (c :: cs).drop sep.length) else none

inductive Fault where
  | malformed (text : String)
  | badIndex (text : String)
deriving Repr, DecidableEq

def Fault.message : Fault → String
  | .malformed text => "invalid variant id: " ++ text
  | .badIndex text => "invalid variant index in: " ++ text

/-- Reads an identifier. The last separator counts, and a plus sign may precede the index. -/
def ofText (s : String) : Except Fault VariantId :=
  match splitLast? separator s.toList with
  | none => .error (.malformed s)
  | some (kind, index) =>
    if kind = [] then .error (.malformed s)
    else match signedNumeral? UInt64.size index with
      | none => .error (.badIndex s)
      | some n => .ok ⟨String.ofList kind, UInt64.ofNat n⟩

end VariantId
end ErrorGuide
