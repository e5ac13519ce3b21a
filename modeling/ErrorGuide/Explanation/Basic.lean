import ErrorGuide.Explanation.VariantId
import ErrorGuide.Explanation.Audience
import ErrorGuide.Trace.Codec

/-! Explanations: what the reader of an error is shown. -/

namespace ErrorGuide
open Json

/-- A finished explanation. `patch` is a corrected form of the offending line; `html` is a fragment
that is ready for display. -/
structure Explanation where
  trace : Trace
  variantId : VariantId
  title : String
  summary : String
  why : Option String := none
  steps : List String := []
  badges : List String := []
  patch : Option String := none
  html : Option String := none
deriving Repr, DecidableEq

namespace VariantId

def encode (id : VariantId) : Json := .str id.text

def decode : Decoder VariantId := fun d => do
  let s ← Json.text d
  (ofText s).mapError fun f => .refused f.message

end VariantId

namespace Explanation

def trimBrief (e : Explanation) : Explanation := { e with why := none, steps := e.steps.take 1 }

def encode (e : Explanation) : Json :=
  .obj ([("trace", e.trace.encode), ("variantId", e.variantId.encode), ("title", .str e.title),
      ("summary", .str e.summary)] ++
    optionalField "why" .str e.why ++ listField "steps" .str e.steps ++
    listField "badges" .str e.badges ++ optionalField "patch" .str e.patch ++
    optionalField "html" .str e.html)

structure Slots where
  trace : Option Trace := none
  variantId : Option VariantId := none
  title : Option String := none
  summary : Option String := none
  why : Option (Option String) := none
  steps : Option (List String) := none
  badges : Option (List String) := none
  patch : Option (Option String) := none
  html : Option (Option String) := none

def Slots.step (origin : Origin) (s : Slots) (name : String) (d : Doc) : Except Cause Slots := do
  match name with
  | "trace" => return { s with trace := ← slot name s.trace (Trace.decode origin) d }
  | "variantId" => return { s with variantId := ← slot name s.variantId VariantId.decode d }
  | "title" => return { s with title := ← slot name s.title text d }
  | "summary" => return { s with summary := ← slot name s.summary text d }
  | "why" => return { s with why := ← slot name s.why (optional text) d }
  | "steps" => return { s with steps := ← slot name s.steps (list text) d }
  | "badges" => return { s with badges := ← slot name s.badges (list text) d }
  | "patch" => return { s with patch := ← slot name s.patch (optional text) d }
  | "html" => return { s with html := ← slot name s.html (optional text) d }
  | _ =>
    ignore d
    return s

def ofEntries (origin : Origin) (entries : Entries) : Except Cause Explanation := do
  let s ← entries.fold (Slots.step origin) {}
  let trace ← required "trace" s.trace
  let variantId ← required "variantId" s.variantId
  let title ← required "title" s.title
  let summary ← required "summary" s.summary
  return ⟨trace, variantId, title, summary, s.why.join, s.steps.getD [], s.badges.getD [],
    s.patch.join, s.html.join⟩

def asItems : String := "struct ExplainResult with 9 elements"

def ofItems (origin : Origin) (items : Items) : Except Cause (Explanation × Items) := do
  let (trace, items) ← items.need 0 asItems (Trace.decode origin)
  let (variantId, items) ← items.need 1 asItems VariantId.decode
  let (title, items) ← items.need 2 asItems text
  let (summary, items) ← items.need 3 asItems text
  let (why, items) ← items.next (optional text)
  let (steps, items) ← items.next (list text)
  let (badges, items) ← items.next (list text)
  let (patch, items) ← items.next (optional text)
  let (html, items) ← items.next (optional text)
  return (⟨trace, variantId, title, summary, why.join, steps.getD [], badges.getD [], patch.join,
    html.join⟩, items)

def decode (origin : Origin) : Decoder Explanation :=
  record origin "ExplainResult" (ofItems origin) (ofEntries origin)

end Explanation
end ErrorGuide
