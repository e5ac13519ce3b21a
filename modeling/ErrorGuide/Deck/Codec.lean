import ErrorGuide.Deck.Basic
import ErrorGuide.Trace.Codec

/-! Decks as JSON. -/

namespace ErrorGuide
open Json

namespace Edition

def encode (e : Edition) : Json :=
  .obj [("language", .str e.language), ("version", .num (.real e.version))]

structure Slots where
  language : Option String := none
  version : Option Binary64 := none

def Slots.step (s : Slots) (name : String) (d : Doc) : Except Cause Slots := do
  match name with
  | "language" => return { s with language := ← slot name s.language text d }
  | "version" => return { s with version := ← slot name s.version real d }
  | _ =>
    ignore d
    return s

def ofEntries (entries : Entries) : Except Cause Edition := do
  let s ← entries.fold Slots.step {}
  let language ← required "language" s.language
  let version ← required "version" s.version
  return ⟨language, version⟩

def ofItems (items : Items) : Except Cause (Edition × Items) := do
  let (language, items) ← items.need 0 "struct DeckMeta with 2 elements" text
  let (version, items) ← items.need 1 "struct DeckMeta with 2 elements" real
  return (⟨language, version⟩, items)

def decode (origin : Origin) : Decoder Edition := record origin "DeckMeta" ofItems ofEntries

end Edition

namespace Condition

def encode (c : Condition) : Json :=
  .obj (listField "match_message" .str c.matchMessage ++
    listField "not_message" .str c.notMessage ++ listField "match_code" .str c.matchCode ++
    listField "not_code" .str c.notCode)

structure Slots where
  matchMessage : Option (List String) := none
  notMessage : Option (List String) := none
  matchCode : Option (List String) := none
  notCode : Option (List String) := none

/-- The filter that a field sets. Each has two spellings. -/
def filter? : String → Option Filter
  | "match_message" => some .matchMessage
  | "matchMessage" => some .matchMessage
  | "not_message" => some .notMessage
  | "notMessage" => some .notMessage
  | "match_code" => some .matchCode
  | "matchCode" => some .matchCode
  | "not_code" => some .notCode
  | "notCode" => some .notCode
  | _ => none

def Slots.step (s : Slots) (name : String) (d : Doc) : Except Cause Slots := do
  match filter? name with
  | some .matchMessage =>
    return { s with
      matchMessage := ← slot Filter.matchMessage.name s.matchMessage (list text) d }
  | some .notMessage =>
    return { s with notMessage := ← slot Filter.notMessage.name s.notMessage (list text) d }
  | some .matchCode =>
    return { s with matchCode := ← slot Filter.matchCode.name s.matchCode (list text) d }
  | some .notCode =>
    return { s with notCode := ← slot Filter.notCode.name s.notCode (list text) d }
  | none =>
    ignore d
    return s

def ofEntries (entries : Entries) : Except Cause Condition := do
  let s ← entries.fold Slots.step {}
  return ⟨s.matchMessage.getD [], s.notMessage.getD [], s.matchCode.getD [], s.notCode.getD []⟩

def ofItems (items : Items) : Except Cause (Condition × Items) := do
  let (matchMessage, items) ← items.next (list text)
  let (notMessage, items) ← items.next (list text)
  let (matchCode, items) ← items.next (list text)
  let (notCode, items) ← items.next (list text)
  return (⟨matchMessage.getD [], notMessage.getD [], matchCode.getD [], notCode.getD []⟩, items)

def decode (origin : Origin) : Decoder Condition := record origin "Condition" ofItems ofEntries

end Condition

namespace Variant

def encode (v : Variant) : Json :=
  .obj (optionalField "if" Condition.encode v.condition ++
    [("title", .str v.title), ("summary", .str v.summary)] ++
    optionalField "why" .str v.why ++ listField "steps" .str v.steps ++
    listField "badges" .str v.badges)

structure Slots where
  condition : Option (Option Condition) := none
  title : Option String := none
  summary : Option String := none
  why : Option (Option String) := none
  steps : Option (List String) := none
  badges : Option (List String) := none

def Slots.step (origin : Origin) (s : Slots) (name : String) (d : Doc) : Except Cause Slots := do
  match name with
  | "if" =>
    return { s with condition := ← slot name s.condition (optional (Condition.decode origin)) d }
  | "title" => return { s with title := ← slot name s.title text d }
  | "summary" => return { s with summary := ← slot name s.summary text d }
  | "why" => return { s with why := ← slot name s.why (optional text) d }
  | "steps" => return { s with steps := ← slot name s.steps (list text) d }
  | "badges" => return { s with badges := ← slot name s.badges (list text) d }
  | _ =>
    ignore d
    return s

def ofEntries (origin : Origin) (entries : Entries) : Except Cause Variant := do
  let s ← entries.fold (Slots.step origin) {}
  let title ← required "title" s.title
  let summary ← required "summary" s.summary
  return ⟨s.condition.join, title, summary, s.why.join, s.steps.getD [], s.badges.getD []⟩

def ofItems (origin : Origin) (items : Items) : Except Cause (Variant × Items) := do
  let (condition, items) ← items.next (optional (Condition.decode origin))
  let (title, items) ← items.need 1 "struct Variant with 6 elements" text
  let (summary, items) ← items.need 2 "struct Variant with 6 elements" text
  let (why, items) ← items.next (optional text)
  let (steps, items) ← items.next (list text)
  let (badges, items) ← items.next (list text)
  return (⟨condition.join, title, summary, why.join, steps.getD [], badges.getD []⟩, items)

def decode (origin : Origin) : Decoder Variant :=
  record origin "Variant" (ofItems origin) (ofEntries origin)

end Variant

namespace KindEntry

def encode (e : KindEntry) : Json := .obj [("variants", .arr (e.variants.map Variant.encode))]

def step (origin : Origin) (s : Option (List Variant)) (name : String) (d : Doc) :
    Except Cause (Option (List Variant)) := do
  match name with
  | "variants" => slot name s (list (Variant.decode origin)) d
  | _ =>
    ignore d
    return s

def ofEntries (origin : Origin) (entries : Entries) : Except Cause KindEntry := do
  let variants ← entries.fold (step origin) none
  return ⟨variants.getD []⟩

def ofItems (origin : Origin) (items : Items) : Except Cause (KindEntry × Items) := do
  let (variants, items) ← items.next (list (Variant.decode origin))
  return (⟨variants.getD []⟩, items)

def decode (origin : Origin) : Decoder KindEntry :=
  record origin "KindEntry" (ofItems origin) (ofEntries origin)

end KindEntry

namespace Labels

def encode (l : Labels) : Json :=
  .obj (optionalField "line" .str l.line ++ optionalField "in" .str l.inWord ++
    optionalField "thisFile" .str l.thisFile ++ optionalField "errorDetails" .str l.errorDetails ++
    optionalField "error" .str l.error ++ optionalField "pythonError" .str l.pythonError ++
    optionalField "fallbackSummary" .str l.fallbackSummary ++
    optionalField "fallbackWhy" .str l.fallbackWhy ++
    optionalField "fallbackStep" .str l.fallbackStep)

structure Slots where
  line : Option (Option String) := none
  inWord : Option (Option String) := none
  thisFile : Option (Option String) := none
  errorDetails : Option (Option String) := none
  error : Option (Option String) := none
  pythonError : Option (Option String) := none
  fallbackSummary : Option (Option String) := none
  fallbackWhy : Option (Option String) := none
  fallbackStep : Option (Option String) := none

def Slots.step (s : Slots) (name : String) (d : Doc) : Except Cause Slots := do
  match name with
  | "line" => return { s with line := ← slot name s.line (optional text) d }
  | "in" => return { s with inWord := ← slot name s.inWord (optional text) d }
  | "thisFile" => return { s with thisFile := ← slot name s.thisFile (optional text) d }
  | "errorDetails" =>
    return { s with errorDetails := ← slot name s.errorDetails (optional text) d }
  | "error" => return { s with error := ← slot name s.error (optional text) d }
  | "pythonError" => return { s with pythonError := ← slot name s.pythonError (optional text) d }
  | "fallbackSummary" =>
    return { s with fallbackSummary := ← slot name s.fallbackSummary (optional text) d }
  | "fallbackWhy" => return { s with fallbackWhy := ← slot name s.fallbackWhy (optional text) d }
  | "fallbackStep" => return { s with fallbackStep := ← slot name s.fallbackStep (optional text) d }
  | _ =>
    ignore d
    return s

def ofEntries (entries : Entries) : Except Cause Labels := do
  let s ← entries.fold Slots.step {}
  return ⟨s.line.join, s.inWord.join, s.thisFile.join, s.errorDetails.join, s.error.join,
    s.pythonError.join, s.fallbackSummary.join, s.fallbackWhy.join, s.fallbackStep.join⟩

def ofItems (items : Items) : Except Cause (Labels × Items) := do
  let (line, items) ← items.next (optional text)
  let (inWord, items) ← items.next (optional text)
  let (thisFile, items) ← items.next (optional text)
  let (errorDetails, items) ← items.next (optional text)
  let (error, items) ← items.next (optional text)
  let (pythonError, items) ← items.next (optional text)
  let (fallbackSummary, items) ← items.next (optional text)
  let (fallbackWhy, items) ← items.next (optional text)
  let (fallbackStep, items) ← items.next (optional text)
  return (⟨line.join, inWord.join, thisFile.join, errorDetails.join, error.join,
    pythonError.join, fallbackSummary.join, fallbackWhy.join, fallbackStep.join⟩, items)

def decode (origin : Origin) : Decoder Labels := record origin "UiStrings" ofItems ofEntries

end Labels

namespace Rules

def encode (r : Rules) : Json := .obj (r.entries.map fun (term, text) => (term, .str text))

end Rules

namespace Deck

def encodeGlossary (g : OrderedMap Rules) : Json :=
  .obj (g.entries.map fun (audience, rules) => (audience, rules.encode))

def decodeGlossary : Decoder (OrderedMap Rules) := orderedMap (orderedMap text)

def encodeErrors (errors : OrderedMap KindEntry) : Json :=
  .obj (errors.entries.map fun (kind, entry) => (kind, entry.encode))

def encode (d : Deck) : Json :=
  .obj ([("meta", d.edition.encode)] ++
    (if d.labels.isEmpty then [] else [("ui", d.labels.encode)]) ++
    (if d.glossary.isEmpty then [] else [("glossary", encodeGlossary d.glossary)]) ++
    [("errors", encodeErrors d.errors)])

structure Slots where
  edition : Option Edition := none
  labels : Option Labels := none
  glossary : Option (OrderedMap Rules) := none
  errors : Option (OrderedMap KindEntry) := none

def Slots.step (origin : Origin) (s : Slots) (name : String) (d : Doc) : Except Cause Slots := do
  match name with
  | "meta" => return { s with edition := ← slot name s.edition (Edition.decode origin) d }
  | "ui" => return { s with labels := ← slot name s.labels (Labels.decode origin) d }
  | "glossary" => return { s with glossary := ← slot name s.glossary decodeGlossary d }
  | "errors" =>
    return { s with errors := ← slot name s.errors (orderedMap (KindEntry.decode origin)) d }
  | _ =>
    ignore d
    return s

def ofEntries (origin : Origin) (entries : Entries) : Except Cause Deck := do
  let s ← entries.fold (Slots.step origin) {}
  let edition ← required "meta" s.edition
  let errors ← required "errors" s.errors
  return ⟨edition, s.labels.getD {}, s.glossary.getD .empty, errors⟩

def ofItems (origin : Origin) (items : Items) : Except Cause (Deck × Items) := do
  let (edition, items) ← items.need 0 "struct CopyDeck with 4 elements" (Edition.decode origin)
  let (labels, items) ← items.next (Labels.decode origin)
  let (glossary, items) ← items.next decodeGlossary
  let (errors, items) ←
    items.need 3 "struct CopyDeck with 4 elements" (orderedMap (KindEntry.decode origin))
  return (⟨edition, labels.getD {}, glossary.getD .empty, errors⟩, items)

def decode (origin : Origin) : Decoder Deck :=
  record origin "CopyDeck" (ofItems origin) (ofEntries origin)

/-- A deck from its JSON text. Only the shape is checked. -/
def ofText (s : String) : Except Cause Deck := decodeText decode s

end Deck
end ErrorGuide
