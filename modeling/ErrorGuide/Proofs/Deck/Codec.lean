import ErrorGuide.Deck.Codec
import ErrorGuide.Proofs.Json.Nesting

/-! Decks read back from JSON. What is left out is what is assumed where nothing is told, and the
entries of a map come in their order. -/

namespace ErrorGuide
open Json

namespace Json

def Entries.rename (f : String → String) : Entries → Entries
  | .close => .close
  | .cut read skip => .cut read skip
  | .notKey found => .notKey found
  | .entry key value rest => .entry (key.map f) value (rest.rename f)

theorem Entries.fold_rename {σ : Type} (f : String → String)
    (step : σ → String → Doc → Except Cause σ) (s : σ) :
    ∀ entries : Entries, (entries.rename f).fold step s =
      entries.fold (fun s name d => step s (f name) d) s
  | .close => rfl
  | .cut _ _ => rfl
  | .notKey _ => rfl
  | .entry (.error _) _ _ => rfl
  | .entry (.ok name) value rest => by
    simp only [rename, Except.map, fold, fold_rename f step _ rest]

end Json

namespace Edition
variable (e : Edition)

def slots (seen : List String) : Slots where
  language := met seen "language" e.language
  version := met seen "version" e.version

theorem readable_encode (h : (Number.real e.version).Legible) : Readable 1 e.encode := by
  refine readable_obj ?_
  simp only [readableFields_cons, readableFields_nil, readable_str, readable_num h, and_self]

section Decoding
variable {g : Json → Json} (hg : Reordering g)
include hg

theorem step_slots {seen : List String} {name : String} {v : Json}
    (hv : (name, v) ∈ e.encode.fields) (hname : name ∉ seen) :
    Slots.step (e.slots seen) name (toDoc (g v)) = .ok (e.slots (name :: seen)) := by
  simp only [encode, fields, List.mem_cons, List.not_mem_nil, or_false, Prod.mk.injEq] at hv
  obtain ⟨rfl, rfl⟩ | ⟨rfl, rfl⟩ := hv
  · simp [Slots.step, slots, slot_met hname (text_str hg e.language), ok_bind, pure_eq_ok, met_cons]
  · have hversion : real (toDoc (g (.num (.real e.version)))) = .ok e.version := by
      rw [hg.num]
      rfl
    simp [Slots.step, slots, slot_met hname hversion, ok_bind, pure_eq_ok, met_cons]

theorem decode_encode (origin : Origin) : decode origin (toDoc (g e.encode)) = .ok e := by
  refine record_reordered hg e.slots (fun _ => rfl) (by simp)
    (fun seen name v => e.step_slots hg) fun seen hseen => ?_
  have hlanguage := met_of_mem e.language (hseen "language" (by simp))
  have hversion := met_of_mem e.version (hseen "version" (by simp))
  simp only [slots, hlanguage, hversion, required, ok_bind, pure_eq_ok]

end Decoding
end Edition

namespace Condition
variable (c : Condition)

def slots (seen : List String) : Slots where
  matchMessage := met seen "match_message" c.matchMessage
  notMessage := met seen "not_message" c.notMessage
  matchCode := met seen "match_code" c.matchCode
  notCode := met seen "not_code" c.notCode

/-- The names of the filters that have patterns. -/
theorem mem_names {name : String} : name ∈ c.encode.fields.map (·.1) ↔
    name = "match_message" ∧ c.matchMessage ≠ [] ∨ name = "not_message" ∧ c.notMessage ≠ [] ∨
      name = "match_code" ∧ c.matchCode ≠ [] ∨ name = "not_code" ∧ c.notCode ≠ [] := by
  simp only [encode, fields, List.map_append, List.mem_append, mem_names_listField, or_assoc]

theorem nodup_fields : (c.encode.fields.map (·.1)).Nodup := by
  have hsub : (c.encode.fields.map (·.1)).Sublist
      ["match_message", "not_message", "match_code", "not_code"] := by
    simp only [encode, fields, List.map_append]
    exact (((names_listField_sublist ..).append (names_listField_sublist ..)).append
      (names_listField_sublist ..)).append (names_listField_sublist ..)
  exact hsub.nodup (by decide)

theorem readable_encode : Readable 2 c.encode := by
  refine readable_obj ?_
  simp only [readableFields_append, readableFields_list, readable_str, implies_true, and_self]

section Decoding
variable {g : Json → Json} (hg : Reordering g)
include hg

theorem step_slots {seen : List String} {name : String} {v : Json}
    (hv : (name, v) ∈ c.encode.fields) (hname : name ∉ seen) :
    Slots.step (c.slots seen) name (toDoc (g v)) = .ok (c.slots (name :: seen)) := by
  simp only [encode, fields, List.mem_append, mem_listField, or_assoc] at hv
  obtain ⟨rfl, -, rfl⟩ | ⟨rfl, -, rfl⟩ | ⟨rfl, -, rfl⟩ | ⟨rfl, -, rfl⟩ := hv
  · have hlist := list_map hg (text_str hg) c.matchMessage
    simp [Slots.step, filter?, slots, slot_met hname hlist, ok_bind, pure_eq_ok, met_cons]
  · have hlist := list_map hg (text_str hg) c.notMessage
    simp [Slots.step, filter?, slots, slot_met hname hlist, ok_bind, pure_eq_ok, met_cons]
  · have hlist := list_map hg (text_str hg) c.matchCode
    simp [Slots.step, filter?, slots, slot_met hname hlist, ok_bind, pure_eq_ok, met_cons]
  · have hlist := list_map hg (text_str hg) c.notCode
    simp [Slots.step, filter?, slots, slot_met hname hlist, ok_bind, pure_eq_ok, met_cons]

theorem decode_encode (origin : Origin) : decode origin (toDoc (g c.encode)) = .ok c := by
  refine record_reordered hg c.slots (fun _ => rfl) c.nodup_fields
    (fun seen name v => c.step_slots hg) fun seen hseen => ?_
  have hmatch := getD_met c.matchMessage [] fun h =>
    hseen "match_message" (c.mem_names.2 (by simp [h]))
  have hnot := getD_met c.notMessage [] fun h => hseen "not_message" (c.mem_names.2 (by simp [h]))
  have hcode := getD_met c.matchCode [] fun h => hseen "match_code" (c.mem_names.2 (by simp [h]))
  have hnotCode := getD_met c.notCode [] fun h => hseen "not_code" (c.mem_names.2 (by simp [h]))
  simp only [slots, hmatch, hnot, hcode, hnotCode, pure_eq_ok]

end Decoding

def writtenName (name : String) : String :=
  match filter? name with
  | some filter => filter.name
  | none => name

theorem filter?_name (filter : Filter) : filter? filter.name = some filter := by
  cases filter <;> rfl

theorem filter?_writtenName (name : String) : filter? (writtenName name) = filter? name := by
  rw [writtenName]
  cases h : filter? name with
  | none => exact h
  | some filter => exact filter?_name filter

theorem exists_filter_of_mem_names {name : String} (h : name ∈ c.encode.fields.map (·.1)) :
    ∃ filter : Filter, name = filter.name := by
  obtain ⟨rfl, -⟩ | ⟨rfl, -⟩ | ⟨rfl, -⟩ | ⟨rfl, -⟩ := c.mem_names.1 h
  · exact ⟨.matchMessage, rfl⟩
  · exact ⟨.notMessage, rfl⟩
  · exact ⟨.matchCode, rfl⟩
  · exact ⟨.notCode, rfl⟩

/-- A field counts for the filter that it sets, under either of its names. -/
theorem decode_renamed (origin : Origin) (entries : Entries) :
    decode origin (.obj (entries.rename writtenName)) = decode origin (.obj entries) := by
  have hstep (s : Slots) (name : String) (d : Doc) :
      Slots.step s (writtenName name) d = Slots.step s name d := by
    simp only [Slots.step, filter?_writtenName]
  rw [decode, record, ofEntries, Entries.fold_rename]
  simp only [hstep]
  rfl

end Condition

namespace Variant
variable (v : Variant)

def slots (seen : List String) : Slots where
  condition := met seen "if" v.condition
  title := met seen "title" v.title
  summary := met seen "summary" v.summary
  why := met seen "why" v.why
  steps := met seen "steps" v.steps
  badges := met seen "badges" v.badges

/-- The names of the fields that a variant has. -/
theorem mem_names {name : String} : name ∈ v.encode.fields.map (·.1) ↔
    name = "if" ∧ v.condition.isSome = true ∨ name = "title" ∨ name = "summary" ∨
      name = "why" ∧ v.why.isSome = true ∨ name = "steps" ∧ v.steps ≠ [] ∨
      name = "badges" ∧ v.badges ≠ [] := by
  simp only [encode, fields, List.map_append, List.mem_append, mem_names_optionalField,
    mem_names_listField, List.map_cons, List.map_nil, List.mem_cons, List.not_mem_nil, or_false,
    or_assoc]

theorem nodup_fields : (v.encode.fields.map (·.1)).Nodup := by
  have hsub : (v.encode.fields.map (·.1)).Sublist
      (["if"] ++ ["title", "summary"] ++ ["why"] ++ ["steps"] ++ ["badges"]) := by
    simp only [encode, fields, List.map_append]
    repeat' apply List.Sublist.append
    all_goals simp only [List.map_cons, List.map_nil, List.Sublist.refl,
      names_optionalField_sublist, names_listField_sublist]
  exact hsub.nodup (by decide)

theorem readable_encode : Readable 3 v.encode := by
  refine readable_obj ?_
  simp only [readableFields_append, readableFields_cons, readableFields_nil,
    readableFields_optional, readableFields_list, readable_str, Condition.readable_encode,
    implies_true, and_self]

section Decoding
variable {g : Json → Json} (hg : Reordering g)
include hg

theorem optional_condition (origin : Origin) (c : Condition) :
    optional (Condition.decode origin) (toDoc (g c.encode)) = .ok (some c) := by
  have hc := Condition.decode_encode c hg origin
  obtain ⟨fields', hfields, -⟩ := hg.obj c.encode.fields c.nodup_fields
  have hobj : g c.encode = .obj fields' := hfields
  rw [hobj] at hc ⊢
  rw [toDoc] at hc ⊢
  rw [Json.optional, hc]
  · rfl
  · simp

theorem step_slots (origin : Origin) {seen : List String} {name : String} {j : Json}
    (hj : (name, j) ∈ v.encode.fields) (hname : name ∉ seen) :
    Slots.step origin (v.slots seen) name (toDoc (g j)) = .ok (v.slots (name :: seen)) := by
  simp only [encode, fields, List.mem_append, List.mem_cons, List.not_mem_nil, or_false,
    Prod.mk.injEq, mem_optionalField, mem_listField, or_assoc] at hj
  obtain ⟨rfl, c, hc, rfl⟩ | ⟨rfl, rfl⟩ | ⟨rfl, rfl⟩ | ⟨rfl, why, hwhy, rfl⟩ | ⟨rfl, -, rfl⟩ |
    ⟨rfl, -, rfl⟩ := hj
  · have hcondition := optional_condition hg origin c
    simp [Slots.step, slots, slot_met hname hcondition, ok_bind, pure_eq_ok, met_cons, hc]
  · simp [Slots.step, slots, slot_met hname (text_str hg v.title), ok_bind, pure_eq_ok, met_cons]
  · simp [Slots.step, slots, slot_met hname (text_str hg v.summary), ok_bind, pure_eq_ok, met_cons]
  · simp [Slots.step, slots, slot_met hname (optional_text hg why), ok_bind, pure_eq_ok, met_cons,
      hwhy]
  · have hsteps := list_map hg (text_str hg) v.steps
    simp [Slots.step, slots, slot_met hname hsteps, ok_bind, pure_eq_ok, met_cons]
  · have hbadges := list_map hg (text_str hg) v.badges
    simp [Slots.step, slots, slot_met hname hbadges, ok_bind, pure_eq_ok, met_cons]

theorem decode_encode (origin : Origin) : decode origin (toDoc (g v.encode)) = .ok v := by
  refine record_reordered hg v.slots (fun _ => rfl) v.nodup_fields
    (fun seen name j => v.step_slots hg origin) fun seen hseen => ?_
  have hcondition := join_met v.condition fun h => hseen "if" (v.mem_names.2 (by simp [h]))
  have htitle := met_of_mem v.title (hseen "title" (v.mem_names.2 (by simp)))
  have hsummary := met_of_mem v.summary (hseen "summary" (v.mem_names.2 (by simp)))
  have hwhy := join_met v.why fun h => hseen "why" (v.mem_names.2 (by simp [h]))
  have hsteps := getD_met v.steps [] fun h => hseen "steps" (v.mem_names.2 (by simp [h]))
  have hbadges := getD_met v.badges [] fun h => hseen "badges" (v.mem_names.2 (by simp [h]))
  simp only [slots, hcondition, htitle, hsummary, hwhy, hsteps, hbadges, required, ok_bind,
    pure_eq_ok]

end Decoding
end Variant

namespace KindEntry
variable (e : KindEntry)

theorem readable_encode : Readable 5 e.encode := by
  refine readable_obj (readableFields_cons.2 ⟨?_, readableFields_nil⟩)
  exact readable_arr_map fun v _ => v.readable_encode

section Decoding
variable {g : Json → Json} (hg : Reordering g)
include hg

theorem step_met (origin : Origin) {seen : List String} {name : String} {v : Json}
    (hv : (name, v) ∈ e.encode.fields) (hname : name ∉ seen) :
    step origin (met seen "variants" e.variants) name (toDoc (g v)) =
      .ok (met (name :: seen) "variants" e.variants) := by
  simp only [encode, fields, List.mem_singleton, Prod.mk.injEq] at hv
  obtain ⟨rfl, rfl⟩ := hv
  have hvariants := list_map hg (fun v => Variant.decode_encode v hg origin) e.variants
  simp [step, slot_met hname hvariants, met_cons]

theorem decode_encode (origin : Origin) : decode origin (toDoc (g e.encode)) = .ok e := by
  refine record_reordered hg (fun seen => met seen "variants" e.variants) (fun _ => rfl)
    (by simp) (fun seen name v => e.step_met hg origin) fun seen hseen => ?_
  have hvariants := met_of_mem e.variants (hseen "variants" List.mem_cons_self)
  simp only [hvariants]
  rfl

end Decoding
end KindEntry

namespace Labels
variable (l : Labels)

def slots (seen : List String) : Slots where
  line := met seen "line" l.line
  inWord := met seen "in" l.inWord
  thisFile := met seen "thisFile" l.thisFile
  errorDetails := met seen "errorDetails" l.errorDetails
  error := met seen "error" l.error
  pythonError := met seen "pythonError" l.pythonError
  fallbackSummary := met seen "fallbackSummary" l.fallbackSummary
  fallbackWhy := met seen "fallbackWhy" l.fallbackWhy
  fallbackStep := met seen "fallbackStep" l.fallbackStep

/-- The names of the labels that there are. -/
theorem mem_names {name : String} : name ∈ l.encode.fields.map (·.1) ↔
    name = "line" ∧ l.line.isSome = true ∨ name = "in" ∧ l.inWord.isSome = true ∨
      name = "thisFile" ∧ l.thisFile.isSome = true ∨
      name = "errorDetails" ∧ l.errorDetails.isSome = true ∨
      name = "error" ∧ l.error.isSome = true ∨
      name = "pythonError" ∧ l.pythonError.isSome = true ∨
      name = "fallbackSummary" ∧ l.fallbackSummary.isSome = true ∨
      name = "fallbackWhy" ∧ l.fallbackWhy.isSome = true ∨
      name = "fallbackStep" ∧ l.fallbackStep.isSome = true := by
  simp only [encode, fields, List.map_append, List.mem_append, mem_names_optionalField, or_assoc]

theorem nodup_fields : (l.encode.fields.map (·.1)).Nodup := by
  have hsub : (l.encode.fields.map (·.1)).Sublist
      (["line"] ++ ["in"] ++ ["thisFile"] ++ ["errorDetails"] ++ ["error"] ++ ["pythonError"] ++
        ["fallbackSummary"] ++ ["fallbackWhy"] ++ ["fallbackStep"]) := by
    simp only [encode, fields, List.map_append]
    repeat' apply List.Sublist.append
    all_goals exact names_optionalField_sublist ..
  exact hsub.nodup (by decide)

theorem readable_encode : Readable 1 l.encode := by
  refine readable_obj ?_
  simp only [readableFields_append, readableFields_optional, readable_str, implies_true, and_self]

section Decoding
variable {g : Json → Json} (hg : Reordering g)
include hg

theorem step_slots {seen : List String} {name : String} {v : Json}
    (hv : (name, v) ∈ l.encode.fields) (hname : name ∉ seen) :
    Slots.step (l.slots seen) name (toDoc (g v)) = .ok (l.slots (name :: seen)) := by
  simp only [encode, fields, List.mem_append, mem_optionalField, or_assoc] at hv
  have hslot (s field : String) : slot field (met seen name (some s)) (optional text)
      (toDoc (g (.str s))) = .ok (some (some s)) :=
    slot_met hname (optional_text hg s)
  obtain ⟨rfl, s, hs, rfl⟩ | ⟨rfl, s, hs, rfl⟩ | ⟨rfl, s, hs, rfl⟩ | ⟨rfl, s, hs, rfl⟩ |
    ⟨rfl, s, hs, rfl⟩ | ⟨rfl, s, hs, rfl⟩ | ⟨rfl, s, hs, rfl⟩ | ⟨rfl, s, hs, rfl⟩ |
    ⟨rfl, s, hs, rfl⟩ := hv
  all_goals simp [Slots.step, slots, hs, hslot, ok_bind, pure_eq_ok, met_cons]

theorem decode_encode (origin : Origin) : decode origin (toDoc (g l.encode)) = .ok l := by
  refine record_reordered hg l.slots (fun _ => rfl) l.nodup_fields
    (fun seen name v => l.step_slots hg) fun seen hseen => ?_
  have hline := join_met l.line fun h => hseen "line" (l.mem_names.2 (by simp [h]))
  have hin := join_met l.inWord fun h => hseen "in" (l.mem_names.2 (by simp [h]))
  have hfile := join_met l.thisFile fun h => hseen "thisFile" (l.mem_names.2 (by simp [h]))
  have hdetails := join_met l.errorDetails fun h =>
    hseen "errorDetails" (l.mem_names.2 (by simp [h]))
  have herror := join_met l.error fun h => hseen "error" (l.mem_names.2 (by simp [h]))
  have hpython := join_met l.pythonError fun h => hseen "pythonError" (l.mem_names.2 (by simp [h]))
  have hsummary := join_met l.fallbackSummary fun h =>
    hseen "fallbackSummary" (l.mem_names.2 (by simp [h]))
  have hwhy := join_met l.fallbackWhy fun h => hseen "fallbackWhy" (l.mem_names.2 (by simp [h]))
  have hstep := join_met l.fallbackStep fun h =>
    hseen "fallbackStep" (l.mem_names.2 (by simp [h]))
  simp only [slots, hline, hin, hfile, hdetails, herror, hpython, hsummary, hwhy, hstep, pure_eq_ok]

end Decoding
end Labels

namespace Deck
variable (d : Deck)

theorem decode_glossary (m : OrderedMap Rules) :
    decodeGlossary (toDoc (encodeGlossary m)) = .ok m :=
  orderedMap_entries (fun rules => orderedMap_entries (fun _ => rfl) rules) m

theorem decode_errors (origin : Origin) (m : OrderedMap KindEntry) :
    orderedMap (KindEntry.decode origin) (toDoc (encodeErrors m)) = .ok m :=
  orderedMap_entries (fun e => e.decode_encode reordering_id origin) m

def slots (seen : List String) : Slots where
  edition := met seen "meta" d.edition
  labels := met seen "ui" d.labels
  glossary := met seen "glossary" d.glossary
  errors := met seen "errors" d.errors

/-- The fields that a deck has. -/
theorem mem_fields {name : String} {v : Json} : (name, v) ∈ d.encode.fields ↔
    name = "meta" ∧ v = d.edition.encode ∨
      name = "ui" ∧ d.labels.isEmpty = false ∧ v = d.labels.encode ∨
      name = "glossary" ∧ d.glossary.isEmpty = false ∧ v = encodeGlossary d.glossary ∨
      name = "errors" ∧ v = encodeErrors d.errors := by
  simp only [encode, fields]
  cases d.labels.isEmpty <;> cases d.glossary.isEmpty <;> simp

theorem nodup_fields : (d.encode.fields.map (·.1)).Nodup := by
  simp only [encode, fields]
  cases d.labels.isEmpty <;> cases d.glossary.isEmpty <;> simp

theorem readable_encode (h : (Number.real d.edition.version).Legible) : Readable 7 d.encode := by
  have hedition : Readable 6 d.edition.encode := (d.edition.readable_encode h).mono (by decide)
  have hlabels : Readable 6 d.labels.encode := d.labels.readable_encode.mono (by decide)
  have hrules (rules : Rules) : Readable 5 rules.encode :=
    readable_obj (readableFields_map fun (_, text) _ => readable_str text)
  have hglossary : Readable 6 (encodeGlossary d.glossary) :=
    readable_obj (readableFields_map fun (_, rules) _ => hrules rules)
  have herrors : Readable 6 (encodeErrors d.errors) :=
    readable_obj (readableFields_map fun (_, entry) _ => entry.readable_encode)
  refine readable_obj ?_
  simp only [readableFields_append, readableFields_cons, readableFields_nil, hedition, herrors,
    and_self, and_true, true_and]
  constructor
  · split
    · exact readableFields_nil
    · exact readableFields_cons.2 ⟨hlabels, readableFields_nil⟩
  · split
    · exact readableFields_nil
    · exact readableFields_cons.2 ⟨hglossary, readableFields_nil⟩

theorem step_slots (origin : Origin) {seen : List String} {name : String} {v : Json}
    (hv : (name, v) ∈ d.encode.fields) (hname : name ∉ seen) :
    Slots.step origin (d.slots seen) name (toDoc v) = .ok (d.slots (name :: seen)) := by
  obtain ⟨rfl, rfl⟩ | ⟨rfl, -, rfl⟩ | ⟨rfl, -, rfl⟩ | ⟨rfl, rfl⟩ := d.mem_fields.1 hv
  · have hedition : Edition.decode origin (toDoc d.edition.encode) = .ok d.edition :=
      d.edition.decode_encode reordering_id origin
    simp [Slots.step, slots, slot_met hname hedition, ok_bind, pure_eq_ok, met_cons]
  · have hlabels : Labels.decode origin (toDoc d.labels.encode) = .ok d.labels :=
      d.labels.decode_encode reordering_id origin
    simp [Slots.step, slots, slot_met hname hlabels, ok_bind, pure_eq_ok, met_cons]
  · have hglossary := decode_glossary d.glossary
    simp [Slots.step, slots, slot_met hname hglossary, ok_bind, pure_eq_ok, met_cons]
  · have herrors := decode_errors origin d.errors
    simp [Slots.step, slots, slot_met hname herrors, ok_bind, pure_eq_ok, met_cons]

theorem decode_encode (origin : Origin) : decode origin (toDoc d.encode) = .ok d := by
  refine record_reordered reordering_id d.slots (fun _ => rfl) d.nodup_fields
    (fun seen name v => d.step_slots origin) fun seen hseen => ?_
  have htold {name : String} {v : Json} (h : (name, v) ∈ d.encode.fields) : name ∈ seen :=
    hseen name (List.mem_map.2 ⟨(name, v), h, rfl⟩)
  have hedition := met_of_mem d.edition (htold (d.mem_fields.2 (.inl ⟨rfl, rfl⟩)))
  have hlabels := getD_met d.labels {} fun h =>
    htold (d.mem_fields.2 (.inr (.inl ⟨rfl, beq_false_of_ne h, rfl⟩)))
  have hglossary := getD_met d.glossary .empty fun h =>
    htold (d.mem_fields.2 (.inr (.inr (.inl ⟨rfl, OrderedMap.isEmpty_eq_false h, rfl⟩))))
  have herrors := met_of_mem d.errors (htold (d.mem_fields.2 (.inr (.inr (.inr ⟨rfl, rfl⟩)))))
  simp only [slots, hedition, hlabels, hglossary, herrors, required, ok_bind, pure_eq_ok]

theorem ofText_of_mem_texts (h : (Number.real d.edition.version).Legible) {s : String}
    (hs : s ∈ d.encode.texts) : ofText s = .ok d := by
  have hread := readText_of_mem_texts (d.readable_encode h).legible hs
  rw [ofText, decodeText_of_readText decode hread]
  exact d.decode_encode .text

/-- A deck whose version reads back reads back from its texts, and so is written as before. The
fields of a condition are written under one name each, under which they are read as under the
other. -/
theorem written_reads_back (hversion : Json.ofText (toCompact (.num (.real d.edition.version))) =
      .ok (.num (.real d.edition.version))) :
    (∀ s ∈ d.encode.texts, ofText s = .ok d ∧
        (ofText s).map (·.encode.texts) = .ok d.encode.texts) ∧
      (∀ c : Condition, ∀ name ∈ c.encode.fields.map (·.1), ∃ filter : Filter, name = filter.name) ∧
      ∀ origin entries, Condition.decode origin (.obj (entries.rename Condition.writtenName)) =
        Condition.decode origin (.obj entries) := by
  refine ⟨fun s hs => ?_, fun c _ => c.exists_filter_of_mem_names, Condition.decode_renamed⟩
  have hread := d.ofText_of_mem_texts (legible_of_ofText hversion) hs
  exact ⟨hread, by rw [hread]; rfl⟩

def sparse : Deck where
  edition := ⟨"en", .ofNat false 1⟩
  labels := { line := some "" }
  glossary := ⟨[("kid", .empty)], by decide⟩
  errors := ⟨[("TypeError", ⟨[]⟩),
    ("NameError", ⟨[{ condition := some {}, title := "t", summary := "s" }]⟩)], by decide⟩

theorem sparse_reads_back :
    ofText sparse.encode.toCompact = .ok sparse ∧ ofText sparse.encode.toPretty = .ok sparse := by
  have hprint : toCompact (.num (.real sparse.edition.version)) = "1.0" := by decide +kernel
  have hversion : Json.ofText (toCompact (.num (.real sparse.edition.version))) =
      .ok (.num (.real sparse.edition.version)) := by
    rw [hprint]
    rfl
  obtain ⟨hread, -⟩ := written_reads_back sparse hversion
  have hcompact := hread sparse.encode.toCompact List.mem_cons_self
  have hpretty := hread sparse.encode.toPretty (List.mem_cons_of_mem _ List.mem_cons_self)
  exact ⟨hcompact.1, hpretty.1⟩

end Deck
end ErrorGuide
