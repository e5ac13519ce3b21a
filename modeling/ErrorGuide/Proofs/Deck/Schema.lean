import ErrorGuide.Proofs.Deck.Codec
import ErrorGuide.Proofs.Schema.Records
import ErrorGuide.Proofs.Schema.Standard

/-! Decks and their schema: what the schema accepts is decoded, and what is decoded it accepts, but
for a few ways of writing that one of the two does not know. -/

namespace ErrorGuide
open Json
variable {j : Json}

def Json.IsObject (j : Json) : Prop := ∃ fields, j = .obj fields

def Condition.Unaliased (j : Json) : Prop := ∀ f ∈ j.fields, Condition.writtenName f.1 = f.1

theorem takes_optional_text :
    Takes (optional text) j ↔ (Schema.nullable .text).accepts j = true := by
  rw [takes_optional, takes_text, Schema.accepts_nullable, Schema.accepts_text]

theorem takes_texts : Takes (list text) j ↔ (Schema.list .text).accepts j = true := by
  simp only [takes_list, takes_text, Schema.accepts_list, Schema.accepts_text]

namespace Edition

def parts : List (RecordPart Slots) := [
  ⟨"language", true, .text, text, (·.language), fun s o => { s with language := o }⟩,
  ⟨"version", true, .number, real, (·.version), fun s o => { s with version := o }⟩]

theorem recordOf (origin : Origin) :
    RecordOf Schema.edition (decode origin) parts id {} Slots.step fun s => do
      let language ← required "language" s.language
      let version ← required "version" s.version
      return ⟨language, version⟩ where
  step_mem := by simp [parts, Slots.step, RecordPart.fill]
  step_not_mem := by simp +contextual [parts, Slots.step]
  get_put := by simp [parts]
  apart := by simp [parts, RecordPart.apart_iff]
  exists_fields := ⟨_, _, _, rfl, rfl⟩
  decode_obj _ := rfl
  start_none := by simp [parts]
  exists_finish s := by
    simp [parts, exists_bind_ok, required_eq_ok, Option.isSome_iff_exists, pure_eq_ok]
  written_name := by simp
  eq_of_written := by simp

theorem takes_parts : ∀ p ∈ parts, ∀ v, Takes p.decoder v ↔ p.schema.accepts v = true := by
  simp [parts, takes_text, takes_real, Schema.accepts_text, Schema.accepts_number]

end Edition

namespace Labels

def part (name : String) (get : Slots → Option (Option String))
    (put : Slots → Option (Option String) → Slots) : RecordPart Slots :=
  ⟨name, false, .nullable .text, optional text, get, put⟩

def parts : List (RecordPart Slots) := [
  part "line" (·.line) fun s o => { s with line := o },
  part "in" (·.inWord) fun s o => { s with inWord := o },
  part "thisFile" (·.thisFile) fun s o => { s with thisFile := o },
  part "errorDetails" (·.errorDetails) fun s o => { s with errorDetails := o },
  part "error" (·.error) fun s o => { s with error := o },
  part "pythonError" (·.pythonError) fun s o => { s with pythonError := o },
  part "fallbackSummary" (·.fallbackSummary) fun s o => { s with fallbackSummary := o },
  part "fallbackWhy" (·.fallbackWhy) fun s o => { s with fallbackWhy := o },
  part "fallbackStep" (·.fallbackStep) fun s o => { s with fallbackStep := o }]

theorem recordOf (origin : Origin) :
    RecordOf Schema.labels (decode origin) parts id {} Slots.step fun s =>
      .ok ⟨s.line.join, s.inWord.join, s.thisFile.join, s.errorDetails.join, s.error.join,
        s.pythonError.join, s.fallbackSummary.join, s.fallbackWhy.join, s.fallbackStep.join⟩ where
  step_mem := by simp [parts, part, Slots.step, RecordPart.fill]
  step_not_mem := by simp +contextual [parts, part, Slots.step]
  get_put := by simp [parts, part]
  apart := by simp [parts, part, RecordPart.apart_iff]
  exists_fields := ⟨_, _, _, rfl, rfl⟩
  decode_obj _ := rfl
  start_none := by simp [parts, part]
  exists_finish s := by simp [parts, part]
  written_name := by simp
  eq_of_written := by simp

theorem takes_parts : ∀ p ∈ parts, ∀ v, Takes p.decoder v ↔ p.schema.accepts v = true := by
  simp [parts, part, takes_optional_text]

end Labels

namespace Condition

def part (filter : Filter) (get : Slots → Option (List String))
    (put : Slots → Option (List String) → Slots) : RecordPart Slots :=
  ⟨filter.name, false, .list .text, list text, get, put⟩

def parts : List (RecordPart Slots) := [
  part .matchMessage (·.matchMessage) fun s o => { s with matchMessage := o },
  part .notMessage (·.notMessage) fun s o => { s with notMessage := o },
  part .matchCode (·.matchCode) fun s o => { s with matchCode := o },
  part .notCode (·.notCode) fun s o => { s with notCode := o }]

theorem writtenName_eq_name {filter : Filter} {name : String} :
    writtenName name = filter.name ↔ filter? name = some filter := by
  constructor
  · intro h
    rw [← filter?_writtenName, h, filter?_name]
  · intro h
    rw [writtenName, h]

theorem recordOf (origin : Origin) :
    RecordOf Schema.condition (decode origin) parts writtenName {} Slots.step fun s =>
      .ok ⟨s.matchMessage.getD [], s.notMessage.getD [], s.matchCode.getD [],
        s.notCode.getD []⟩ where
  step_mem := by simp +contextual [parts, part, writtenName_eq_name, Slots.step, RecordPart.fill]
  step_not_mem name hname s d := by
    have hnone : filter? name = none := by
      cases hfilter : filter? name with
      | none => rfl
      | some filter =>
        rw [writtenName_eq_name.2 hfilter] at hname
        cases filter <;> simp [parts, part] at hname
    rw [Slots.step, hnone]
  get_put := by simp [parts, part]
  apart := by simp [parts, part, RecordPart.apart_iff, Filter.name]
  exists_fields := ⟨_, _, _, rfl, rfl⟩
  decode_obj _ := rfl
  start_none := by simp [parts, part]
  exists_finish s := by simp [parts, part]
  written_name := by simp [parts, part, writtenName_eq_name, filter?_name]
  eq_of_written := by simp [parts, part]

theorem takes_parts : ∀ p ∈ parts, ∀ v, Takes p.decoder v ↔ p.schema.accepts v = true := by
  simp [parts, part, takes_texts]

end Condition

namespace Variant

def parts (origin : Origin) : List (RecordPart Slots) := [
  ⟨"if", false, .nullable Schema.condition, optional (Condition.decode origin), (·.condition),
    fun s o => { s with condition := o }⟩,
  ⟨"title", true, .text, text, (·.title), fun s o => { s with title := o }⟩,
  ⟨"summary", true, .text, text, (·.summary), fun s o => { s with summary := o }⟩,
  ⟨"why", false, .nullable .text, optional text, (·.why), fun s o => { s with why := o }⟩,
  ⟨"steps", false, .list .text, list text, (·.steps), fun s o => { s with steps := o }⟩,
  ⟨"badges", false, .list .text, list text, (·.badges), fun s o => { s with badges := o }⟩]

theorem recordOf (origin : Origin) :
    RecordOf Schema.variant (decode origin) (parts origin) id {} (Slots.step origin) fun s => do
      let title ← required "title" s.title
      let summary ← required "summary" s.summary
      return ⟨s.condition.join, title, summary, s.why.join, s.steps.getD [],
        s.badges.getD []⟩ where
  step_mem := by simp [parts, Slots.step, RecordPart.fill]
  step_not_mem := by simp +contextual [parts, Slots.step]
  get_put := by simp [parts]
  apart := by simp [parts, RecordPart.apart_iff]
  exists_fields := ⟨_, _, _, rfl, rfl⟩
  decode_obj _ := rfl
  start_none := by simp [parts]
  exists_finish s := by
    simp [parts, exists_bind_ok, required_eq_ok, Option.isSome_iff_exists, pure_eq_ok]
  written_name := by simp
  eq_of_written := by simp

end Variant

namespace KindEntry

def parts (origin : Origin) : List (RecordPart (Option (List Variant))) := [
  ⟨"variants", false, .list Schema.variant, list (Variant.decode origin), id, fun _ o => o⟩]

theorem recordOf (origin : Origin) :
    RecordOf Schema.kindEntry (decode origin) (parts origin) id none (step origin) fun variants =>
      .ok ⟨variants.getD []⟩ where
  step_mem := by simp [parts, step, RecordPart.fill]
  step_not_mem := by simp +contextual [parts, step]
  get_put := by simp [parts]
  apart := by simp [parts]
  exists_fields := ⟨_, _, _, rfl, rfl⟩
  decode_obj _ := rfl
  start_none := by simp [parts]
  exists_finish s := by simp [parts]
  written_name := by simp
  eq_of_written := by simp

end KindEntry

namespace Deck

def parts (origin : Origin) : List (RecordPart Slots) := [
  ⟨"meta", true, Schema.edition, Edition.decode origin, (·.edition),
    fun s o => { s with edition := o }⟩,
  ⟨"ui", false, Schema.labels, Labels.decode origin, (·.labels),
    fun s o => { s with labels := o }⟩,
  ⟨"glossary", false, .map Schema.rules, decodeGlossary, (·.glossary),
    fun s o => { s with glossary := o }⟩,
  ⟨"errors", true, .map Schema.kindEntry, orderedMap (KindEntry.decode origin), (·.errors),
    fun s o => { s with errors := o }⟩]

theorem recordOf (origin : Origin) :
    RecordOf Schema.deck (decode origin) (parts origin) id {} (Slots.step origin) fun s => do
      let edition ← required "meta" s.edition
      let errors ← required "errors" s.errors
      return ⟨edition, s.labels.getD {}, s.glossary.getD .empty, errors⟩ where
  step_mem := by simp [parts, Slots.step, RecordPart.fill]
  step_not_mem := by simp +contextual [parts, Slots.step]
  get_put := by simp [parts]
  apart := by simp [parts, RecordPart.apart_iff]
  exists_fields := ⟨_, _, _, rfl, rfl⟩
  decode_obj _ := rfl
  start_none := by simp [parts]
  exists_finish s := by
    simp [parts, exists_bind_ok, required_eq_ok, Option.isSome_iff_exists, pure_eq_ok]
  written_name := by simp
  eq_of_written := by simp

theorem takes_glossary :
    Takes decodeGlossary j ↔ (Schema.map Schema.rules).accepts j = true := by
  simp only [decodeGlossary, takes_orderedMap, takes_text, Schema.rules, Schema.accepts_map,
    Schema.accepts_named, Schema.accepts_text]

def entryPath : List Step := [.field "errors", .members]

def variantPath : List Step := entryPath ++ [.field "variants", .items]

def conditionPath : List Step := variantPath ++ [.field "if"]

/-- Every record of a deck is written as an object; a condition may be null instead. -/
structure WrittenAsObjects (j : Json) : Prop where
  deck : IsObject j
  edition : ∀ u ∈ places [.field "meta"] j, IsObject u
  labels : ∀ u ∈ places [.field "ui"] j, IsObject u
  entries : ∀ u ∈ places entryPath j, IsObject u
  variants : ∀ u ∈ places variantPath j, IsObject u
  conditions : ∀ u ∈ places conditionPath j, u = .null ∨ IsObject u

end Deck

/-! What the schema accepts is decoded, if no condition names a filter by its second name. -/

section Takes
variable (origin : Origin) (hj : j.Distinct)
include hj

theorem Edition.takes_of_accepts (h : Schema.edition.accepts j = true) :
    Takes (Edition.decode origin) j :=
  (Edition.recordOf origin).takes_of_accepts hj (fun _ _ => rfl)
    (fun p hp v _ _ => (Edition.takes_parts p hp v).2) h

theorem Labels.takes_of_accepts (h : Schema.labels.accepts j = true) :
    Takes (Labels.decode origin) j :=
  (Labels.recordOf origin).takes_of_accepts hj (fun _ _ => rfl)
    (fun p hp v _ _ => (Labels.takes_parts p hp v).2) h

theorem Condition.takes_of_accepts (hnames : Condition.Unaliased j)
    (h : Schema.condition.accepts j = true) : Takes (Condition.decode origin) j :=
  (Condition.recordOf origin).takes_of_accepts hj hnames
    (fun p hp v _ _ => (Condition.takes_parts p hp v).2) h

theorem Variant.takes_of_accepts (hnames : ∀ u ∈ places [.field "if"] j, Condition.Unaliased u)
    (h : Schema.variant.accepts j = true) : Takes (Variant.decode origin) j := by
  refine (Variant.recordOf origin).takes_of_accepts hj (fun _ _ => rfl) ?_ h
  simp only [Variant.parts, List.forall_mem_cons, takes_text, takes_optional_text, takes_texts,
    Schema.accepts_text, imp_self, implies_true, and_true, List.not_mem_nil, false_imp_iff]
  intro v hv hdistinct haccepts
  have hcondition := hnames v (mem_places_field hv (mem_places_nil.2 rfl))
  rw [Schema.accepts_nullable] at haccepts
  rw [takes_optional]
  exact haccepts.imp_right (Condition.takes_of_accepts origin hdistinct hcondition)

theorem KindEntry.takes_of_accepts
    (hnames : ∀ u ∈ places [.field "variants", .items, .field "if"] j, Condition.Unaliased u)
    (h : Schema.kindEntry.accepts j = true) : Takes (KindEntry.decode origin) j := by
  refine (KindEntry.recordOf origin).takes_of_accepts hj (fun _ _ => rfl) ?_ h
  simp only [KindEntry.parts, List.forall_mem_singleton]
  intro v hv hdistinct
  refine takes_list_of_accepts hdistinct fun i hi hdistinct => ?_
  exact Variant.takes_of_accepts origin hdistinct fun u hu =>
    hnames u (mem_places_field hv (mem_places_items hi hu))

theorem Deck.takes_of_accepts (hnames : ∀ u ∈ places conditionPath j, Condition.Unaliased u)
    (h : Schema.deck.accepts j = true) : Takes (Deck.decode origin) j := by
  refine (Deck.recordOf origin).takes_of_accepts hj (fun _ _ => rfl) ?_ h
  simp only [Deck.parts, List.forall_mem_cons, List.not_mem_nil, false_imp_iff, implies_true,
    and_true]
  refine ⟨fun v _ => Edition.takes_of_accepts origin, fun v _ => Labels.takes_of_accepts origin,
    fun v _ _ => Deck.takes_glossary.2, fun v hv hdistinct => ?_⟩
  refine takes_orderedMap_of_accepts hdistinct fun f hf hdistinct => ?_
  exact KindEntry.takes_of_accepts origin hdistinct fun u hu =>
    hnames u (mem_places_field hv (mem_places_members hf hu))

end Takes

/-! What is decoded the schema accepts, if records are written as objects. -/

section Accepts
variable {origin : Origin} (hj : j.Distinct)
include hj

theorem Edition.accepts_of_takes (hobj : IsObject j) (h : Takes (Edition.decode origin) j) :
    Schema.edition.accepts j = true :=
  (Edition.recordOf origin).accepts_of_takes hj hobj
    (fun p hp v _ _ => (Edition.takes_parts p hp v).1) h

theorem Labels.accepts_of_takes (hobj : IsObject j) (h : Takes (Labels.decode origin) j) :
    Schema.labels.accepts j = true :=
  (Labels.recordOf origin).accepts_of_takes hj hobj
    (fun p hp v _ _ => (Labels.takes_parts p hp v).1) h

theorem Condition.accepts_of_takes (hobj : IsObject j) (h : Takes (Condition.decode origin) j) :
    Schema.condition.accepts j = true :=
  (Condition.recordOf origin).accepts_of_takes hj hobj
    (fun p hp v _ _ => (Condition.takes_parts p hp v).1) h

theorem Variant.accepts_of_takes (hobj : IsObject j)
    (hcondition : ∀ u ∈ places [.field "if"] j, u = .null ∨ IsObject u)
    (h : Takes (Variant.decode origin) j) : Schema.variant.accepts j = true := by
  refine (Variant.recordOf origin).accepts_of_takes hj hobj ?_ h
  simp only [Variant.parts, List.forall_mem_cons, takes_text, takes_optional_text, takes_texts,
    Schema.accepts_text, imp_self, implies_true, and_true, List.not_mem_nil, false_imp_iff]
  intro v hv hdistinct htakes
  rw [takes_optional] at htakes
  rw [Schema.accepts_nullable]
  obtain rfl | hobj := hcondition v (mem_places_field hv (mem_places_nil.2 rfl))
  · exact .inl rfl
  · exact htakes.imp_right (Condition.accepts_of_takes hdistinct hobj)

theorem KindEntry.accepts_of_takes (hobj : IsObject j)
    (hvariants : ∀ u ∈ places [.field "variants", .items] j, IsObject u)
    (hconditions : ∀ u ∈ places [.field "variants", .items, .field "if"] j, u = .null ∨ IsObject u)
    (h : Takes (KindEntry.decode origin) j) : Schema.kindEntry.accepts j = true := by
  refine (KindEntry.recordOf origin).accepts_of_takes hj hobj ?_ h
  simp only [KindEntry.parts, List.forall_mem_singleton]
  intro v hv hdistinct
  refine accepts_list_of_takes hdistinct fun i hi hdistinct => ?_
  have hvariant := hvariants i (mem_places_field hv (mem_places_items hi (mem_places_nil.2 rfl)))
  exact Variant.accepts_of_takes hdistinct hvariant fun u hu =>
    hconditions u (mem_places_field hv (mem_places_items hi hu))

theorem Deck.accepts_of_takes (hobj : Deck.WrittenAsObjects j) (h : Takes (Deck.decode origin) j) :
    Schema.deck.accepts j = true := by
  refine (Deck.recordOf origin).accepts_of_takes hj hobj.deck ?_ h
  simp only [Deck.parts, List.forall_mem_cons, List.not_mem_nil, false_imp_iff, implies_true,
    and_true]
  refine ⟨fun v hv hdistinct => ?_, fun v hv hdistinct => ?_, fun v _ _ => Deck.takes_glossary.1,
    fun v hv hdistinct => ?_⟩
  · have hedition := hobj.edition v (mem_places_field hv (mem_places_nil.2 rfl))
    exact Edition.accepts_of_takes hdistinct hedition
  · have hlabels := hobj.labels v (mem_places_field hv (mem_places_nil.2 rfl))
    exact Labels.accepts_of_takes hdistinct hlabels
  · refine accepts_map_of_takes hdistinct fun f hf hdistinct => ?_
    exact KindEntry.accepts_of_takes hdistinct
      (hobj.entries _ (mem_places_field hv (mem_places_members hf (mem_places_nil.2 rfl))))
      (fun u hu => hobj.variants u (mem_places_field hv (mem_places_members hf hu)))
      fun u hu => hobj.conditions u (mem_places_field hv (mem_places_members hf hu))

end Accepts

/-! The order of fields. -/

theorem Condition.unaliased_of_sorted (hj : j.Distinct) (h : Unaliased (sorted j)) :
    Unaliased j := by
  cases j with
  | obj fields =>
    obtain ⟨hnodup, -⟩ := distinct_obj.1 hj
    obtain ⟨fields', hsorted, hperm, hmem⟩ := exists_sorted_obj hnodup
    rw [hsorted] at h
    exact fun f hf => h (f.1, sorted f.2) ((hmem _ _).2 ⟨f.2, hf, rfl⟩)
  | _ => simp [Unaliased, Json.fields]

theorem Deck.writtenAsObjects_of_sorted (hj : j.Distinct) (h : WrittenAsObjects (sorted j)) :
    WrittenAsObjects j where
  deck := Schema.exists_obj_sorted.1 h.deck
  edition u hu := Schema.exists_obj_sorted.1 (h.edition _ (sorted_mem_places hj hu).2)
  labels u hu := Schema.exists_obj_sorted.1 (h.labels _ (sorted_mem_places hj hu).2)
  entries u hu := Schema.exists_obj_sorted.1 (h.entries _ (sorted_mem_places hj hu).2)
  variants u hu := Schema.exists_obj_sorted.1 (h.variants _ (sorted_mem_places hj hu).2)
  conditions u hu := by
    have hu := h.conditions _ (sorted_mem_places hj hu).2
    cases u <;> simp_all [sorted, IsObject]

/-- Decks and their published schema agree on the texts whose objects repeat no key. What is valid
under the schema is a deck, unless a condition names a filter by its second name, which the schema
passes over. What is a deck is valid, unless one of its records is written as a list. -/
theorem Deck.agrees_with_schema {s : String} {j : Json} (hs : Json.ofText s = .ok j)
    (hkeys : (readText s.toList).doc.Distinct) :
    ((∀ u ∈ places conditionPath j, Condition.Unaliased u) → Schema.deck.ValidAsPublished j →
      ∃ d, ofText s = .ok d) ∧
    ∀ d, ofText s = .ok d → WrittenAsObjects j → Schema.deck.ValidAsPublished j := by
  obtain ⟨w, hread, rfl⟩ := exists_written hs
  have hw : w.Distinct := by
    rw [hread] at hkeys
    exact hkeys
  rw [Schema.validAsPublished_deck, Schema.accepts_sorted _ hw, ofText,
    decodeText_of_readText decode hread]
  refine ⟨fun hnames haccepts => ?_, fun d hd hobj => ?_⟩
  · refine takes_of_accepts .text hw (fun u hu => ?_) haccepts
    obtain ⟨hu, hsorted⟩ := sorted_mem_places hw hu
    exact Condition.unaliased_of_sorted hu (hnames _ hsorted)
  · exact accepts_of_takes hw (writtenAsObjects_of_sorted hw hobj) ⟨d, hd⟩

namespace Deck

def small : Json := .obj [
  ("errors", .obj [("NameError", .obj [("variants", .arr [.obj [
    ("if", .obj [("match_message", .arr [.str "x"])]), ("summary", .str "s"),
    ("title", .str "t")]])])]),
  ("meta", .obj [("language", .str "en"), ("version", .num (.whole 1))])]

theorem readText_small : readText small.toCompact.toList = ⟨toDoc small, false⟩ := by
  have hversion : (Number.whole 1).Legible := legible_whole (by decide)
  exact readText_toCompact (by simp [small, Legible, LegibleFields, LegibleItems, hversion])

theorem writtenAsObjects_small : WrittenAsObjects small where
  deck := ⟨_, rfl⟩
  edition _ hu := ⟨_, List.mem_singleton.1 hu⟩
  labels _ hu := absurd hu List.not_mem_nil
  entries _ hu := ⟨_, List.mem_singleton.1 hu⟩
  variants _ hu := ⟨_, List.mem_singleton.1 hu⟩
  conditions _ hu := .inr ⟨_, List.mem_singleton.1 hu⟩

theorem small_agrees_with_schema :
    ∃ d, ofText small.toCompact = .ok d ∧ Schema.deck.ValidAsPublished small := by
  have hs : Json.ofText small.toCompact = .ok small := ofText_of_readText readText_small (by decide)
  have hkeys : (readText small.toCompact.toList).doc.Distinct := by
    rw [readText_small]
    simp [small, toDoc, entriesOf, itemsOf, Doc.Distinct, Items.Distinct, Entries.Distinct,
      Entries.names]
  have hnames : ∀ u ∈ places conditionPath small, Condition.Unaliased u := by
    intro u hu
    obtain rfl : u = .obj [("match_message", .arr [.str "x"])] := List.mem_singleton.1 hu
    simp [Condition.Unaliased, Json.fields, Condition.writtenName, Condition.filter?, Filter.name]
  have hvalid : Schema.deck.ValidAsPublished small := Schema.validAsPublished_deck.2 rfl
  obtain ⟨hparses, hvalid'⟩ := agrees_with_schema hs hkeys
  obtain ⟨d, hd⟩ := hparses hnames hvalid
  exact ⟨d, hd, hvalid' d hd writtenAsObjects_small⟩

end Deck
end ErrorGuide
