import ErrorGuide.Proofs.Schema.Acceptance

/-! JSON Schema, so far as decks' schema is written in it: what its keywords demand of a value, and
that this is what the schema accepts. -/

namespace ErrorGuide.Schema
open Json

def typeName : Json → String
  | .null => "null"
  | .bool _ => "boolean"
  | .num _ => "number"
  | .str _ => "string"
  | .arr _ => "array"
  | .obj _ => "object"

def HasType (type j : Json) : Prop :=
  type = .str (typeName j) ∨ type = .str "integer" ∧ isWhole j = true

def allowedTypes : Json → List Json
  | .arr types => types
  | type => [type]

def referent? (root : Json) (pointer : String) : Option Json :=
  (root.field? "$defs").bind fun definitions =>
    (definitions.fields.find? fun d => "#/$defs/" ++ d.1 = pointer).map (·.2)

mutual

/-- A value is valid under a schema of the document `root` if it meets each of its keywords. A
keyword that is not told of here demands nothing; decks' schema has some that annotate. -/
inductive Valid (root : Json) : Json → Json → Prop
  | intro {schema j : Json} (possible : schema ≠ .bool false)
    (type : ∀ v, schema.field? "type" = some v → ∃ t ∈ allowedTypes v, HasType t j)
    (properties : ∀ ps, schema.field? "properties" = some (.obj ps) →
      ∀ p ∈ ps, ∀ v, j.field? p.1 = some v → Valid root p.2 v)
    (additional : ∀ s, schema.field? "additionalProperties" = some s → ∀ f ∈ j.fields,
      (∀ ps, schema.field? "properties" = some ps → f.1 ∉ ps.fields.map (·.1)) → Valid root s f.2)
    (required : ∀ names, schema.field? "required" = some (.arr names) → ∀ name, .str name ∈ names →
      (∃ fields, j = .obj fields) → (j.field? name).isSome = true)
    (items : ∀ s, schema.field? "items" = some s → ∀ i ∈ j.items, Valid root s i)
    (anyOf : ∀ ss, schema.field? "anyOf" = some (.arr ss) → ValidUnderOne root ss j)
    (reference : ∀ p, schema.field? "$ref" = some (.str p) →
      ValidUnderOne root (referent? root p).toList j) : Valid root schema j

inductive ValidUnderOne (root : Json) : List Json → Json → Prop
  | intro {schemas : List Json} {schema j : Json} (mem : schema ∈ schemas)
    (valid : Valid root schema j) : ValidUnderOne root schemas j

end

section Valid
variable {root schema j : Json} {schemas : List Json} {ks before after : List (String × Json)}
  {fs : List (Field × Schema)} {pointer : String}

theorem validUnderOne_iff : ValidUnderOne root schemas j ↔ ∃ s ∈ schemas, Valid root s j := by
  constructor
  · rintro ⟨hmem, hvalid⟩
    exact ⟨_, hmem, hvalid⟩
  · rintro ⟨s, hmem, hvalid⟩
    exact ⟨hmem, hvalid⟩

theorem valid_iff : Valid root (.obj ks) j ↔
    (∀ v, ks.lookup "type" = some v → ∃ t ∈ allowedTypes v, HasType t j) ∧
    (∀ ps, ks.lookup "properties" = some (.obj ps) →
      ∀ p ∈ ps, ∀ v, j.field? p.1 = some v → Valid root p.2 v) ∧
    (∀ s, ks.lookup "additionalProperties" = some s → ∀ f ∈ j.fields,
      (∀ ps, ks.lookup "properties" = some ps → f.1 ∉ ps.fields.map (·.1)) → Valid root s f.2) ∧
    (∀ names, ks.lookup "required" = some (.arr names) → ∀ name, .str name ∈ names →
      (∃ fields, j = .obj fields) → (j.field? name).isSome = true) ∧
    (∀ s, ks.lookup "items" = some s → ∀ i ∈ j.items, Valid root s i) ∧
    (∀ ss, ks.lookup "anyOf" = some (.arr ss) → ∃ s ∈ ss, Valid root s j) ∧
    ∀ p, ks.lookup "$ref" = some (.str p) → ∃ s, referent? root p = some s ∧ Valid root s j := by
  constructor
  · rintro ⟨-, htype, hprops, hadditional, hrequired, hitems, hany, href⟩
    refine ⟨htype, hprops, hadditional, hrequired, hitems, fun ss h => ?_, fun p h => ?_⟩
    · exact validUnderOne_iff.1 (hany ss h)
    · simpa using validUnderOne_iff.1 (href p h)
  · rintro ⟨htype, hprops, hadditional, hrequired, hitems, hany, href⟩
    refine ⟨by simp, htype, hprops, hadditional, hrequired, hitems, fun ss h => ?_, fun p h => ?_⟩
    · exact validUnderOne_iff.2 (hany ss h)
    · exact validUnderOne_iff.2 (by simpa using href p h)

def annotations : List String := ["$schema", "title", "description", "default", "format", "$defs"]

theorem lookup_annotated (hbefore : ∀ k ∈ before, k.1 ∈ annotations)
    (hafter : ∀ k ∈ after, k.1 ∈ annotations) {name : String} (hname : name ∉ annotations) :
    (before ++ ks ++ after).lookup name = ks.lookup name := by
  have hnone {more : List (String × Json)} (hmore : ∀ k ∈ more, k.1 ∈ annotations) :
      more.lookup name = none := by
    rw [List.lookup_eq_none_iff]
    intro k hk
    rw [bne_iff_ne]
    rintro rfl
    exact hname (hmore k hk)
  rw [List.lookup_append, List.lookup_append, hnone hbefore, hnone hafter]
  simp

/-- What annotates demands nothing. -/
theorem valid_annotated (hbefore : ∀ k ∈ before, k.1 ∈ annotations)
    (hafter : ∀ k ∈ after, k.1 ∈ annotations) :
    Valid root (.obj (before ++ ks ++ after)) j ↔ Valid root (.obj ks) j := by
  have hlookup {name : String} (hname : name ∉ annotations) :
      (before ++ ks ++ after).lookup name = ks.lookup name :=
    lookup_annotated hbefore hafter hname
  rw [valid_iff, valid_iff, hlookup (by decide), hlookup (by decide), hlookup (by decide),
    hlookup (by decide), hlookup (by decide), hlookup (by decide), hlookup (by decide)]

theorem hasType_null : HasType (.str "null") j ↔ j = .null := by
  cases j <;> simp [HasType, typeName]

theorem hasType_number : HasType (.str "number") j ↔ ∃ n, j = .num n := by
  cases j <;> simp [HasType, typeName]

theorem hasType_string : HasType (.str "string") j ↔ ∃ s, j = .str s := by
  cases j <;> simp [HasType, typeName]

theorem hasType_array : HasType (.str "array") j ↔ ∃ items, j = .arr items := by
  cases j <;> simp [HasType, typeName]

theorem hasType_object : HasType (.str "object") j ↔ ∃ fields, j = .obj fields := by
  cases j <;> simp [HasType, typeName]

theorem valid_text : Valid root (.obj text.keywords) j ↔ ∃ s, j = .str s := by
  rw [valid_iff, ← hasType_string]
  simp [keywords, typed, allowedTypes, lookup_entry_cons]

theorem valid_number : Valid root (.obj number.keywords) j ↔ ∃ n, j = .num n := by
  rw [valid_iff, ← hasType_number]
  simp [keywords, typed, allowedTypes, lookup_entry_cons]

theorem valid_nullable_text : Valid root (.obj (nullable text).keywords) j ↔
    j = .null ∨ ∃ s, j = .str s := by
  rw [valid_iff, ← hasType_null, ← hasType_string]
  simp [keywords, orNull, typed, allowedTypes, lookup_entry_cons, or_comm]

theorem valid_null : Valid root (.obj [typed "null"]) j ↔ j = .null := by
  rw [valid_iff, ← hasType_null]
  simp [typed, allowedTypes, lookup_entry_cons]

theorem valid_list : Valid root (.obj [typed "array", ("items", schema)]) j ↔
    ∃ items, j = .arr items ∧ ∀ i ∈ items, Valid root schema i := by
  have hlist : Valid root (.obj [typed "array", ("items", schema)]) j ↔
      (∃ items, j = .arr items) ∧ ∀ i ∈ j.items, Valid root schema i := by
    rw [valid_iff, ← hasType_array]
    simp [typed, allowedTypes, lookup_entry_cons]
  rw [hlist]
  constructor
  · rintro ⟨⟨items, rfl⟩, hitems⟩
    exact ⟨items, rfl, hitems⟩
  · rintro ⟨items, rfl, hitems⟩
    exact ⟨⟨items, rfl⟩, hitems⟩

theorem valid_map : Valid root (.obj [typed "object", ("additionalProperties", schema)]) j ↔
    ∃ fields, j = .obj fields ∧ ∀ f ∈ fields, Valid root schema f.2 := by
  have hmap : Valid root (.obj [typed "object", ("additionalProperties", schema)]) j ↔
      (∃ fields, j = .obj fields) ∧ ∀ f ∈ j.fields, Valid root schema f.2 := by
    rw [valid_iff, ← hasType_object]
    simp [typed, allowedTypes, lookup_entry_cons]
  rw [hmap]
  constructor
  · rintro ⟨⟨fields, rfl⟩, hfields⟩
    exact ⟨fields, rfl, hfields⟩
  · rintro ⟨fields, rfl, hfields⟩
    exact ⟨⟨fields, rfl⟩, hfields⟩

theorem valid_reference : Valid root (.obj [("$ref", .str pointer)]) j ↔
    ∃ s, referent? root pointer = some s ∧ Valid root s j := by
  rw [valid_iff]
  simp [lookup_entry_cons]

theorem valid_orNull_reference :
    Valid root (.obj (orNull [("$ref", .str pointer)])) j ↔
      j = .null ∨ Valid root (.obj [("$ref", .str pointer)]) j := by
  rw [valid_iff]
  simp [orNull, valid_null, or_comm, lookup_entry_cons]

theorem mem_requiredNames {name : String} : name ∈ requiredNames fs ↔
    ∃ f ∈ fs, f.1.required = true ∧ f.1.name = name := by
  simp [requiredNames, and_assoc]

theorem valid_record : Valid root (.obj (record fs).keywords) j ↔
    (∃ fields, j = .obj fields) ∧
      (∀ f ∈ fs, f.1.required = true → (j.field? f.1.name).isSome = true) ∧
      ∀ p ∈ properties fs, ∀ v, j.field? p.1 = some v → Valid root p.2 v := by
  have hrecord : Valid root (.obj (record fs).keywords) j ↔ HasType (.str "object") j ∧
      (∀ p ∈ properties fs, ∀ v, j.field? p.1 = some v → Valid root p.2 v) ∧
      ∀ name ∈ requiredNames fs, (∃ fields, j = .obj fields) → (j.field? name).isSome = true := by
    rw [valid_iff, keywords]
    -- Without a required field the keyword is left out.
    cases requiredNames fs <;> simp [typed, allowedTypes, lookup_entry_cons]
  have hrequired : (∀ f ∈ fs, f.1.required = true → (j.field? f.1.name).isSome = true) ↔
      ∀ name ∈ requiredNames fs, (j.field? name).isSome = true := by
    simp only [mem_requiredNames]
    constructor
    · rintro h _ ⟨f, hf, hrequired, rfl⟩
      exact h f hf hrequired
    · exact fun h f hf hrequired => h _ ⟨f, hf, hrequired, rfl⟩
  rw [hrecord, hrequired, hasType_object]
  constructor
  · rintro ⟨hobj, hprops, hnames⟩
    exact ⟨hobj, fun name hname => hnames name hname hobj, hprops⟩
  · rintro ⟨hobj, hnames, hprops⟩
    exact ⟨hobj, hprops, fun name hname _ => hnames name hname⟩

mutual

/-- The schema is written with keywords told of above, and what it refers to is defined. -/
def WrittenIn (root : Json) : Schema → Prop
  | .text => True
  | .number => True
  | .word => False
  | .choice _ => False
  | .nullable .text => True
  | .nullable (.named name description s) => WrittenIn root (.named name description s)
  | .nullable _ => False
  | .list item => WrittenIn root item
  | .map value => WrittenIn root value
  | .record fs => FieldsWrittenIn root fs
  | .named name description s =>
    referent? root ("#/$defs/" ++ name) = some (.obj (described description ++ s.keywords)) ∧
      WrittenIn root s

def FieldsWrittenIn (root : Json) : List (Field × Schema) → Prop
  | [] => True
  | (_, s) :: fs => WrittenIn root s ∧ FieldsWrittenIn root fs

end

theorem described_annotates (description : Option String) :
    ∀ k ∈ described description, k.1 ∈ annotations := by
  cases description <;> simp [described, annotations]

theorem valid_described (description : Option String) :
    Valid root (.obj (described description ++ ks)) j ↔ Valid root (.obj ks) j := by
  rw [← List.append_nil (described description ++ ks),
    valid_annotated (described_annotates description) (by simp)]

mutual

/-- A value is valid under a schema as it is written just if the schema accepts it. -/
theorem valid_iff_accepts : ∀ {s : Schema}, WrittenIn root s → ∀ {j : Json},
    Valid root (.obj s.keywords) j ↔ s.accepts j = true
  | .text, _, j => by rw [valid_text, accepts_text]
  | .number, _, j => by rw [valid_number, accepts_number]
  | .nullable .text, _, j => by rw [valid_nullable_text, accepts_nullable, accepts_text]
  | .nullable (.named name description s), hs, j => by
    rw [WrittenIn] at hs
    rw [keywords, keywords, valid_orNull_reference, accepts_nullable, ← valid_iff_accepts hs,
      keywords]
  | .list item, hs, j => by
    rw [WrittenIn] at hs
    rw [keywords, valid_list, accepts_list]
    simp only [valid_iff_accepts hs]
  | .map value, hs, j => by
    rw [WrittenIn] at hs
    rw [keywords, valid_map, accepts_map]
    simp only [valid_iff_accepts hs]
  | .record fs, hs, j => by
    rw [WrittenIn] at hs
    rw [valid_record, accepts_record, validFields_iff_accepts hs]
  | .named name description s, hs, j => by
    rw [WrittenIn] at hs
    obtain ⟨hname, hs⟩ := hs
    rw [keywords, valid_reference, hname, accepts_named, ← valid_iff_accepts hs]
    simp [valid_described]

theorem validFields_iff_accepts : ∀ {fs : List (Field × Schema)}, FieldsWrittenIn root fs →
    ∀ {j : Json}, (∀ p ∈ properties fs, ∀ v, j.field? p.1 = some v → Valid root p.2 v) ↔
      ∀ f ∈ fs, ∀ v, j.field? f.1.name = some v → f.2.accepts v = true
  | [], _, j => by simp [properties]
  | (field, s) :: fs, hfs, j => by
    rw [FieldsWrittenIn] at hfs
    obtain ⟨hs, hfs⟩ := hfs
    have hdefault : ∀ k ∈ (field.default.map (("default", ·))).toList, k.1 ∈ annotations := by
      cases field.default <;> simp [annotations]
    rw [properties, List.forall_mem_cons, List.forall_mem_cons, validFields_iff_accepts hfs]
    simp only [valid_annotated (described_annotates field.description) hdefault,
      valid_iff_accepts hs]

end

end Valid

def ValidAsPublished (s : Schema) (j : Json) : Prop := Valid s.document s.document j

theorem validAsPublished_iff {name : String} {description : Option String} {s : Schema} {j : Json}
    (h : WrittenIn (named name description s).document s) :
    (named name description s).ValidAsPublished j ↔
      (named name description s).accepts j = true := by
  have hbefore : ∀ k ∈ [("$schema", .str dialect), ("title", .str name)] ++ described description,
      k.1 ∈ annotations := by
    rw [List.forall_mem_append]
    exact ⟨by simp [annotations], described_annotates description⟩
  have hafter : ∀ k ∈ [("$defs", Json.obj s.definitions)], k.1 ∈ annotations := by
    simp [annotations]
  rw [accepts_named, ← valid_iff_accepts h, ← valid_annotated hbefore hafter]
  rfl

theorem writtenIn_deck : ∃ name description s, deck = named name description s ∧
    WrittenIn deck.document s := by
  refine ⟨_, _, _, rfl, ?_⟩
  repeat' first | exact trivial | exact rfl | apply And.intro

theorem validAsPublished_deck {j : Json} : deck.ValidAsPublished j ↔ deck.accepts j = true := by
  obtain ⟨name, description, s, hdeck, hwritten⟩ := writtenIn_deck
  rw [hdeck] at hwritten ⊢
  exact validAsPublished_iff hwritten

end ErrorGuide.Schema
