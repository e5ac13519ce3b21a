import ErrorGuide.Proofs.Data.Result
import ErrorGuide.Proofs.Schema.Acceptance
import Mathlib.Data.List.Pairwise

/-! Decoders and schemas of one shape. A record is decoded part by part; where its schema describes
the same parts, whether it decodes and whether it is accepted come down to the parts. -/

namespace ErrorGuide.Json
open Schema (Field)

section Takes
variable {α β γ ε : Type} {dec : Decoder α} {j : Json} {x : Except ε α}

def Takes (dec : Decoder α) (j : Json) : Prop := ∃ a, dec (toDoc j) = .ok a

theorem takes_text : Takes text j ↔ ∃ s, j = .str s := by
  cases j <;> simp [Takes, toDoc, text]

theorem takes_real : Takes real j ↔ ∃ n, j = .num n := by
  cases j with
  | num n => cases n <;> simp [Takes, toDoc, real]
  | _ => simp [Takes, toDoc, real]

theorem takes_optional : Takes (optional dec) j ↔ j = .null ∨ Takes dec j := by
  cases j with
  | null => simp [Takes, toDoc, optional]
  | _ => simp [Takes, toDoc, optional, exists_map_ok]

theorem decode_itemsOf {items : List Json} :
    (∃ as, (itemsOf items).decode dec = .ok as) ↔ ∀ i ∈ items, Takes dec i := by
  induction items with
  | nil => simp [itemsOf, Items.decode]
  | cons item items ih =>
    simp only [itemsOf, Items.decode, exists_bind_ok, List.forall_mem_cons, ← ih, pure_eq_ok]
    simp [Takes]

theorem takes_list : Takes (list dec) j ↔ ∃ items, j = .arr items ∧ ∀ i ∈ items, Takes dec i := by
  cases j with
  | arr items => simpa [Takes, toDoc, list] using decode_itemsOf
  | _ => simp [Takes, toDoc, list]

theorem fold_orderedMap {fields : List (String × Json)} (m : OrderedMap α) :
    (∃ m', (entriesOf fields).fold (fun m name d => (dec d).map (m.insert name)) m = .ok m') ↔
      ∀ f ∈ fields, Takes dec f.2 := by
  induction fields generalizing m with
  | nil => simp [entriesOf, Entries.fold]
  | cons field fields ih =>
    rw [entriesOf, Entries.fold, exists_bind_ok, List.forall_mem_cons]
    simp only [ih, exists_and_right, exists_map_ok, Takes]

theorem takes_orderedMap : Takes (orderedMap dec) j ↔
    ∃ fields, j = .obj fields ∧ ∀ f ∈ fields, Takes dec f.2 := by
  cases j with
  | obj fields => simpa [Takes, toDoc, orderedMap] using fold_orderedMap .empty
  | _ => simp [Takes, toDoc, orderedMap]

/-! Lists and maps of values that are accepted and decoded alike. -/

section Alike
variable {schema : Schema} {v : Json}

theorem takes_list_of_accepts (hv : v.Distinct)
    (h : ∀ i ∈ v.items, i.Distinct → schema.accepts i = true → Takes dec i)
    (haccepts : (Schema.list schema).accepts v = true) : Takes (list dec) v := by
  obtain ⟨items, rfl, hitems⟩ := Schema.accepts_list.1 haccepts
  exact takes_list.2 ⟨items, rfl, fun i hi => h i hi (distinct_arr.1 hv i hi) (hitems i hi)⟩

theorem accepts_list_of_takes (hv : v.Distinct)
    (h : ∀ i ∈ v.items, i.Distinct → Takes dec i → schema.accepts i = true)
    (htakes : Takes (list dec) v) : (Schema.list schema).accepts v = true := by
  obtain ⟨items, rfl, hitems⟩ := takes_list.1 htakes
  exact Schema.accepts_list.2
    ⟨items, rfl, fun i hi => h i hi (distinct_arr.1 hv i hi) (hitems i hi)⟩

theorem takes_orderedMap_of_accepts (hv : v.Distinct)
    (h : ∀ f ∈ v.fields, f.2.Distinct → schema.accepts f.2 = true → Takes dec f.2)
    (haccepts : (Schema.map schema).accepts v = true) : Takes (orderedMap dec) v := by
  obtain ⟨fields, rfl, hfields⟩ := Schema.accepts_map.1 haccepts
  have hdistinct := (distinct_obj.1 hv).2
  exact takes_orderedMap.2 ⟨fields, rfl, fun f hf => h f hf (hdistinct f hf) (hfields f hf)⟩

theorem accepts_map_of_takes (hv : v.Distinct)
    (h : ∀ f ∈ v.fields, f.2.Distinct → Takes dec f.2 → schema.accepts f.2 = true)
    (htakes : Takes (orderedMap dec) v) : (Schema.map schema).accepts v = true := by
  obtain ⟨fields, rfl, hfields⟩ := takes_orderedMap.1 htakes
  have hdistinct := (distinct_obj.1 hv).2
  exact Schema.accepts_map.2 ⟨fields, rfl, fun f hf => h f hf (hdistinct f hf) (hfields f hf)⟩

end Alike
end Takes

theorem required_eq_ok {α : Type} {field : String} {o : Option α} {a : α} :
    required field o = .ok a ↔ o = some a := by
  cases o <;> simp [required]

/-- One part of a record: what its schema says, how it decodes, and where the decoder keeps it until
the record is complete. -/
structure RecordPart (σ : Type) where
  name : String
  required : Bool
  schema : Schema
  {Value : Type}
  decoder : Decoder Value
  get : σ → Option Value
  put : σ → Option Value → σ

section Parts
variable {α σ : Type} {s s' : σ} {d : Doc} {name : String} {v : Json} {p q : RecordPart σ}
  {parts : List (RecordPart σ)} {written : String → String}
  {step : σ → String → Doc → Except Cause σ} {fields : List (String × Json)}

def RecordPart.fill (p : RecordPart σ) (s : σ) (d : Doc) : Except Cause σ := do
  return p.put s (← slot p.name (p.get s) p.decoder d)

theorem RecordPart.fill_eq_ok : p.fill s d = .ok s' ↔
    p.get s = none ∧ ∃ a, p.decoder d = .ok a ∧ s' = p.put s (some a) := by
  rw [fill, slot]
  cases p.get s <;> cases p.decoder d <;>
    simp [Except.map, bind, Except.bind, pure, Except.pure, eq_comm]

structure RecordPart.Apart (p q : RecordPart σ) : Prop where
  name_ne : p.name ≠ q.name
  get_put : ∀ s o, p.get (q.put s o) = p.get s
  put_get : ∀ s o, q.get (p.put s o) = q.get s

theorem RecordPart.apart_iff : p.Apart q ↔ p.name ≠ q.name ∧ (∀ s o, p.get (q.put s o) = p.get s) ∧
    ∀ s o, q.get (p.put s o) = q.get s :=
  ⟨fun h => ⟨h.name_ne, h.get_put, h.put_get⟩, fun ⟨hne, hget, hput⟩ => ⟨hne, hget, hput⟩⟩

instance : Std.Symm (@RecordPart.Apart σ) where
  symm _ _ h := ⟨h.name_ne.symm, h.put_get, h.get_put⟩

/-- A field fills the part of the name that it is written under; any other is passed over. -/
structure FilledBy (parts : List (RecordPart σ)) (written : String → String)
    (step : σ → String → Doc → Except Cause σ) : Prop where
  step_mem : ∀ p ∈ parts, ∀ name, written name = p.name → ∀ s d, step s name d = p.fill s d
  step_not_mem : ∀ name, written name ∉ parts.map (·.name) → ∀ s d,
    step s name d = (do ignore d; return s)
  get_put : ∀ p ∈ parts, ∀ s o, p.get (p.put s o) = o
  apart : parts.Pairwise RecordPart.Apart

namespace FilledBy
variable (h : FilledBy parts written step)
include h

theorem apart_of_ne (hp : p ∈ parts) (hq : q ∈ parts) (hne : p ≠ q) : p.Apart q :=
  h.apart.forall hp hq hne

theorem isSome_get_put (hp : p ∈ parts) (hq : q ∈ parts) {a : p.Value} :
    (q.get (p.put s (some a))).isSome = true ↔ (q.get s).isSome = true ∨ q.name = p.name := by
  by_cases hpq : p = q
  · subst hpq
    simp [h.get_put p hp]
  · have hapart := h.apart_of_ne hp hq hpq
    simp [hapart.put_get, hapart.name_ne.symm]

/-- What a field does that is taken: its value decodes, and the part of its name is filled. -/
theorem of_step (hstep : step s name (toDoc v) = .ok s') :
    (∀ p ∈ parts, p.name = written name → Takes p.decoder v) ∧
      ∀ q ∈ parts, (q.get s').isSome = true ↔ (q.get s).isSome = true ∨ q.name = written name := by
  by_cases hname : written name ∈ parts.map (·.name)
  · obtain ⟨p, hp, hpname⟩ := List.mem_map.1 hname
    rw [h.step_mem p hp name hpname.symm, RecordPart.fill_eq_ok] at hstep
    obtain ⟨-, a, ha, rfl⟩ := hstep
    refine ⟨fun q hq hqname => ?_, fun q hq => ?_⟩
    · by_cases hpq : p = q
      · subst hpq
        exact ⟨a, ha⟩
      · exact absurd (hpname.trans hqname.symm) (h.apart_of_ne hp hq hpq).name_ne
    · rw [h.isSome_get_put hp hq, hpname]
  · rw [h.step_not_mem name hname, ignore, skip_toDoc] at hstep
    cases hstep
    have hother : ∀ p ∈ parts, p.name ≠ written name := fun p hp heq =>
      hname (List.mem_map.2 ⟨p, hp, heq⟩)
    exact ⟨fun p hp heq => absurd heq (hother p hp), fun q hq => by simp [hother q hq]⟩

/-- A field is taken if the part of its name is free and its value decodes. -/
theorem exists_step (hfree : ∀ p ∈ parts, p.name = written name → p.get s = none)
    (htakes : ∀ p ∈ parts, p.name = written name → Takes p.decoder v) :
    ∃ s', step s name (toDoc v) = .ok s' := by
  by_cases hname : written name ∈ parts.map (·.name)
  · obtain ⟨p, hp, hpname⟩ := List.mem_map.1 hname
    obtain ⟨a, ha⟩ := htakes p hp hpname
    rw [h.step_mem p hp name hpname.symm]
    exact ⟨_, RecordPart.fill_eq_ok.2 ⟨hfree p hp hpname, a, ha, rfl⟩⟩
  · rw [h.step_not_mem name hname, ignore, skip_toDoc]
    exact ⟨s, rfl⟩

theorem of_fold (hfold : (entriesOf fields).fold step s = .ok s') :
    (∀ f ∈ fields, ∀ p ∈ parts, p.name = written f.1 → Takes p.decoder f.2) ∧
      ∀ q ∈ parts, (q.get s').isSome = true ↔
        (q.get s).isSome = true ∨ q.name ∈ fields.map (written ·.1) := by
  induction fields generalizing s with
  | nil =>
    cases hfold
    simp
  | cons field fields ih =>
    obtain ⟨s₁, hs₁, hfields⟩ := bind_eq_ok.1 hfold
    obtain ⟨htakes, hfilled⟩ := h.of_step hs₁
    obtain ⟨htakes', hfilled'⟩ := ih hfields
    refine ⟨List.forall_mem_cons.2 ⟨htakes, htakes'⟩, fun q hq => ?_⟩
    rw [hfilled' q hq, hfilled q hq, List.map_cons, List.mem_cons, or_assoc]

theorem exists_fold (hnodup : (fields.map (written ·.1)).Nodup)
    (hfree : ∀ p ∈ parts, p.name ∈ fields.map (written ·.1) → p.get s = none)
    (htakes : ∀ f ∈ fields, ∀ p ∈ parts, p.name = written f.1 → Takes p.decoder f.2) :
    ∃ s', (entriesOf fields).fold step s = .ok s' := by
  induction fields generalizing s with
  | nil => exact ⟨s, rfl⟩
  | cons field fields ih =>
    obtain ⟨name, v⟩ := field
    obtain ⟨hname, hnodup⟩ := List.nodup_cons.1 hnodup
    obtain ⟨hv, htakes⟩ := List.forall_mem_cons.1 htakes
    obtain ⟨s₁, hs₁⟩ := h.exists_step
      (fun p hp heq => hfree p hp (List.mem_cons.2 (.inl heq))) hv
    obtain ⟨-, hfilled⟩ := h.of_step hs₁
    -- No name comes twice, so the part just filled is not needed for what follows.
    have hfree' : ∀ p ∈ parts, p.name ∈ fields.map (written ·.1) → p.get s₁ = none := by
      intro p hp hmem
      have hnone := hfree p hp (List.mem_cons_of_mem _ hmem)
      have hne : p.name ≠ written name := by
        rintro heq
        rw [heq] at hmem
        exact hname hmem
      simpa [hnone, hne] using hfilled p hp
    rw [entriesOf, Entries.fold, hs₁, ok_bind]
    exact ih hnodup hfree' htakes

end FilledBy

/-- A record that is filled part by part, and a schema of the same parts. -/
structure RecordOf (schema : Schema) (dec : Decoder α) (parts : List (RecordPart σ))
    (written : String → String) (start : σ) (step : σ → String → Doc → Except Cause σ)
    (finish : σ → Except Cause α) : Prop extends FilledBy parts written step where
  exists_fields : ∃ name description fs, schema = .named name description (.record fs) ∧
    fs.map (fun f => (f.1.name, f.1.required, f.2)) =
      parts.map fun p => (p.name, p.required, p.schema)
  decode_obj : ∀ entries, dec (.obj entries) = entries.fold step start >>= finish
  start_none : ∀ p ∈ parts, p.get start = none
  exists_finish : ∀ s, (∃ a, finish s = .ok a) ↔
    ∀ p ∈ parts, p.required = true → (p.get s).isSome = true
  written_name : ∀ p ∈ parts, written p.name = p.name
  eq_of_written : ∀ p ∈ parts, p.required = true → ∀ name, written name = p.name → name = p.name

namespace RecordOf
variable {schema : Schema} {dec : Decoder α} {start : σ} {finish : σ → Except Cause α} {j : Json}
  (h : RecordOf schema dec parts written start step finish)
include h

theorem accepts_iff : schema.accepts j = true ↔ (∃ fields, j = .obj fields) ∧ ∀ p ∈ parts,
    (p.required = true → (j.field? p.name).isSome = true) ∧
      ∀ v, j.field? p.name = some v → p.schema.accepts v = true := by
  obtain ⟨name, description, fs, rfl, hfields⟩ := h.exists_fields
  have hforall (R : String × Bool × Schema → Prop) : (∀ f ∈ fs, R (f.1.name, f.1.required, f.2)) ↔
      ∀ p ∈ parts, R (p.name, p.required, p.schema) := by
    rw [← List.forall_mem_map (P := R), hfields, List.forall_mem_map]
  rw [Schema.accepts_named, Schema.accepts_record,
    hforall fun f => f.2.1 = true → (j.field? f.1).isSome = true,
    hforall fun f => ∀ v, j.field? f.1 = some v → f.2.2.accepts v = true, ← forall₂_and]

/-- A record whose fields are written under the names of the schema decodes if the schema accepts
it, so far as this is so of its parts. -/
theorem takes_of_accepts (hj : j.Distinct) (hwritten : ∀ f ∈ j.fields, written f.1 = f.1)
    (hparts : ∀ p ∈ parts, ∀ v, j.field? p.name = some v → v.Distinct →
      p.schema.accepts v = true → Takes p.decoder v)
    (haccepts : schema.accepts j = true) : Takes dec j := by
  obtain ⟨⟨fields, rfl⟩, haccepts⟩ := h.accepts_iff.1 haccepts
  obtain ⟨hnodup, hdistinct⟩ := distinct_obj.1 hj
  have hnames : fields.map (written ·.1) = fields.map (·.1) := List.map_congr_left hwritten
  obtain ⟨s, hs⟩ := h.exists_fold (s := start) (hnames ▸ hnodup)
    (fun p hp _ => h.start_none p hp) fun f hf p hp heq => by
      have hfield : (obj fields).field? p.name = some f.2 := by
        rw [field?_eq_some hnodup, heq, hwritten f hf]
        exact hf
      exact hparts p hp f.2 hfield (hdistinct f hf) ((haccepts p hp).2 f.2 hfield)
  obtain ⟨-, hfilled⟩ := h.of_fold hs
  obtain ⟨a, ha⟩ := (h.exists_finish s).2 fun p hp hrequired => by
    obtain ⟨v, hv⟩ := Option.isSome_iff_exists.1 ((haccepts p hp).1 hrequired)
    rw [hfilled p hp, hnames]
    exact .inr (List.mem_map_of_mem ((field?_eq_some hnodup).1 hv))
  refine ⟨a, ?_⟩
  rw [toDoc, h.decode_obj, hs, ok_bind, ha]

/-- The schema accepts an object that decodes, so far as this is so of its parts. -/
theorem accepts_of_takes (hj : j.Distinct) (hobj : ∃ fields, j = .obj fields)
    (hparts : ∀ p ∈ parts, ∀ v, j.field? p.name = some v → v.Distinct → Takes p.decoder v →
      p.schema.accepts v = true)
    (htakes : Takes dec j) : schema.accepts j = true := by
  obtain ⟨fields, rfl⟩ := hobj
  obtain ⟨hnodup, hdistinct⟩ := distinct_obj.1 hj
  obtain ⟨a, ha⟩ := htakes
  rw [toDoc, h.decode_obj] at ha
  obtain ⟨s, hs, hfinish⟩ := bind_eq_ok.1 ha
  obtain ⟨htakes, hfilled⟩ := h.of_fold hs
  refine h.accepts_iff.2 ⟨⟨fields, rfl⟩, fun p hp => ⟨fun hrequired => ?_, fun v hv => ?_⟩⟩
  · have hsome := (h.exists_finish s).1 ⟨a, hfinish⟩ p hp hrequired
    rw [hfilled p hp, h.start_none p hp] at hsome
    obtain ⟨f, hf, heq⟩ := List.mem_map.1 (hsome.resolve_left (by simp))
    rw [← h.eq_of_written p hp hrequired f.1 heq, Option.isSome_iff_exists]
    exact ⟨f.2, (field?_eq_some hnodup).2 hf⟩
  · have hmem := (field?_eq_some hnodup).1 hv
    exact hparts p hp v hv (hdistinct _ hmem) (htakes _ hmem p hp (h.written_name p hp).symm)

end RecordOf
end Parts

end ErrorGuide.Json
