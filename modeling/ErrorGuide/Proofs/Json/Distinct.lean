import ErrorGuide.Proofs.Json.Nesting

/-! Values in which no object repeats a key: what a text was read from, and the places in it. -/

namespace ErrorGuide.Json

def Entries.names : Entries → List String
  | .entry (.ok name) _ rest => name :: rest.names
  | .entry (.error _) _ rest => rest.names
  | _ => []

mutual

def Doc.Distinct : Doc → Prop
  | .arr items => items.Distinct
  | .obj entries => entries.names.Nodup ∧ entries.Distinct
  | _ => True

def Items.Distinct : Items → Prop
  | .item d rest => d.Distinct ∧ rest.Distinct
  | _ => True

def Entries.Distinct : Entries → Prop
  | .entry _ value rest => value.Distinct ∧ rest.Distinct
  | _ => True

end

section Distinct
variable {j u : Json} {items : List Json} {fields : List (String × Json)}

theorem names_entriesOf (fields : List (String × Json)) :
    (entriesOf fields).names = fields.map (·.1) := by
  induction fields with
  | nil => rfl
  | cons field fields ih => rw [entriesOf, Entries.names, ih, List.map_cons]

theorem distinct_itemsOf : (itemsOf items).Distinct ↔ ∀ j ∈ items, (toDoc j).Distinct := by
  induction items with
  | nil => simp [itemsOf, Items.Distinct]
  | cons item items ih => rw [itemsOf, Items.Distinct, ih, List.forall_mem_cons]

theorem distinct_entriesOf : (entriesOf fields).Distinct ↔ ∀ f ∈ fields, (toDoc f.2).Distinct := by
  induction fields with
  | nil => simp [entriesOf, Entries.Distinct]
  | cons field fields ih => rw [entriesOf, Entries.Distinct, ih, List.forall_mem_cons]

def Distinct (j : Json) : Prop := (toDoc j).Distinct

theorem distinct_arr : (arr items).Distinct ↔ ∀ j ∈ items, j.Distinct :=
  distinct_itemsOf

theorem distinct_obj : (obj fields).Distinct ↔
    (fields.map (·.1)).Nodup ∧ ∀ f ∈ fields, f.2.Distinct := by
  rw [Distinct, toDoc, Doc.Distinct, names_entriesOf, distinct_entriesOf]
  rfl

end Distinct

/-! A document that has a value is that of a value, as it was written. -/

mutual

theorem exists_toDoc_of_value {depth : Nat} : ∀ {d : Doc} {j : Json}, d.value depth = .ok j →
    ∃ w, d = toDoc w ∧ j = sorted w
  | .broken _ _ _, _, h => by cases h
  | .null, _, h => by cases h; exact ⟨.null, rfl, rfl⟩
  | .bool b, _, h => by cases h; exact ⟨.bool b, rfl, rfl⟩
  | .num (.error _), _, h => by cases h
  | .num (.ok n), _, h => by cases h; exact ⟨.num n, rfl, rfl⟩
  | .str (.error _), _, h => by cases h
  | .str (.ok s), _, h => by cases h; exact ⟨.str s, rfl, rfl⟩
  | .arr items, j, h => by
    rw [Doc.value] at h
    split at h
    · cases h
    · cases hvalues : items.values (depth - 1) with
      | error f =>
        rw [hvalues] at h
        cases h
      | ok vs =>
        rw [hvalues] at h
        cases h
        obtain ⟨ws, rfl, rfl⟩ := exists_itemsOf_of_values hvalues
        exact ⟨.arr ws, rfl, rfl⟩
  | .obj entries, j, h => by
    rw [Doc.value] at h
    split at h
    · cases h
    · cases hfields : entries.fields (depth - 1) [] with
      | error f =>
        rw [hfields] at h
        cases h
      | ok fs =>
        rw [hfields] at h
        cases h
        obtain ⟨ws, rfl, rfl⟩ := exists_entriesOf_of_fields hfields
        exact ⟨.obj ws, rfl, rfl⟩

theorem exists_itemsOf_of_values {depth : Nat} : ∀ {items : Items} {vs : List Json},
    items.values depth = .ok vs → ∃ ws, items = itemsOf ws ∧ vs = sortedItems ws
  | .close, _, h => by cases h; exact ⟨[], rfl, rfl⟩
  | .cut _ _, _, h => by cases h
  | .item d rest, vs, h => by
    rw [Items.values] at h
    cases hd : d.value depth with
    | error f =>
      rw [hd] at h
      cases h
    | ok v =>
      cases hrest : rest.values depth with
      | error f =>
        rw [hd, hrest] at h
        cases h
      | ok more =>
        rw [hd, hrest] at h
        cases h
        obtain ⟨w, rfl, rfl⟩ := exists_toDoc_of_value hd
        obtain ⟨ws, rfl, rfl⟩ := exists_itemsOf_of_values hrest
        exact ⟨w :: ws, rfl, rfl⟩

theorem exists_entriesOf_of_fields {depth : Nat} {acc : List (String × Json)} :
    ∀ {entries : Entries} {fs : List (String × Json)}, entries.fields depth acc = .ok fs →
      ∃ ws, entries = entriesOf ws ∧ fs = sortedFields acc ws
  | .close, _, h => by cases h; exact ⟨[], rfl, rfl⟩
  | .cut _ _, _, h => by cases h
  | .notKey _, _, h => by cases h
  | .entry (.error _) _ _, _, h => by cases h
  | .entry (.ok name) value rest, fs, h => by
    rw [Entries.fields, ok_bind] at h
    cases hv : value.value depth with
    | error f =>
      rw [hv] at h
      cases h
    | ok v =>
      rw [hv, ok_bind] at h
      obtain ⟨w, rfl, rfl⟩ := exists_toDoc_of_value hv
      obtain ⟨ws, rfl, rfl⟩ := exists_entriesOf_of_fields h
      exact ⟨(name, w) :: ws, rfl, rfl⟩

end

/-- A text with a value was written from one, in the order of the text. -/
theorem exists_written {s : String} {j : Json} (h : ofText s = .ok j) :
    ∃ w, readText s.toList = ⟨toDoc w, false⟩ ∧ j = sorted w := by
  obtain ⟨hvalue, htrailing⟩ := ofText_eq_ok_iff.1 h
  obtain ⟨w, hdoc, hj⟩ := exists_toDoc_of_value hvalue
  refine ⟨w, ?_, hj⟩
  rw [← hdoc, ← htrailing]

mutual

/-- A value without faults can be passed over. -/
theorem skip_toDoc : ∀ j : Json, (toDoc j).skip = .ok ()
  | .null => rfl
  | .bool _ => rfl
  | .num _ => rfl
  | .str _ => rfl
  | .arr items => skip_itemsOf items
  | .obj fields => skip_entriesOf fields

theorem skip_itemsOf : ∀ items : List Json, (itemsOf items).skip = .ok ()
  | [] => rfl
  | item :: items => by
    rw [itemsOf, Items.skip, skip_toDoc item, ok_bind, skip_itemsOf items]

theorem skip_entriesOf : ∀ fields : List (String × Json), (entriesOf fields).skip = .ok ()
  | [] => rfl
  | (_, value) :: fields => by
    rw [entriesOf, Entries.skip, skip_toDoc value, ok_bind, skip_entriesOf fields]

end

/-! Places in a value. -/

def items : Json → List Json
  | .arr items => items
  | _ => []

inductive Step where
  | field (name : String)
  | members
  | items

def Step.from (j : Json) : Step → List Json
  | .field name => (j.field? name).toList
  | .members => j.fields.map (·.2)
  | .items => j.items

def places : List Step → Json → List Json
  | [], j => [j]
  | step :: path, j => (step.from j).flatMap (places path)

section Places
variable {j u v : Json} {step : Step} {path : List Step} {name : String}
  {fields : List (String × Json)}

theorem mem_places_nil : u ∈ places [] j ↔ u = j := by
  rw [places, List.mem_singleton]

theorem mem_places_cons : u ∈ places (step :: path) j ↔ ∃ v ∈ step.from j, u ∈ places path v := by
  rw [places, List.mem_flatMap]

theorem mem_places_field (hv : j.field? name = some v) (hu : u ∈ places path v) :
    u ∈ places (.field name :: path) j :=
  mem_places_cons.2 ⟨v, Option.mem_toList.2 hv, hu⟩

theorem mem_places_items (hv : v ∈ j.items) (hu : u ∈ places path v) :
    u ∈ places (.items :: path) j :=
  mem_places_cons.2 ⟨v, hv, hu⟩

theorem mem_places_members {field : String × Json} (hv : field ∈ j.fields)
    (hu : u ∈ places path field.2) : u ∈ places (.members :: path) j :=
  mem_places_cons.2 ⟨field.2, List.mem_map_of_mem hv, hu⟩

theorem field?_eq_some (hnodup : (fields.map (·.1)).Nodup) :
    (obj fields).field? name = some v ↔ (name, v) ∈ fields :=
  lookup_eq_some_iff_mem hnodup

/-- The fields of an object whose fields are put in name order. -/
theorem exists_sorted_obj (hnodup : (fields.map (·.1)).Nodup) :
    ∃ fields', sorted (.obj fields) = .obj fields' ∧ (fields'.map (·.1)).Perm (fields.map (·.1)) ∧
      ∀ name v, (name, v) ∈ fields' ↔ ∃ w, (name, w) ∈ fields ∧ v = sorted w := by
  obtain ⟨fields', hfields, hperm⟩ := reordering_sorted.obj fields hnodup
  refine ⟨fields', hfields, by simpa [Function.comp_def] using hperm.map (·.1), fun name v => ?_⟩
  rw [hperm.mem_iff]
  simp [eq_comm]

/-- In name order a step leads to the same values, themselves in name order. -/
theorem Step.sorted_mem_from (hj : j.Distinct) (hv : v ∈ step.from j) :
    v.Distinct ∧ sorted v ∈ step.from (sorted j) := by
  cases j with
  | arr items =>
    cases step with
    | items =>
      rw [sorted, sortedItems_eq_map]
      exact ⟨distinct_arr.1 hj v hv, List.mem_map_of_mem hv⟩
    | field name => cases hv
    | members => cases hv
  | obj fields =>
    obtain ⟨hnodup, hfields⟩ := distinct_obj.1 hj
    obtain ⟨fields', hsorted, hperm, hmem⟩ := exists_sorted_obj hnodup
    rw [hsorted]
    cases step with
    | field name =>
      have hnv := (field?_eq_some hnodup).1 (Option.mem_toList.1 hv)
      have hsv := (field?_eq_some (hperm.nodup_iff.2 hnodup)).2 ((hmem _ _).2 ⟨v, hnv, rfl⟩)
      exact ⟨hfields _ hnv, Option.mem_toList.2 hsv⟩
    | members =>
      obtain ⟨⟨name, w⟩, hnw, rfl⟩ := List.mem_map.1 hv
      have hsw := (hmem _ _).2 ⟨w, hnw, rfl⟩
      exact ⟨hfields _ hnw, List.mem_map.2 ⟨_, hsw, rfl⟩⟩
    | items => cases hv
  | _ => cases step <;> cases hv

theorem sorted_mem_places (hj : j.Distinct) (hu : u ∈ places path j) :
    u.Distinct ∧ sorted u ∈ places path (sorted j) := by
  induction path generalizing j with
  | nil =>
    obtain rfl := mem_places_nil.1 hu
    exact ⟨hj, mem_places_nil.2 rfl⟩
  | cons step path ih =>
    obtain ⟨v, hv, hu⟩ := mem_places_cons.1 hu
    obtain ⟨hdistinct, hsorted⟩ := Step.sorted_mem_from hj hv
    obtain ⟨hu, hplaces⟩ := ih hdistinct hu
    exact ⟨hu, mem_places_cons.2 ⟨_, hsorted, hplaces⟩⟩

end Places

end ErrorGuide.Json
