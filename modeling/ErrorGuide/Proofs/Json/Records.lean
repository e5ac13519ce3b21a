import ErrorGuide.Json.Same
import ErrorGuide.Proofs.Data.OrderedMap
import ErrorGuide.Trace.Codec

/-! Records read back from their fields, whatever the order of the fields. A decoder takes the
fields one after another; what is known after some of them depends only on which these are. -/

namespace ErrorGuide.Json
variable {α β ε σ : Type}

theorem ok_bind (a : α) (f : α → Except ε β) : (Except.ok a >>= f) = f a := rfl

theorem pure_eq_ok (a : α) : (pure a : Except ε α) = .ok a := rfl

theorem eq_ok_of_toOption {x : Except ε α} {a : α} (h : x.toOption = some a) : x = .ok a := by
  cases x with
  | error => cases h
  | ok b => exact congrArg Except.ok (Option.some.inj h)

def fields : Json → List (String × Json)
  | .obj fields => fields
  | _ => []

/-! Values that differ in the order of fields. -/

theorem insertSorted_perm (name : String) (value : Json) {acc : List (String × Json)}
    (h : name ∉ acc.map (·.1)) : (insertSorted name value acc).Perm ((name, value) :: acc) := by
  induction acc with
  | nil => rfl
  | cons field acc ih =>
    obtain ⟨other, v⟩ := field
    obtain ⟨hne, hrest⟩ := List.ne_and_not_mem_of_not_mem_cons h
    have hother : name ≠ other := hne
    rw [insertSorted, if_neg hother]
    split
    · rfl
    · exact ((ih hrest).cons _).trans (List.Perm.swap _ _ _)

theorem sortedItems_eq_map (items : List Json) : sortedItems items = items.map sorted := by
  induction items with
  | nil => rfl
  | cons item items ih => rw [sortedItems, ih, List.map_cons]

theorem sortedFields_perm (acc : List (String × Json)) {fields : List (String × Json)}
    (hnodup : (fields.map (·.1)).Nodup)
    (hnew : ∀ name ∈ fields.map (·.1), name ∉ acc.map (·.1)) :
    (sortedFields acc fields).Perm ((fields.map fun (name, v) => (name, sorted v)) ++ acc) := by
  induction fields generalizing acc with
  | nil => rfl
  | cons field fields ih =>
    obtain ⟨name, v⟩ := field
    obtain ⟨hname, hnodup⟩ := List.nodup_cons.1 hnodup
    obtain ⟨hfresh, hnew⟩ := List.forall_mem_cons.1 hnew
    have hperm := insertSorted_perm name (sorted v) hfresh
    have hnew' : ∀ other ∈ fields.map (·.1),
        other ∉ (insertSorted name (sorted v) acc).map (·.1) := by
      intro other hother hmem
      rw [(hperm.map _).mem_iff, List.map_cons, List.mem_cons] at hmem
      obtain rfl | hmem := hmem
      · exact hname hother
      · exact hnew other hother hmem
    rw [sortedFields]
    exact (ih _ hnodup hnew').trans ((hperm.append_left _).trans List.perm_middle)

/-- A change of values that leaves all but the order of an object's fields. -/
structure Reordering (g : Json → Json) : Prop where
  null : g .null = .null
  num : ∀ n, g (.num n) = .num n
  str : ∀ s, g (.str s) = .str s
  arr : ∀ items, g (.arr items) = .arr (items.map g)
  obj : ∀ fields : List (String × Json), (fields.map (·.1)).Nodup →
    ∃ fields', g (.obj fields) = .obj fields' ∧
      fields'.Perm (fields.map fun (name, v) => (name, g v))

theorem reordering_id : Reordering id where
  null := rfl
  num _ := rfl
  str _ := rfl
  arr items := by rw [List.map_id]; rfl
  obj fields _ := ⟨fields, rfl, by simp⟩

theorem reordering_sorted : Reordering sorted where
  null := rfl
  num _ := rfl
  str _ := rfl
  arr items := by rw [sorted, sortedItems_eq_map]
  obj fields h := by
    have hperm := sortedFields_perm [] h (by simp)
    rw [List.append_nil] at hperm
    exact ⟨_, rfl, hperm⟩

/-! Fields that are left out. -/

theorem mem_optionalField {name n : String} {enc : α → Json} {o : Option α} {v : Json} :
    (n, v) ∈ optionalField name enc o ↔ n = name ∧ ∃ a, o = some a ∧ v = enc a := by
  cases o <;> simp [optionalField]

theorem mem_listField {name n : String} {enc : α → Json} {items : List α} {v : Json} :
    (n, v) ∈ listField name enc items ↔ n = name ∧ items ≠ [] ∧ v = .arr (items.map enc) := by
  cases items <;> simp [listField]

theorem mem_names_optionalField {name n : String} {enc : α → Json} {o : Option α} :
    n ∈ (optionalField name enc o).map (·.1) ↔ n = name ∧ o.isSome = true := by
  cases o <;> simp [optionalField]

theorem mem_names_listField {name n : String} {enc : α → Json} {items : List α} :
    n ∈ (listField name enc items).map (·.1) ↔ n = name ∧ items ≠ [] := by
  cases items <;> simp [listField]

theorem names_optionalField_sublist (name : String) (enc : α → Json) (o : Option α) :
    ((optionalField name enc o).map (·.1)).Sublist [name] := by
  cases o <;> simp [optionalField]

theorem names_listField_sublist (name : String) (enc : α → Json) (items : List α) :
    ((listField name enc items).map (·.1)).Sublist [name] := by
  cases items <;> simp [listField]

/-! Decoding of what was encoded. -/

section Decoding
variable {g : Json → Json} (hg : Reordering g) {enc : α → Json} {dec : Decoder α}
include hg

theorem text_str (s : String) : text (toDoc (g (.str s))) = .ok s := by
  rw [hg.str]
  rfl

theorem optional_text (s : String) : optional text (toDoc (g (.str s))) = .ok (some s) := by
  rw [hg.str]
  rfl

theorem optional_word (n : UInt32) : optional word32 (toDoc (g (word n))) = .ok (some n) := by
  have hn : n.toNat < UInt32.size := n.toNat_lt
  rw [word, hg.num, toDoc, optional, word32, if_pos hn, UInt32.ofNat_toNat]
  · rfl
  · simp

theorem list_map (h : ∀ a, dec (toDoc (g (enc a))) = .ok a) (as : List α) :
    list dec (toDoc (g (.arr (as.map enc)))) = .ok as := by
  rw [hg.arr, toDoc, list]
  induction as with
  | nil => rfl
  | cons a as ih =>
    rw [List.map_cons, List.map_cons, itemsOf, Items.decode, h a, ih]
    rfl

end Decoding

/-- The entries of a map are put in again one after another. -/
theorem orderedMap_entries {enc : α → Json} {dec : Decoder α} (h : ∀ a, dec (toDoc (enc a)) = .ok a)
    (m : OrderedMap α) :
    orderedMap dec (toDoc (.obj (m.entries.map fun (name, a) => (name, enc a)))) = .ok m := by
  have hfold (es : List (String × α)) (start : OrderedMap α) :
      (entriesOf (es.map fun (name, a) => (name, enc a))).fold
        (fun m name d => (dec d).map (m.insert name)) start =
          .ok (es.foldl (fun m (name, a) => m.insert name a) start) := by
    induction es generalizing start with
    | nil => rfl
    | cons e es ih =>
      rw [List.map_cons, entriesOf, Entries.fold, h, List.foldl_cons]
      exact ih _
  rw [toDoc, orderedMap, hfold]
  exact congrArg Except.ok m.ofList_entries

/-! Records. -/

/-- What is known of a field after the fields `seen`. -/
def met (seen : List String) (name : String) (a : α) : Option α :=
  if name ∈ seen then some a else none

theorem met_cons (other : String) (seen : List String) (name : String) (a : α) :
    met (other :: seen) name a = if name = other then some a else met seen name a := by
  by_cases h : name = other <;> simp [met, h]

theorem slot_met {field name : String} {seen : List String} {a b : α} {dec : Decoder α} {d : Doc}
    (hname : name ∉ seen) (h : dec d = .ok b) :
    slot field (met seen name a) dec d = .ok (some b) := by
  simp [slot, met, hname, h, Except.map]

theorem met_of_mem (a : α) {seen : List String} {name : String} (h : name ∈ seen) :
    met seen name a = some a :=
  if_pos h

/-- A field that is left out when it is absent is absent if it was not met. -/
theorem join_met (o : Option α) {seen : List String} {name : String}
    (h : o.isSome = true → name ∈ seen) : (met seen name o).join = o := by
  rw [met]
  split
  · rfl
  · next hname =>
    cases o with
    | none => rfl
    | some a => exact absurd (h rfl) hname

/-- So is one that is left out when it is as it is without being told. -/
theorem getD_met (a default : α) {seen : List String} {name : String}
    (h : a ≠ default → name ∈ seen) : (met seen name a).getD default = a := by
  rw [met]
  split
  · rfl
  · next hname => exact (Classical.not_not.1 fun hne => hname (h hne)).symm

/-- If each field, met for the first time, leads from one state to the next, then the fields lead to
the state in which all of them are met. -/
theorem fold_entriesOf {step : σ → String → Doc → Except Cause σ} {state : List String → σ}
    {fields : List (String × Json)}
    (hstep : ∀ seen name v, (name, v) ∈ fields → name ∉ seen →
      step (state seen) name (toDoc v) = .ok (state (name :: seen)))
    (hnodup : (fields.map (·.1)).Nodup) (seen : List String)
    (hnew : ∀ name ∈ fields.map (·.1), name ∉ seen) :
    (entriesOf fields).fold step (state seen) =
      .ok (state ((fields.map (·.1)).reverse ++ seen)) := by
  induction fields generalizing seen with
  | nil => rfl
  | cons field fields ih =>
    obtain ⟨name, v⟩ := field
    obtain ⟨hname, hnodup⟩ := List.nodup_cons.1 hnodup
    obtain ⟨hfresh, hnew⟩ := List.forall_mem_cons.1 hnew
    have hnew' : ∀ other ∈ fields.map (·.1), other ∉ name :: seen := by
      intro other hother hmem
      obtain rfl | hmem := List.mem_cons.1 hmem
      · exact hname hother
      · exact hnew other hother hmem
    have hfields := ih (fun seen name v h => hstep seen name v (List.mem_cons_of_mem _ h)) hnodup
      (name :: seen) hnew'
    rw [entriesOf, Entries.fold, hstep seen name v List.mem_cons_self hfresh]
    rw [List.map_cons, List.reverse_cons, List.append_assoc]
    exact hfields

/-- A record is read from its fields, in whatever order they come, if it is what is made of the
state in which all of them are met. -/
theorem record_reordered {g : Json → Json} (hg : Reordering g) (state : List String → σ)
    {step : σ → String → Doc → Except Cause σ} {finish : σ → Except Cause α} {origin : Origin}
    {title : String} {fromItems : Items → Except Cause (α × Items)}
    {fromEntries : Entries → Except Cause α} {fields : List (String × Json)} {a : α}
    (hfrom : ∀ entries, fromEntries entries = entries.fold step (state []) >>= finish)
    (hnodup : (fields.map (·.1)).Nodup)
    (hstep : ∀ seen name v, (name, v) ∈ fields → name ∉ seen →
      step (state seen) name (toDoc (g v)) = .ok (state (name :: seen)))
    (hfinish : ∀ seen, (∀ name ∈ fields.map (·.1), name ∈ seen) → finish (state seen) = .ok a) :
    record origin title fromItems fromEntries (toDoc (g (.obj fields))) = .ok a := by
  obtain ⟨fields', hfields, hperm⟩ := hg.obj fields hnodup
  have hnames : (fields'.map (·.1)).Perm (fields.map (·.1)) := by
    simpa [Function.comp_def] using hperm.map (·.1)
  have hstep' : ∀ seen name v, (name, v) ∈ fields' → name ∉ seen →
      step (state seen) name (toDoc v) = .ok (state (name :: seen)) := by
    intro seen name v hv hname
    obtain ⟨⟨name', v'⟩, hv', heq⟩ := List.mem_map.1 (hperm.mem_iff.1 hv)
    obtain ⟨rfl, rfl⟩ := Prod.mk.inj heq
    exact hstep seen _ v' hv' hname
  have hfold := fold_entriesOf hstep' (hnames.nodup_iff.2 hnodup) [] (by simp)
  rw [hfields, toDoc, record, hfrom, hfold, ok_bind]
  refine hfinish _ fun name hname => ?_
  rwa [List.append_nil, List.mem_reverse, hnames.mem_iff]

end ErrorGuide.Json

