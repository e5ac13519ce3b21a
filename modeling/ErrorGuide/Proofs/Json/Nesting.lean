import ErrorGuide.Proofs.Json.Texts
import ErrorGuide.Proofs.Json.Records

/-! How deep values nest, and values read back from their texts whole. -/

namespace ErrorGuide.Json

mutual

def nesting : Json → Nat
  | .arr items => nestingItems items + 1
  | .obj fields => nestingFields fields + 1
  | _ => 0

def nestingItems : List Json → Nat
  | [] => 0
  | item :: items => max (nesting item) (nestingItems items)

def nestingFields : List (String × Json) → Nat
  | [] => 0
  | (_, value) :: fields => max (nesting value) (nestingFields fields)

end

/-- Every number of the value reads back, and it nests at most `n` lists and objects. -/
structure Readable (n : Nat) (j : Json) : Prop where
  legible : Legible j
  nesting_le : nesting j ≤ n

structure ReadableFields (n : Nat) (fields : List (String × Json)) : Prop where
  legible : LegibleFields fields
  nesting_le : nestingFields fields ≤ n

section Readable
variable {n : Nat} {α : Type} {enc : α → Json}

theorem Readable.mono {m : Nat} {j : Json} (h : Readable m j) (hmn : m ≤ n) : Readable n j :=
  ⟨h.legible, Nat.le_trans h.nesting_le hmn⟩

theorem readable_null : Readable n .null := ⟨trivial, Nat.zero_le n⟩

theorem readable_str (s : String) : Readable n (.str s) := ⟨trivial, Nat.zero_le n⟩

theorem readable_num {m : Number} (h : m.Legible) : Readable n (.num m) := ⟨h, Nat.zero_le n⟩

theorem readable_word (w : UInt32) : Readable n (word w) :=
  readable_num (legible_whole (Nat.lt_trans w.toNat_lt (by decide)))

theorem readable_arr_map {as : List α} (h : ∀ a ∈ as, Readable n (enc a)) :
    Readable (n + 1) (.arr (as.map enc)) := by
  have hitems : LegibleItems (as.map enc) ∧ nestingItems (as.map enc) ≤ n := by
    induction as with
    | nil => exact ⟨trivial, Nat.zero_le n⟩
    | cons a as ih =>
      obtain ⟨ha, has⟩ := List.forall_mem_cons.1 h
      obtain ⟨hlegible, hnesting⟩ := ih has
      exact ⟨⟨ha.legible, hlegible⟩, Nat.max_le.2 ⟨ha.nesting_le, hnesting⟩⟩
  exact ⟨hitems.1, Nat.succ_le_succ hitems.2⟩

theorem readable_obj {fields : List (String × Json)} (h : ReadableFields n fields) :
    Readable (n + 1) (.obj fields) :=
  ⟨h.legible, Nat.succ_le_succ h.nesting_le⟩

theorem readableFields_nil : ReadableFields n [] := ⟨trivial, Nat.zero_le n⟩

theorem readableFields_cons {name : String} {v : Json} {fields : List (String × Json)} :
    ReadableFields n ((name, v) :: fields) ↔ Readable n v ∧ ReadableFields n fields := by
  constructor
  · intro h
    obtain ⟨hv, hfields⟩ := Nat.max_le.1 h.nesting_le
    exact ⟨⟨h.legible.1, hv⟩, ⟨h.legible.2, hfields⟩⟩
  · rintro ⟨hv, hfields⟩
    exact ⟨⟨hv.legible, hfields.legible⟩, Nat.max_le.2 ⟨hv.nesting_le, hfields.nesting_le⟩⟩

theorem readableFields_append {fields more : List (String × Json)} :
    ReadableFields n (fields ++ more) ↔ ReadableFields n fields ∧ ReadableFields n more := by
  induction fields with
  | nil => exact ⟨fun h => ⟨readableFields_nil, h⟩, And.right⟩
  | cons field fields ih =>
    rw [List.cons_append, readableFields_cons, readableFields_cons, ih, and_assoc]

theorem readableFields_map {as : List (String × α)} (h : ∀ a ∈ as, Readable n (enc a.2)) :
    ReadableFields n (as.map fun (name, a) => (name, enc a)) := by
  induction as with
  | nil => exact readableFields_nil
  | cons a as ih =>
    obtain ⟨ha, has⟩ := List.forall_mem_cons.1 h
    exact readableFields_cons.2 ⟨ha, ih has⟩

theorem readableFields_optional (name : String) (o : Option α) (h : ∀ a, Readable n (enc a)) :
    ReadableFields n (optionalField name enc o) := by
  cases o with
  | none => exact readableFields_nil
  | some a => exact readableFields_cons.2 ⟨h a, readableFields_nil⟩

theorem readableFields_list (name : String) (as : List α) (h : ∀ a, Readable n (enc a)) :
    ReadableFields (n + 1) (listField name enc as) := by
  cases as with
  | nil => exact readableFields_nil
  | cons a as =>
    exact readableFields_cons.2 ⟨readable_arr_map fun a _ => h a, readableFields_nil⟩

end Readable

/-! Values of documents. -/

mutual

theorem value_toDoc {depth : Nat} : ∀ {j : Json}, nesting j < depth →
    (toDoc j).value depth = .ok (sorted j)
  | .null, _ => rfl
  | .bool _, _ => rfl
  | .num _, _ => rfl
  | .str _, _ => rfl
  | .arr items, h => by
    rw [nesting] at h
    rw [toDoc, Doc.value, if_neg (by omega), values_itemsOf (by omega)]
    rfl
  | .obj fields, h => by
    rw [nesting] at h
    rw [toDoc, Doc.value, if_neg (by omega), fields_entriesOf (by omega)]
    rfl

theorem values_itemsOf {depth : Nat} : ∀ {items : List Json}, nestingItems items < depth →
    (itemsOf items).values depth = .ok (sortedItems items)
  | [], _ => rfl
  | item :: items, h => by
    rw [nestingItems, Nat.max_lt] at h
    rw [itemsOf, Items.values, value_toDoc h.1, values_itemsOf h.2]
    rfl

theorem fields_entriesOf {depth : Nat} {acc : List (String × Json)} :
    ∀ {fields : List (String × Json)}, nestingFields fields < depth →
      Entries.fields depth acc (entriesOf fields) = .ok (sortedFields acc fields)
  | [], _ => rfl
  | (name, value) :: fields, h => by
    rw [nestingFields, Nat.max_lt] at h
    rw [entriesOf, Entries.fields, ok_bind, value_toDoc h.1, ok_bind, fields_entriesOf h.2]
    rfl

end

/-- A text that reads as a value which does not nest too deep has that value, with the fields of
objects in name order. -/
theorem ofText_of_readText {s : String} {j : Json} (hs : readText s.toList = ⟨toDoc j, false⟩)
    (hdeep : nesting j < depthLimit) : ofText s = .ok (sorted j) := by
  rw [ofText_eq_ok_iff, hs]
  exact ⟨value_toDoc hdeep, rfl⟩

end ErrorGuide.Json
