/-! Maps from names to values that keep the order in which their names were first put in. -/

namespace ErrorGuide

/-- Replaces the value of `k` where it stands, or appends it. -/
def putEntry {α : Type} (k : String) (v : α) : List (String × α) → List (String × α)
  | [] => [(k, v)]
  | (k', v') :: rest => if k' = k then (k, v) :: rest else (k', v') :: putEntry k v rest

theorem keys_putEntry {α : Type} (k : String) (v : α) (es : List (String × α)) :
    (putEntry k v es).map (·.1) =
      if k ∈ es.map (·.1) then es.map (·.1) else es.map (·.1) ++ [k] := by
  induction es with
  | nil => rfl
  | cons e es ih =>
    obtain ⟨k', v'⟩ := e
    by_cases h : k' = k
    · simp [putEntry, h]
    · have h' : ¬k = k' := fun e => h e.symm
      by_cases hk : k ∈ es.map (·.1)
      · simp only [putEntry, h, if_false, List.map_cons, ih, hk, if_true, List.mem_cons, or_true]
      · simp only [putEntry, h, if_false, List.map_cons, ih, hk, List.mem_cons, h', or_false,
          List.cons_append]

theorem nodup_keys_putEntry {α : Type} (k : String) (v : α) {es : List (String × α)}
    (h : (es.map (·.1)).Nodup) : ((putEntry k v es).map (·.1)).Nodup := by
  rw [keys_putEntry]
  split
  · exact h
  · next hk =>
    rw [List.nodup_append]
    refine ⟨h, by simp, ?_⟩
    intro a ha b hb e
    rw [List.mem_singleton] at hb
    exact hk (hb ▸ e ▸ ha)

theorem lookup_entry_cons {α : Type} (k : String) (v : α) (es : List (String × α)) (k' : String) :
    ((k, v) :: es).lookup k' = if k' = k then some v else es.lookup k' := by
  have hbeq : (k' == k) = decide (k' = k) := rfl
  rw [List.lookup_cons, hbeq]
  by_cases hk : k' = k <;> simp [hk]

theorem lookup_putEntry {α : Type} (k : String) (v : α) (es : List (String × α)) (k' : String) :
    (putEntry k v es).lookup k' = if k' = k then some v else es.lookup k' := by
  induction es with
  | nil => exact lookup_entry_cons k v [] k'
  | cons e es ih =>
    obtain ⟨name, old⟩ := e
    by_cases h : name = k
    · by_cases hk : k' = k <;> simp [putEntry, lookup_entry_cons, h, hk]
    · by_cases hk : k' = name
      · simp [putEntry, h, hk]
      · simp [putEntry, lookup_entry_cons, h, hk, ih]

/-- Where names are distinct, an entry is found under its name. -/
theorem lookup_eq_some_iff_mem {α : Type} {k : String} {v : α} {es : List (String × α)}
    (h : (es.map (·.1)).Nodup) : es.lookup k = some v ↔ (k, v) ∈ es := by
  induction es with
  | nil => simp
  | cons e es ih =>
    obtain ⟨k', v'⟩ := e
    obtain ⟨hk, hrest⟩ := List.nodup_cons.1 h
    by_cases he : k = k'
    · subst he
      have hno : (k, v) ∉ es := fun hm => hk (List.mem_map.2 ⟨(k, v), hm, rfl⟩)
      simp [hno, eq_comm]
    · have hb : (k == k') = false := beq_false_of_ne he
      simp [List.lookup_cons, hb, he, ih hrest]

structure OrderedMap (α : Type) where
  entries : List (String × α)
  distinct : (entries.map (·.1)).Nodup
deriving DecidableEq

namespace OrderedMap
variable {α : Type}

def empty : OrderedMap α := ⟨[], List.nodup_nil⟩

instance : Inhabited (OrderedMap α) := ⟨empty⟩

def insert (m : OrderedMap α) (k : String) (v : α) : OrderedMap α :=
  ⟨putEntry k v m.entries, nodup_keys_putEntry k v m.distinct⟩

def keys (m : OrderedMap α) : List String := m.entries.map (·.1)

def get? (m : OrderedMap α) (k : String) : Option α := m.entries.lookup k

def contains (m : OrderedMap α) (k : String) : Bool := (m.get? k).isSome

def size (m : OrderedMap α) : Nat := m.entries.length

def isEmpty (m : OrderedMap α) : Bool := m.entries.isEmpty

def ofList (es : List (String × α)) : OrderedMap α :=
  es.foldl (fun m (k, v) => m.insert k v) empty

theorem get?_eq_some_iff (m : OrderedMap α) {k : String} {v : α} :
    m.get? k = some v ↔ (k, v) ∈ m.entries :=
  lookup_eq_some_iff_mem m.distinct

theorem contains_iff (m : OrderedMap α) {k : String} : m.contains k = true ↔ k ∈ m.keys := by
  rw [contains, Option.isSome_iff_exists, keys]
  simp only [get?_eq_some_iff, List.mem_map, Prod.exists, exists_and_right, exists_eq_right]

theorem get?_eq_none_iff (m : OrderedMap α) {k : String} : m.get? k = none ↔ k ∉ m.keys := by
  rw [← contains_iff, contains, Option.not_isSome_iff_eq_none]

theorem keys_insert (m : OrderedMap α) (k : String) (v : α) :
    (m.insert k v).keys = if k ∈ m.keys then m.keys else m.keys ++ [k] :=
  keys_putEntry k v m.entries

theorem get?_insert (m : OrderedMap α) (k : String) (v : α) (k' : String) :
    (m.insert k v).get? k' = if k' = k then some v else m.get? k' :=
  lookup_putEntry k v m.entries k'

end OrderedMap
end ErrorGuide
