import ErrorGuide.Data.OrderedMap
import Mathlib.Data.List.Induction

/-! What a map holds after entries were put in one after another: each name once, where it was first
put in, with the value that was put in last. -/

namespace ErrorGuide.OrderedMap
variable {α β : Type}

theorem ofList_append (es fs : List (String × α)) :
    ofList (es ++ fs) = fs.foldl (fun m (k, v) => m.insert k v) (ofList es) :=
  List.foldl_append

theorem ofList_concat (es : List (String × α)) (k : String) (v : α) :
    ofList (es ++ [(k, v)]) = (ofList es).insert k v :=
  ofList_append es [(k, v)]

theorem keys_ofList (es : List (String × α)) : (ofList es).keys = (es.map (·.1)).eraseDups := by
  induction es using List.reverseRecOn with
  | nil => rfl
  | append_singleton es e ih =>
    obtain ⟨k, v⟩ := e
    rw [ofList_concat, keys_insert, ih, List.map_append, List.eraseDups_append]
    by_cases hk : k ∈ es.map (·.1)
    · simp [List.removeAll, List.mem_eraseDups, hk]
    · simp [List.removeAll, List.mem_eraseDups, hk, List.eraseDups_cons]

theorem get?_ofList (es : List (String × α)) (k : String) :
    (ofList es).get? k = es.reverse.lookup k := by
  induction es using List.reverseRecOn with
  | nil => rfl
  | append_singleton es e ih =>
    obtain ⟨k', v⟩ := e
    rw [ofList_concat, get?_insert, ih, List.reverse_concat, lookup_entry_cons]

theorem putEntry_of_not_mem {k : String} {es : List (String × α)} (v : α)
    (h : k ∉ es.map (·.1)) : putEntry k v es = es ++ [(k, v)] := by
  induction es with
  | nil => rfl
  | cons e es ih =>
    obtain ⟨hne, hrest⟩ := List.ne_and_not_mem_of_not_mem_cons h
    have hne' : ¬e.1 = k := fun he => hne he.symm
    rw [putEntry, if_neg hne', ih hrest, List.cons_append]

theorem entries_ofList {es : List (String × α)} (h : (es.map (·.1)).Nodup) :
    (ofList es).entries = es := by
  induction es using List.reverseRecOn with
  | nil => rfl
  | append_singleton es e ih =>
    obtain ⟨k, v⟩ := e
    rw [List.map_append, List.nodup_append] at h
    obtain ⟨hes, -, hdisjoint⟩ := h
    have hk : k ∉ es.map (·.1) := fun hmem => hdisjoint k hmem k List.mem_cons_self rfl
    have hinsert : ((ofList es).insert k v).entries = putEntry k v (ofList es).entries := rfl
    rw [ofList_concat, hinsert, ih hes, putEntry_of_not_mem v hk]

theorem eq_of_entries {m m' : OrderedMap α} (h : m.entries = m'.entries) : m = m' := by
  cases m
  cases m'
  cases h
  rfl

theorem isEmpty_eq_false {m : OrderedMap α} (h : m ≠ .empty) : m.isEmpty = false := by
  cases hm : m.isEmpty with
  | false => rfl
  | true => exact absurd (eq_of_entries (List.isEmpty_iff.1 hm)) h

/-- A map is what its entries make when they are put in again. -/
theorem ofList_entries (m : OrderedMap α) : ofList m.entries = m :=
  eq_of_entries (entries_ofList m.distinct)

/-- To go through the entries is to go through the names and look each one up. -/
theorem findSome?_entries (m : OrderedMap α) (f : α → Option β) :
    (m.entries.findSome? fun (_, a) => f a) = m.keys.findSome? fun k => (m.get? k).bind f := by
  have hat : ∀ e ∈ m.entries, m.get? e.1 = some e.2 := fun e he => m.get?_eq_some_iff.2 he
  rw [keys, List.findSome?_map]
  -- The map itself stays as it is while its entries are gone through.
  generalize m.entries = es at hat ⊢
  induction es with
  | nil => rfl
  | cons e es ih =>
    obtain ⟨he, hrest⟩ := List.forall_mem_cons.1 hat
    simp only [List.findSome?_cons, Function.comp_apply, he, Option.bind_some, ih hrest]

end ErrorGuide.OrderedMap
