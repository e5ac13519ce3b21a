import ErrorGuide.Schema.Catalog
import ErrorGuide.Schema.Validation
import ErrorGuide.Proofs.Json.Distinct

/-! What a schema accepts, by its form. -/

namespace ErrorGuide.Schema
open Json
variable {s item value : Schema} {j v : Json} {fs : List (Field × Schema)}

theorem accepts_iff : s.accepts j = true ↔ s.violations j = 0 := by
  rw [accepts, decide_eq_true_iff]

theorem demand_eq_zero {holds : Bool} : demand holds = 0 ↔ holds = true := by
  cases holds <;> simp [demand]

theorem isNull_iff : isNull j = true ↔ j = .null := by
  cases j <;> simp [isNull]

theorem isText_iff : isText j = true ↔ ∃ s, j = .str s := by
  cases j <;> simp [isText]

theorem isNumber_iff : isNumber j = true ↔ ∃ n, j = .num n := by
  cases j <;> simp [isNumber]

theorem violations_text : text.violations j = demand (isText j) := rfl

theorem violations_number : number.violations j = demand (isNumber j) := rfl

theorem violations_word : word.violations j = demand (isWhole j) + demand (!isNegative j) := rfl

theorem violations_choice {names : List String} :
    (choice names).violations j = demand (isText j) + demand (isOneOf names j) := rfl

theorem accepts_text : text.accepts j = true ↔ ∃ s, j = .str s := by
  rw [accepts_iff, violations_text, demand_eq_zero, isText_iff]

theorem accepts_number : number.accepts j = true ↔ ∃ n, j = .num n := by
  rw [accepts_iff, violations_number, demand_eq_zero, isNumber_iff]

theorem accepts_named {name : String} {description : Option String} :
    (named name description s).accepts j = s.accepts j := rfl

theorem accepts_nullable : (nullable s).accepts j = true ↔ j = .null ∨ s.accepts j = true := by
  rw [accepts_iff, ← isNull_iff]
  cases s with
  | named name description s =>
    have hnamed : (nullable (named name description s)).violations j =
        if isNull j then 0 else demand (s.violations j = 0) := rfl
    rw [hnamed, accepts_named, accepts_iff]
    cases isNull j <;> simp [demand_eq_zero]
  | _ =>
    rw [accepts_iff]
    change (if isNull j then 0 else violations _ j) = 0 ↔ _
    cases isNull j <;> simp

theorem accepts_list : (list item).accepts j = true ↔
    ∃ items, j = .arr items ∧ ∀ i ∈ items, item.accepts i = true := by
  cases j with
  | arr items =>
    have hitems : (list item).violations (.arr items) = (items.map item.violations).sum := rfl
    rw [accepts_iff, hitems, List.sum_eq_zero_iff_forall_eq_nat, List.forall_mem_map]
    simp [accepts_iff]
  | _ => exact iff_of_false Bool.false_ne_true (by simp)

theorem accepts_map : (map value).accepts j = true ↔
    ∃ fields, j = .obj fields ∧ ∀ f ∈ fields, value.accepts f.2 = true := by
  cases j with
  | obj fields =>
    have hfields : (map value).violations (.obj fields) =
        (fields.map fun f => value.violations f.2).sum := rfl
    rw [accepts_iff, hfields, List.sum_eq_zero_iff_forall_eq_nat, List.forall_mem_map]
    simp [accepts_iff]
  | _ => exact iff_of_false Bool.false_ne_true (by simp)

theorem fieldViolations_eq_zero : fieldViolations fs j = 0 ↔
    ∀ f ∈ fs, ∀ v, j.field? f.1.name = some v → f.2.accepts v = true := by
  induction fs with
  | nil => simp [fieldViolations]
  | cons f fs ih =>
    rw [fieldViolations, Nat.add_eq_zero_iff, ih, List.forall_mem_cons]
    cases j.field? f.1.name <;> simp [accepts_iff]

theorem missing_eq_zero : missing fs j = 0 ↔
    ∀ f ∈ fs, f.1.required = true → (j.field? f.1.name).isSome = true := by
  simp [missing, requiredNames, Option.isSome_iff_ne_none]

theorem accepts_record : (record fs).accepts j = true ↔
    (∃ fields, j = .obj fields) ∧
      (∀ f ∈ fs, f.1.required = true → (j.field? f.1.name).isSome = true) ∧
      ∀ f ∈ fs, ∀ v, j.field? f.1.name = some v → f.2.accepts v = true := by
  cases j with
  | obj fields =>
    have hfields : (record fs).violations (.obj fields) =
        missing fs (.obj fields) + fieldViolations fs (.obj fields) := rfl
    rw [accepts_iff, hfields, Nat.add_eq_zero_iff, missing_eq_zero, fieldViolations_eq_zero]
    simp
  | _ => exact iff_of_false Bool.false_ne_true (by simp)

/-! The order of an object's fields does not count. -/

theorem exists_obj_sorted : (∃ fields, sorted j = .obj fields) ↔ ∃ fields, j = .obj fields := by
  cases j <;> simp [sorted]

theorem field?_sorted (hj : j.Distinct) (name : String) :
    (sorted j).field? name = (j.field? name).map sorted := by
  cases j with
  | obj fields =>
    obtain ⟨hnodup, -⟩ := distinct_obj.1 hj
    obtain ⟨fields', hsorted, hperm, hmem⟩ := exists_sorted_obj hnodup
    ext v
    rw [hsorted, field?_eq_some (hperm.nodup_iff.2 hnodup), hmem, Option.map_eq_some_iff]
    simp only [field?_eq_some hnodup, eq_comm]
  | _ => rfl

theorem distinct_of_field? {name : String} (hj : j.Distinct) (hv : j.field? name = some v) :
    v.Distinct := by
  have hstep : v ∈ (Step.field name).from j := Option.mem_toList.2 hv
  exact (Step.sorted_mem_from hj hstep).1

mutual

theorem accepts_sorted : ∀ (s : Schema) {j : Json}, j.Distinct →
    (s.accepts (sorted j) = true ↔ s.accepts j = true)
  | .text, j, _ => by cases j <;> simp [accepts_text, sorted]
  | .number, j, _ => by cases j <;> simp [accepts_number, sorted]
  | .word, j, _ => by cases j <;> simp [accepts_iff, violations_word, isWhole, isNegative, sorted]
  | .choice names, j, _ => by
    cases j <;> simp [accepts_iff, violations_choice, isText, isOneOf, sorted]
  | .nullable s, j, hj => by
    rw [accepts_nullable, accepts_nullable, accepts_sorted s hj]
    cases j <;> simp [sorted]
  | .list item, j, hj => by
    rw [accepts_list, accepts_list]
    cases j with
    | arr items =>
      have hitems := distinct_arr.1 hj
      simp only [sorted, sortedItems_eq_map, arr.injEq, exists_eq_left', List.forall_mem_map]
      exact forall₂_congr fun i hi => accepts_sorted item (hitems i hi)
    | _ => simp [sorted]
  | .map value, j, hj => by
    rw [accepts_map, accepts_map]
    cases j with
    | obj fields =>
      obtain ⟨hnodup, hfields⟩ := distinct_obj.1 hj
      obtain ⟨fields', hsorted, -, hmem⟩ := exists_sorted_obj hnodup
      have hvalue : ∀ f ∈ fields,
          (value.accepts (sorted f.2) = true ↔ value.accepts f.2 = true) :=
        fun f hf => accepts_sorted value (hfields f hf)
      simp only [hsorted, obj.injEq, exists_eq_left', Prod.forall, hmem]
      constructor
      · intro h name w hw
        exact (hvalue _ hw).1 (h name _ ⟨w, hw, rfl⟩)
      · rintro h name _ ⟨w, hw, rfl⟩
        exact (hvalue _ hw).2 (h name w hw)
    | _ => simp [sorted]
  | .record fs, j, hj => by
    have hvalue := fieldAccepts_sorted fs
    rw [accepts_record, accepts_record, exists_obj_sorted]
    simp only [field?_sorted hj, Option.isSome_map, Option.map_eq_some_iff]
    refine and_congr_right' (and_congr_right' (forall₂_congr fun f hf => ?_))
    constructor
    · intro h v hv
      exact (hvalue f hf (distinct_of_field? hj hv)).1 (h _ ⟨v, hv, rfl⟩)
    · rintro h _ ⟨v, hv, rfl⟩
      exact (hvalue f hf (distinct_of_field? hj hv)).2 (h v hv)
  | .named name description s, j, hj => by
    rw [accepts_named, accepts_named, accepts_sorted s hj]

theorem fieldAccepts_sorted : ∀ (fs : List (Field × Schema)), ∀ f ∈ fs, ∀ {v : Json}, v.Distinct →
    (f.2.accepts (sorted v) = true ↔ f.2.accepts v = true)
  | (field, s) :: fs, f, hf, v, hv => by
    obtain rfl | hf := List.mem_cons.1 hf
    · exact accepts_sorted s hv
    · exact fieldAccepts_sorted fs f hf hv

end

end ErrorGuide.Schema
