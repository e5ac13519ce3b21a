import ErrorGuide.Text.Scan

/-! What scanners read, said without reading: which part of a text a phrase or a run takes, and
where in a text a scanner succeeds. -/

namespace ErrorGuide.Text
open Unicode

def InAnyCase (w v : List Char) : Prop := v.map fold = w.map fold

theorem sameFold_iff {a b : Char} : sameFold a b = true ↔ fold b = fold a := by
  rw [sameFold, Bool.or_eq_true, beq_iff_eq, beq_iff_eq]
  constructor
  · rintro (rfl | h)
    · rfl
    · exact h.symm
  · exact fun h => .inr h.symm

theorem phrase_eq_some_iff {w cs rest : List Char} :
    phrase w cs = some rest ↔ ∃ v, cs = v ++ rest ∧ InAnyCase w v := by
  induction w generalizing cs with
  | nil =>
    constructor
    · rintro h
      obtain rfl := Option.some.inj h
      exact ⟨[], rfl, rfl⟩
    · rintro ⟨v, rfl, hv⟩
      obtain rfl := List.map_eq_nil_iff.1 hv
      rfl
  | cons a w ih =>
    cases cs with
    | nil =>
      constructor
      · intro h
        cases h
      · rintro ⟨v, hcs, hv⟩
        obtain ⟨rfl, -⟩ := List.append_eq_nil_iff.1 hcs.symm
        cases hv
    | cons c cs =>
      by_cases hc : sameFold a c = true
      · rw [phrase, if_pos hc, ih]
        constructor
        · rintro ⟨v, rfl, hv⟩
          exact ⟨c :: v, rfl, List.cons_eq_cons.2 ⟨sameFold_iff.1 hc, hv⟩⟩
        · rintro ⟨v, hcs, hv⟩
          obtain ⟨c', v, rfl, -, hv⟩ := List.map_eq_cons_iff.1 hv
          exact ⟨v, (List.cons.inj hcs).2, hv⟩
      · rw [phrase, if_neg hc]
        constructor
        · intro h
          cases h
        · rintro ⟨v, hcs, hv⟩
          obtain ⟨c', v, rfl, hc', -⟩ := List.map_eq_cons_iff.1 hv
          obtain rfl := (List.cons.inj hcs).1
          exact absurd (sameFold_iff.2 hc') hc

theorem exactly_eq_some_iff {a : Char} {cs rest : List Char} :
    exactly a cs = some rest ↔ cs = a :: rest := by
  cases cs with
  | nil => simp [exactly]
  | cons c cs =>
    rw [exactly, List.cons_eq_cons]
    split
    · next hc => simp [hc]
    · next hc => simp [hc]

structure IsRun (p : Char → Bool) (taken : List Char) : Prop where
  nonempty : taken ≠ []
  all : ∀ c ∈ taken, p c = true

theorem head_of_isRun {p : Char → Bool} {taken : List Char} (h : IsRun p taken) (rest : List Char) :
    ∀ c ∈ (taken ++ rest).head?, p c = true := by
  obtain ⟨c, tail, rfl⟩ := List.exists_cons_of_ne_nil h.nonempty
  intro d hd
  obtain rfl := Option.some.inj hd
  exact h.all c List.mem_cons_self

theorem takeWhile_of_head {p : Char → Bool} {cs : List Char} (h : ∀ c ∈ cs.head?, p c = false) :
    cs.takeWhile p = [] ∧ cs.dropWhile p = cs := by
  cases cs with
  | nil => exact ⟨rfl, rfl⟩
  | cons c cs =>
    have hc : ¬p c = true := by simp [h c rfl]
    exact ⟨List.takeWhile_cons_of_neg hc, List.dropWhile_cons_of_neg hc⟩

/-- What is in `p` is taken up to where something else follows. -/
theorem takeWhile_append_of_head {p : Char → Bool} {taken rest : List Char}
    (hall : ∀ c ∈ taken, p c = true) (hrest : ∀ c ∈ rest.head?, p c = false) :
    (taken ++ rest).takeWhile p = taken ∧ (taken ++ rest).dropWhile p = rest := by
  obtain ⟨htake, hdrop⟩ := takeWhile_of_head hrest
  rw [List.takeWhile_append_of_pos hall, List.dropWhile_append_of_pos hall, htake, hdrop,
    List.append_nil]
  exact ⟨rfl, rfl⟩

theorem run_eq_some_iff {p : Char → Bool} {cs taken rest : List Char} :
    run p cs = some (taken, rest) ↔
      cs = taken ++ rest ∧ IsRun p taken ∧ ∀ c ∈ rest.head?, p c = false := by
  constructor
  · intro h
    have hne : cs.takeWhile p ≠ [] := fun hnil => by simp [run, hnil] at h
    obtain ⟨rfl, rfl⟩ : cs.takeWhile p = taken ∧ cs.dropWhile p = rest := by
      rw [run] at h
      split at h
      · cases h
      · exact Prod.mk.inj (Option.some.inj h)
    refine ⟨List.takeWhile_append_dropWhile.symm, ⟨hne, List.all_eq_true.1 List.all_takeWhile⟩, ?_⟩
    intro c hc
    have hnot := List.head?_dropWhile_not p cs
    rwa [Option.mem_def.1 hc] at hnot
  · rintro ⟨rfl, ⟨hne, hall⟩, hrest⟩
    obtain ⟨htake, hdrop⟩ := takeWhile_append_of_head hall hrest
    rw [run, htake, hdrop]
    cases taken with
    | nil => exact absurd rfl hne
    | cons c taken => rfl

/-- A run is read wherever a character of it stands. -/
theorem isSome_run_iff {p : Char → Bool} {cs : List Char} :
    (run p cs).isSome = true ↔ ∃ taken rest, cs = taken ++ rest ∧ IsRun p taken := by
  constructor
  · intro h
    obtain ⟨⟨taken, rest⟩, hrun⟩ := Option.isSome_iff_exists.1 h
    obtain ⟨hcs, htaken, -⟩ := run_eq_some_iff.1 hrun
    exact ⟨taken, rest, hcs, htaken⟩
  · rintro ⟨taken, rest, rfl, hne, hall⟩
    cases taken with
    | nil => exact absurd rfl hne
    | cons c taken =>
      have hc : p c = true := hall c List.mem_cons_self
      rw [run, List.cons_append, List.takeWhile_cons_of_pos hc]
      rfl

theorem blanks_eq_some_iff {cs rest : List Char} :
    blanks cs = some rest ↔
      ∃ gap, cs = gap ++ rest ∧ IsRun isBlank gap ∧ ∀ c ∈ rest.head?, isBlank c = false := by
  rw [blanks, Option.map_eq_some_iff]
  constructor
  · rintro ⟨⟨gap, rest⟩, hrun, rfl⟩
    exact ⟨gap, run_eq_some_iff.1 hrun⟩
  · rintro ⟨gap, hgap⟩
    exact ⟨(gap, rest), run_eq_some_iff.2 hgap, rfl⟩

/-! Where a scanner succeeds. -/

/-- The character before a place: the last one of what was passed, or the one before all of it. -/
theorem getLast?_cons_or (c : Char) (passed : List Char) (prev : Option Char) :
    (c :: passed).getLast?.or prev = passed.getLast?.or (some c) := by
  rw [List.getLast?_cons]
  cases passed.getLast? <;> rfl

theorem isSome_leftmostFrom_iff {α : Type} {f : Scanner α} {prev : Option Char} {cs : List Char} :
    (leftmostFrom f prev cs).isSome = true ↔
      ∃ before rest, cs = before ++ rest ∧ (f (before.getLast?.or prev) rest).isSome = true := by
  induction cs generalizing prev with
  | nil =>
    rw [leftmostFrom, Option.isSome_map]
    constructor
    · exact fun h => ⟨[], [], rfl, h⟩
    · rintro ⟨before, rest, hcs, h⟩
      obtain ⟨rfl, rfl⟩ := List.append_eq_nil_iff.1 hcs.symm
      exact h
  | cons c cs ih =>
    rw [leftmostFrom]
    split
    · next a rest hf =>
      refine iff_of_true rfl ⟨[], c :: cs, rfl, ?_⟩
      exact Option.isSome_iff_exists.2 ⟨_, hf⟩
    · next hf =>
      rw [Option.isSome_map, ih]
      -- The scanner fails here, so the place is a later one, and `c` stands before it.
      constructor
      · rintro ⟨before, rest, rfl, h⟩
        exact ⟨c :: before, rest, rfl, getLast?_cons_or c before prev ▸ h⟩
      · rintro ⟨before, rest, hcs, h⟩
        cases before with
        | nil =>
          obtain rfl : c :: cs = rest := hcs
          have hno : f prev (c :: cs) = none := hf
          rw [List.getLast?_nil, Option.none_or, hno] at h
          cases h
        | cons c' before =>
          obtain ⟨rfl, rfl⟩ := List.cons.inj hcs
          exact ⟨before, rest, rfl, getLast?_cons_or c before prev ▸ h⟩

/-- What is found is read at a place of `cs`, which follows `prev`, and at no earlier place does the
scanner succeed. -/
structure IsLeftmost {α : Type} (f : Scanner α) (prev : Option Char) (cs : List Char)
    (found : Found α) : Prop where
  reads : ∃ rest, cs = found.before ++ rest ∧
    f (found.before.getLast?.or prev) rest = some (found.value, found.after)
  first : ∀ early later, cs = early ++ later → early.length < found.before.length →
    f (early.getLast?.or prev) later = none

theorem isLeftmost_of_leftmostFrom {α : Type} {f : Scanner α} {prev : Option Char} {cs : List Char}
    {found : Found α} (h : leftmostFrom f prev cs = some found) : IsLeftmost f prev cs found := by
  induction cs generalizing prev found with
  | nil =>
    obtain ⟨⟨a, rest⟩, hf, rfl⟩ := Option.map_eq_some_iff.1 h
    exact ⟨⟨[], rfl, hf⟩, fun early later _ hlt => absurd hlt (Nat.not_lt_zero _)⟩
  | cons c cs ih =>
    rw [leftmostFrom] at h
    split at h
    · next a rest hf =>
      obtain rfl := Option.some.inj h
      exact ⟨⟨c :: cs, rfl, hf⟩, fun early later _ hlt => absurd hlt (Nat.not_lt_zero _)⟩
    · next hf =>
      obtain ⟨found, hfound, rfl⟩ := Option.map_eq_some_iff.1 h
      obtain ⟨⟨rest, hcs, hreads⟩, hfirst⟩ := ih hfound
      refine ⟨⟨rest, by rw [hcs, List.cons_append], by rw [getLast?_cons_or]; exact hreads⟩, ?_⟩
      intro early later hsplit hlt
      cases early with
      | nil =>
        obtain rfl : c :: cs = later := hsplit
        exact hf
      | cons c' early =>
        obtain ⟨rfl, rfl⟩ := List.cons.inj hsplit
        rw [getLast?_cons_or]
        exact hfirst early later rfl (Nat.lt_of_succ_lt_succ hlt)

theorem occurs_iff {α : Type} {f : Scanner α} {cs : List Char} :
    occurs f cs = true ↔
      ∃ before rest, cs = before ++ rest ∧ (f before.getLast? rest).isSome = true := by
  simp only [occurs, leftmost, isSome_leftmostFrom_iff, Option.or_none]

end ErrorGuide.Text
