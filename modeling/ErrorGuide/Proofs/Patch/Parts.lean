import ErrorGuide.Patch.Rule
import ErrorGuide.Proofs.Text.Places
import ErrorGuide.Proofs.Unicode.Blank

/-! The parts of a line that patches replace, said without reading: calls of `push`, and names that
are added and stand alone. Each starts with a character that it has only once, so replacing one of
them by a text that starts with that character leaves the others as they are. -/

namespace ErrorGuide.Patch
open Text Unicode

variable {m name s : List Char}

/-! Calls of `push`. -/

def IsPushCall (m : List Char) : Prop :=
  ∃ word gap, m = '.' :: (word ++ (gap ++ ['('])) ∧ InAnyCase "push".toList word ∧
    ∀ c ∈ gap, isBlank c = true

theorem pushCall_eq_some_iff {prev : Option Char} {cs : List Char} :
    pushCall prev cs = some ((), s) ↔ ∃ m, cs = m ++ s ∧ IsPushCall m := by
  simp only [pushCall, Option.bind_eq_bind, Option.bind_eq_some_iff, exactly_eq_some_iff,
    phrase_eq_some_iff]
  constructor
  · rintro ⟨_, rfl, after, ⟨word, rfl, hword⟩, rest, hopen, hrest⟩
    obtain ⟨-, rfl⟩ := Prod.mk.inj (Option.some.inj hrest)
    have hafter : after = after.takeWhile isBlank ++ '(' :: rest := by
      rw [← hopen, List.takeWhile_append_dropWhile]
    refine ⟨'.' :: (word ++ (after.takeWhile isBlank ++ ['('])), ?_, word,
      after.takeWhile isBlank, rfl, hword, List.all_eq_true.1 List.all_takeWhile⟩
    rw [List.cons_append, List.append_assoc, List.append_assoc]
    exact congrArg (fun after => '.' :: (word ++ after)) hafter
  · rintro ⟨_, rfl, word, gap, rfl, hword, hgap⟩
    refine ⟨word ++ (gap ++ '(' :: s), by simp, gap ++ '(' :: s, ⟨word, rfl, hword⟩, s, ?_, rfl⟩
    rw [List.dropWhile_append_of_pos hgap]
    rfl

theorem pushCall_dot (prev : Option Char) (cs : List Char) :
    pushCall prev ('.' :: cs) = (phrase "push".toList cs).bind fun rest =>
      (exactly '(' (rest.dropWhile isBlank)).bind fun s => some ((), s) :=
  rfl

theorem startsWith_pushCall : StartsWith pushCall '.' where
  anywhere _ _ := rfl
  head cs h := by
    obtain ⟨⟨_, s⟩, hread⟩ := Option.isSome_iff_exists.1 h
    obtain ⟨m, rfl, word, gap, rfl, -⟩ := pushCall_eq_some_iff.1 hread
    rfl
  ahead u w := by
    have hletters : ∀ a ∈ "push".toList, sameFold a '.' = false := by
      have hall : "push".toList.all (fun a => !sameFold a '.') = true := rfl
      intro a ha
      have hno := List.all_eq_true.1 hall a ha
      rwa [Bool.not_eq_true'] at hno
    rw [pushCall_dot, pushCall_dot, phrase_append_cons hletters, Option.bind_map]
    cases phrase "push".toList u with
    | none => rfl
    | some rest =>
      rw [Option.bind_some, Option.bind_some, Function.comp_apply,
        dropWhile_append_cons (by decide), exactly_append_cons (by decide)]
      cases exactly '(' (rest.dropWhile isBlank) <;> rfl

theorem IsPushCall.eq_cons (h : IsPushCall m) : ∃ tail, m = '.' :: tail ∧ '.' ∉ tail := by
  obtain ⟨word, gap, rfl, hword, hgap⟩ := h
  refine ⟨_, rfl, ?_⟩
  intro hdot
  rcases List.mem_append.1 hdot with hdot | hdot
  · have hfold : fold '.' ∈ "push".toList.map fold := by
      rw [← hword]
      exact List.mem_map_of_mem hdot
    exact absurd hfold (by decide)
  · rcases List.mem_append.1 hdot with hdot | hdot
    · exact absurd (hgap '.' hdot) (by decide)
    · exact absurd hdot (by decide)

/-! Names that are added. -/

/-- A plus sign and a whole name, with white space between them or without. Neither a parenthesis nor
a dot nor a bracket follows. -/
structure IsBareOperand (m name s : List Char) : Prop where
  split : ∃ gap, m = '+' :: (gap ++ name) ∧ ∀ c ∈ gap, isBlank c = true
  name : ∃ c cs, name = c :: cs ∧ isNameStart c = true ∧ ∀ d ∈ cs, isWord d = true
  whole : ∀ c ∈ s.head?, isWord c = false
  alone : ∀ c ∈ s.head?, c ≠ '(' ∧ c ≠ '.' ∧ c ≠ '['

theorem not_isBlank_of_isNameStart {c : Char} (h : isNameStart c = true) : isBlank c = false := by
  cases hc : isBlank c with
  | false => rfl
  | true =>
    have hall : ∀ n ∈ blankCodes, isNameStart (Char.ofNat n) = false := by decide
    have hno := hall _ (toNat_mem_blankCodes hc)
    rw [Char.ofNat_toNat, h] at hno
    cases hno

theorem IsBareOperand.plus_not_mem (h : IsBareOperand m name s) : '+' ∉ name := by
  obtain ⟨c, cs, rfl, hc, hcs⟩ := h.name
  intro hplus
  rcases List.mem_cons.1 hplus with rfl | hplus
  · exact absurd hc (by decide)
  · exact absurd (hcs '+' hplus) (by decide)

theorem standsAlone_iff : standsAlone s = true ↔ ∀ c ∈ s.head?, c ≠ '(' ∧ c ≠ '.' ∧ c ≠ '[' := by
  rw [standsAlone]
  cases s.head? with
  | none => simp
  | some c => simp [and_assoc]

theorem guard_bind {α : Type} (p : Prop) [Decidable p] (x : Option α) :
    ((guard p : Option Unit).bind fun _ => x) = if p then x else none := by
  by_cases hp : p
  · have hguard : (guard p : Option Unit) = some () := if_pos hp
    rw [hguard, if_pos hp, Option.bind_some]
  · have hguard : (guard p : Option Unit) = none := if_neg hp
    rw [hguard, if_neg hp, Option.bind_none]

theorem bareOperand_plus (prev : Option Char) (cs : List Char) :
    bareOperand prev ('+' :: cs) = match cs.dropWhile isBlank with
      | [] => none
      | c :: rest =>
        if isNameStart c = true ∧ standsAlone (rest.dropWhile isWord) = true then
          some (c :: rest.takeWhile isWord, rest.dropWhile isWord)
        else none := by
  rw [bareOperand, plusName, exactly, if_pos rfl, Option.bind_eq_bind, Option.bind_eq_bind,
    Option.bind_some]
  cases cs.dropWhile isBlank with
  | nil => rfl
  | cons c rest =>
    change ((guard (isNameStart c = true) : Option Unit).bind fun _ =>
      some (c :: rest.takeWhile isWord, rest.dropWhile isWord)).bind (fun found =>
        (guard (standsAlone found.2 = true) : Option Unit).bind fun _ => some (found.1, found.2)) =
      if isNameStart c = true ∧ standsAlone (rest.dropWhile isWord) = true then
        some (c :: rest.takeWhile isWord, rest.dropWhile isWord)
      else none
    rw [guard_bind]
    by_cases hc : isNameStart c = true
    · rw [if_pos hc, Option.bind_some, guard_bind]
      by_cases halone : standsAlone (rest.dropWhile isWord) = true
      · rw [if_pos halone, if_pos ⟨hc, halone⟩]
      · rw [if_neg halone, if_neg fun h => halone h.2]
    · rw [if_neg hc, if_neg fun h => hc h.1, Option.bind_none]

theorem bareOperand_eq_some_iff {prev : Option Char} {cs : List Char} :
    bareOperand prev cs = some (name, s) ↔ ∃ m, cs = m ++ s ∧ IsBareOperand m name s := by
  constructor
  · intro h
    obtain ⟨after, rfl⟩ : ∃ after, cs = '+' :: after := by
      rw [bareOperand, Option.bind_eq_bind, Option.bind_eq_some_iff] at h
      obtain ⟨_, hplus, -⟩ := h
      rw [plusName, Option.bind_eq_bind, Option.bind_eq_some_iff] at hplus
      obtain ⟨after, hafter, -⟩ := hplus
      exact ⟨after, exactly_eq_some_iff.1 hafter⟩
    rw [bareOperand_plus] at h
    split at h
    · cases h
    · next c rest hdrop =>
      split at h
      · next hc =>
        obtain ⟨rfl, rfl⟩ := Prod.mk.inj (Option.some.inj h)
        have hafter : after = after.takeWhile isBlank ++
            c :: (rest.takeWhile isWord ++ rest.dropWhile isWord) := by
          rw [List.takeWhile_append_dropWhile, ← hdrop, List.takeWhile_append_dropWhile]
        refine ⟨'+' :: (after.takeWhile isBlank ++ c :: rest.takeWhile isWord), ?_,
          ⟨_, rfl, List.all_eq_true.1 List.all_takeWhile⟩,
          ⟨c, _, rfl, hc.1, List.all_eq_true.1 List.all_takeWhile⟩, ?_, standsAlone_iff.1 hc.2⟩
        · rw [List.cons_append, List.append_assoc, List.cons_append]
          exact congrArg (List.cons '+') hafter
        · intro d hd
          have hnot := List.head?_dropWhile_not isWord rest
          rwa [Option.mem_def.1 hd] at hnot
      · cases h
  · rintro ⟨m, rfl, hm⟩
    obtain ⟨gap, rfl, hgap⟩ := hm.split
    obtain ⟨c, tail, rfl, hc, htail⟩ := hm.name
    obtain ⟨htake, hdrop⟩ := takeWhile_append_of_head htail hm.whole
    have hblank : ¬isBlank c = true := by
      rw [not_isBlank_of_isNameStart hc]
      decide
    rw [List.cons_append, List.append_assoc, List.cons_append, bareOperand_plus,
      List.dropWhile_append_of_pos hgap, List.dropWhile_cons_of_neg hblank]
    dsimp only
    rw [htake, hdrop, if_pos ⟨hc, standsAlone_iff.2 hm.alone⟩]

theorem standsAlone_append_plus (after w : List Char) :
    standsAlone (after ++ '+' :: w) = standsAlone after := by
  cases after with
  | nil => rfl
  | cons c after => rfl

theorem startsWith_bareOperand : StartsWith bareOperand '+' where
  anywhere _ _ := rfl
  head cs h := by
    obtain ⟨⟨name, s⟩, hread⟩ := Option.isSome_iff_exists.1 h
    obtain ⟨m, rfl, hm⟩ := bareOperand_eq_some_iff.1 hread
    obtain ⟨gap, rfl, -⟩ := hm.split
    rfl
  ahead u w := by
    rw [bareOperand_plus, bareOperand_plus, dropWhile_append_cons (by decide)]
    cases u.dropWhile isBlank with
    | nil => rfl
    | cons c rest =>
      rw [List.cons_append]
      dsimp only
      rw [dropWhile_append_cons (by decide), standsAlone_append_plus]
      split <;> rfl

theorem IsBareOperand.eq_cons (h : IsBareOperand m name s) : ∃ tail, m = '+' :: tail ∧ '+' ∉ tail := by
  obtain ⟨gap, rfl, hgap⟩ := h.split
  refine ⟨_, rfl, ?_⟩
  intro hplus
  rcases List.mem_append.1 hplus with hplus | hplus
  · exact absurd (hgap '+' hplus) (by decide)
  · exact absurd hplus h.plus_not_mem

end ErrorGuide.Patch
