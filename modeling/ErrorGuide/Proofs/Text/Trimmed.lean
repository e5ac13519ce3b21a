import ErrorGuide.Proofs.Text.Lines
import Mathlib.Data.List.DropRight

/-! Trimmed texts and the last lines of texts. What trimming leaves is between white space and has none
at its own ends, and the last line of a text is what follows its last newline. -/

namespace ErrorGuide.Text
open Unicode

variable {cs text line piece : List Char}

structure Trimmed (text : List Char) : Prop where
  head : ∀ c ∈ text.head?, isBlank c = false
  last : ∀ c ∈ text.getLast?, isBlank c = false

structure IsTrimOf (cs text : List Char) : Prop where
  split : ∃ lead trail, cs = lead ++ (text ++ trail) ∧ (∀ c ∈ lead, isBlank c = true) ∧
    ∀ c ∈ trail, isBlank c = true
  trimmed : Trimmed text

theorem dropTailWhile_append_tail (p : Char → Bool) (cs : List Char) :
    dropTailWhile p cs ++ cs.rtakeWhile p = cs :=
  List.rdropWhile_append_rtakeWhile

theorem trimmed_strip (cs : List Char) : Trimmed (strip isBlank cs) where
  head c hc := by
    have hhead : (cs.dropWhile isBlank).head? = some c := by
      rw [← dropTailWhile_append_tail isBlank (cs.dropWhile isBlank), List.head?_append, ← strip,
        Option.mem_def.1 hc]
      rfl
    have hnot := List.head?_dropWhile_not isBlank cs
    rwa [hhead] at hnot
  last c hc := by
    have hne : strip isBlank cs ≠ [] := by
      intro hnil
      rw [hnil] at hc
      cases hc
    have hnot := List.rdropWhile_last_not isBlank (cs.dropWhile isBlank) hne
    obtain ⟨_, rfl⟩ := List.mem_getLast?_eq_getLast hc
    exact Bool.not_eq_true _ ▸ hnot

theorem Trimmed.strip_eq (h : Trimmed text) : strip isBlank text = text := by
  cases text with
  | nil => rfl
  | cons c cs =>
    have hhead : ¬isBlank c = true := Bool.not_eq_true _ ▸ h.head c rfl
    rw [strip, List.dropWhile_cons_of_neg hhead]
    refine List.rdropWhile_eq_self_iff.2 fun hne => ?_
    exact Bool.not_eq_true _ ▸ h.last _ (List.getLast?_eq_some_getLast hne)

theorem isTrimOf_strip (cs : List Char) : IsTrimOf cs (strip isBlank cs) where
  split := by
    refine ⟨cs.takeWhile isBlank, (cs.dropWhile isBlank).rtakeWhile isBlank, ?_, ?_, ?_⟩
    · rw [strip, dropTailWhile_append_tail, List.takeWhile_append_dropWhile]
    · exact List.all_eq_true.1 List.all_takeWhile
    · exact fun c hc => List.mem_rtakeWhile_imp hc
  trimmed := trimmed_strip cs

theorem IsTrimOf.strip_eq (h : IsTrimOf cs text) : strip isBlank cs = text := by
  obtain ⟨lead, trail, rfl, hlead, htrail⟩ := h.split
  rw [strip_prepend _ hlead, strip_append _ htrail, h.trimmed.strip_eq]

theorem trim_eq_self_iff {s : String} : trim s = s ↔ Trimmed s.toList := by
  constructor
  · intro h
    rw [← h, trim, String.toList_ofList]
    exact trimmed_strip s.toList
  · intro h
    rw [trim, h.strip_eq, String.ofList_toList]

theorem length_trim_le (s : String) : (trim s).toList.length ≤ s.toList.length := by
  obtain ⟨lead, trail, hsplit, -, -⟩ := (isTrimOf_strip s.toList).split
  have hlength := congrArg List.length hsplit
  rw [trim, String.toList_ofList]
  simp only [List.length_append] at hlength
  omega

/-! The last line of a text. -/

structure IsLastLine (cs line : List Char) : Prop where
  split : ∃ before, cs = before ++ line ∧ ∀ c ∈ before.getLast?, c = '\n'
  unbroken : '\n' ∉ line

theorem exists_isLastLine (cs : List Char) : ∃ line, IsLastLine cs line := by
  refine ⟨cs.rtakeWhile (· ≠ '\n'), ⟨cs.rdropWhile (· ≠ '\n'), ?_, ?_⟩, ?_⟩
  · exact List.rdropWhile_append_rtakeWhile.symm
  · intro c hc
    obtain ⟨hne, rfl⟩ := List.mem_getLast?_eq_getLast hc
    simpa using List.rdropWhile_last_not _ cs hne
  · intro hmem
    simpa using List.mem_rtakeWhile_imp hmem

/-- A trimmed text ends in a line that is not empty, unless it is empty itself. -/
theorem IsLastLine.eq_nil_of_trimmed (h : IsLastLine text []) (htext : Trimmed text) : text = [] := by
  obtain ⟨before, rfl, hbefore⟩ := h.split
  rw [List.append_nil] at htext ⊢
  cases hlast : before.getLast? with
  | none => exact List.getLast?_eq_none_iff.1 hlast
  | some c =>
    obtain rfl := hbefore c hlast
    exact absurd (htext.last _ hlast) (by decide)

theorem splitNewlines_of_not_mem (h : '\n' ∉ cs) : splitNewlines cs = [cs] := by
  induction cs with
  | nil => rfl
  | cons c cs ih =>
    have hc : c ≠ '\n' := fun hc => h (hc ▸ List.mem_cons_self)
    exact splitNewlines_cons hc (ih fun hcs => h (List.mem_cons_of_mem c hcs))

theorem splitNewlines_append_newline (before : List Char) (h : '\n' ∉ line) :
    splitNewlines (before ++ '\n' :: line) = splitNewlines before ++ [line] := by
  induction before with
  | nil =>
    rw [List.nil_append, splitNewlines_newline, splitNewlines_of_not_mem h]
    rfl
  | cons c before ih =>
    rw [List.cons_append]
    by_cases hc : c = '\n'
    · subst hc
      rw [splitNewlines_newline, splitNewlines_newline, ih]
      rfl
    · obtain ⟨piece, pieces, hsplit⟩ := List.exists_cons_of_ne_nil (splitNewlines_ne_nil before)
      rw [splitNewlines_cons hc hsplit]
      rw [hsplit] at ih
      exact splitNewlines_cons hc ih

theorem terminatedLines_concat (pieces : List (List Char)) (h : line ≠ []) :
    terminatedLines (pieces ++ [line]) = pieces.map dropReturn ++ [line] := by
  induction pieces with
  | nil => exact if_neg h
  | cons first pieces ih =>
    have hne : pieces ++ [line] ≠ [] := List.append_ne_nil_of_right_ne_nil _ (List.cons_ne_nil _ _)
    rw [List.cons_append, terminatedLines_cons hne, ih]
    rfl

/-- The last line stays as it is, if it is not empty. -/
theorem IsLastLine.exists_lines_eq (h : IsLastLine cs line) (hne : line ≠ []) :
    ∃ earlier, lines cs = earlier ++ [line] := by
  obtain ⟨before, rfl, hbefore⟩ := h.split
  rcases List.eq_nil_or_concat before with rfl | ⟨before, c, rfl⟩
  · refine ⟨[], ?_⟩
    rw [lines, List.nil_append, splitNewlines_of_not_mem h.unbroken]
    exact if_neg hne
  · obtain rfl := hbefore c (by simp)
    refine ⟨(splitNewlines before).map dropReturn, ?_⟩
    rw [lines, List.concat_eq_append, List.append_assoc, List.singleton_append,
      splitNewlines_append_newline before h.unbroken, terminatedLines_concat _ hne]

end ErrorGuide.Text
