import ErrorGuide.Proofs.Text.Trimmed
import Mathlib.Data.List.Forall2

/-! The lines of a text, said without reading it: the pieces between its newlines, and for a source
these pieces without the carriage return that each may end in. -/

namespace ErrorGuide.Text

variable {cs piece line : List Char} {pieces lines : List (List Char)}

inductive Pieces : List Char → List (List Char) → Prop
  | last {piece : List Char} (unbroken : '\n' ∉ piece) : Pieces piece [piece]
  | cons {piece cs : List Char} {pieces : List (List Char)} (unbroken : '\n' ∉ piece)
    (later : Pieces cs pieces) : Pieces (piece ++ '\n' :: cs) (piece :: pieces)

theorem Pieces.unbroken (h : Pieces cs pieces) : ∀ piece ∈ pieces, '\n' ∉ piece := by
  induction h with
  | last hpiece => exact List.forall_mem_singleton.2 hpiece
  | cons hpiece _ ih => exact List.forall_mem_cons.2 ⟨hpiece, ih⟩

theorem Pieces.ne_nil (h : Pieces cs pieces) : pieces ≠ [] := by
  cases h with
  | last => exact List.cons_ne_nil _ _
  | cons => exact List.cons_ne_nil _ _

/-- A character that is no newline belongs to the first piece. -/
theorem Pieces.push {c : Char} (hc : c ≠ '\n') (h : Pieces cs (piece :: pieces)) :
    Pieces (c :: cs) ((c :: piece) :: pieces) := by
  have hpush (piece : List Char) (hpiece : '\n' ∉ piece) : '\n' ∉ c :: piece :=
    List.not_mem_cons_of_ne_of_not_mem hc.symm hpiece
  cases h with
  | last hpiece => exact .last (hpush _ hpiece)
  | cons hpiece later => exact .cons (hpush _ hpiece) later

theorem pieces_splitNewlines (cs : List Char) : Pieces cs (splitNewlines cs) := by
  induction cs with
  | nil => exact .last List.not_mem_nil
  | cons c cs ih =>
    by_cases hc : c = '\n'
    · subst hc
      rw [splitNewlines_newline]
      exact .cons List.not_mem_nil ih
    · obtain ⟨piece, pieces, hsplit⟩ := List.exists_cons_of_ne_nil (splitNewlines_ne_nil cs)
      rw [splitNewlines_cons hc hsplit]
      exact (hsplit ▸ ih).push hc

theorem splitNewlines_append (hpiece : '\n' ∉ piece) (cs : List Char) :
    splitNewlines (piece ++ '\n' :: cs) = piece :: splitNewlines cs := by
  induction piece with
  | nil => rfl
  | cons c piece ih =>
    obtain ⟨hc, hrest⟩ := List.ne_and_not_mem_of_not_mem_cons hpiece
    exact splitNewlines_cons hc.symm (ih hrest)

theorem splitNewlines_eq_iff : splitNewlines cs = pieces ↔ Pieces cs pieces := by
  constructor
  · intro h
    exact h ▸ pieces_splitNewlines cs
  · intro h
    induction h with
    | last hpiece => exact splitNewlines_of_not_mem hpiece
    | cons hpiece _ ih => rw [splitNewlines_append hpiece, ih]

inductive WithoutReturn : List Char → List Char → Prop
  | returned (line : List Char) : WithoutReturn (line ++ ['\r']) line
  | plain {line : List Char} (h : line.getLast? ≠ some '\r') : WithoutReturn line line

theorem dropReturn_eq_iff : dropReturn piece = line ↔ WithoutReturn piece line := by
  constructor
  · intro h
    subst h
    by_cases hlast : piece.getLast? = some '\r'
    · obtain ⟨line, rfl⟩ := List.getLast?_eq_some_iff.1 hlast
      rw [dropReturn_append_return]
      exact .returned line
    · rw [dropReturn, if_neg hlast]
      exact .plain hlast
  · intro h
    cases h with
    | returned => exact dropReturn_append_return line
    | plain hlast => exact if_neg hlast

theorem WithoutReturn.subset (h : WithoutReturn piece line) : line ⊆ piece := by
  cases h with
  | returned => exact List.subset_append_left _ _
  | plain => exact List.Subset.refl _

/-- The lines of a source: newlines part them, and a carriage return right before a newline or at the
end is no part of a line. -/
def IsSource (cs : List Char) (lines : List (List Char)) : Prop :=
  ∃ pieces, Pieces cs pieces ∧ List.Forall₂ WithoutReturn pieces lines

theorem IsSource.ne_nil (h : IsSource cs lines) : lines ≠ [] := by
  obtain ⟨pieces, hpieces, hforall⟩ := h
  intro hnil
  exact hpieces.ne_nil (List.forall₂_nil_right_iff.1 (hnil ▸ hforall))

theorem forall₂_withoutReturn_iff :
    List.Forall₂ WithoutReturn pieces lines ↔ pieces.map dropReturn = lines := by
  rw [← List.forall₂_eq_eq_eq, List.forall₂_map_left_iff]
  simp only [dropReturn_eq_iff]

theorem sourceLines_eq_iff : sourceLines cs = lines ↔ IsSource cs lines := by
  rw [sourceLines, IsSource]
  constructor
  · intro h
    exact ⟨splitNewlines cs, pieces_splitNewlines cs, forall₂_withoutReturn_iff.2 h⟩
  · intro h
    obtain ⟨pieces, hpieces, hlines⟩ := h
    rw [splitNewlines_eq_iff.2 hpieces]
    exact forall₂_withoutReturn_iff.1 hlines

theorem isSource_sourceLines (cs : List Char) : IsSource cs (sourceLines cs) :=
  sourceLines_eq_iff.1 rfl

theorem unbroken_of_mem_sourceLines (h : line ∈ sourceLines cs) : '\n' ∉ line := by
  obtain ⟨piece, hpiece, hline⟩ := List.mem_map.1 h
  have hunbroken := (pieces_splitNewlines cs).unbroken piece hpiece
  exact fun hmem => hunbroken ((dropReturn_eq_iff.1 hline).subset hmem)

end ErrorGuide.Text
