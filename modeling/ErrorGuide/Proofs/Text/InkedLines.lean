import ErrorGuide.Proofs.Text.Respacing
import Mathlib.Data.List.Find

/-! The lines of a text that have something else than white space. They are the same, once trimmed,
in texts that differ in how lines end and in the white space at the end. -/

namespace ErrorGuide.Text
open Unicode

def inkedLines (lines : List (List Char)) : List (List Char) :=
  (lines.map (strip isBlank)).filter (· ≠ [])

theorem inkedLines_cons (line : List Char) (lines : List (List Char)) :
    inkedLines (line :: lines) =
      if strip isBlank line = [] then inkedLines lines
      else strip isBlank line :: inkedLines lines := by
  rw [inkedLines, List.map_cons, List.filter_cons]
  split <;> simp_all [inkedLines]

theorem find?_map_strip {p : List Char → Bool} (hp : p [] = false) (lines : List (List Char)) :
    (lines.map (strip isBlank)).find? p = (inkedLines lines).find? p := by
  rw [inkedLines, List.find?_filter]
  refine List.find?_congr fun line _ => ?_
  by_cases hline : line = []
  · simp [hline, hp]
  · simp [hline]

theorem strip_dropReturn (piece : List Char) :
    strip isBlank (dropReturn piece) = strip isBlank piece := by
  by_cases hlast : piece.getLast? = some '\r'
  · obtain ⟨line, rfl⟩ := List.getLast?_eq_some_iff.1 hlast
    rw [dropReturn_append_return, strip_append line (List.forall_mem_singleton.2 (by decide))]
  · rw [dropReturn, if_neg hlast]

theorem inkedLines_terminatedLines (pieces : List (List Char)) :
    inkedLines (terminatedLines pieces) = inkedLines pieces := by
  induction pieces with
  | nil => rfl
  | cons piece rest ih =>
    by_cases hlast : rest = []
    · subst hlast
      rw [terminatedLines]
      split
      · next hempty =>
        subst hempty
        rfl
      · rfl
    · rw [terminatedLines_cons hlast, inkedLines_cons, inkedLines_cons, strip_dropReturn, ih]

theorem inkedLines_of_blank {pieces : List (List Char)}
    (h : ∀ piece ∈ pieces, ∀ c ∈ piece, isBlank c = true) : inkedLines pieces = [] := by
  induction pieces with
  | nil => rfl
  | cons piece rest ih =>
    obtain ⟨hpiece, hrest⟩ := List.forall_mem_cons.1 h
    rw [inkedLines_cons, if_pos (strip_of_all hpiece), ih hrest]

theorem inkedLines_cons_append {m b b' : List Char} {rest rest' : List (List Char)}
    (hb : ∀ c ∈ b, isBlank c = true) (hb' : ∀ c ∈ b', isBlank c = true)
    (hrest : inkedLines rest = inkedLines rest') :
    inkedLines ((m ++ b) :: rest) = inkedLines ((m ++ b') :: rest') := by
  rw [inkedLines_cons, inkedLines_cons, strip_append m hb, strip_append m hb', hrest]

/-- Of the pieces of both texts the first ones differ in the white space at their end, and the later
ones have the same lines. -/
theorem splitNewlines_respaced {cs cs' : List Char} (h : Respaced cs cs') :
    ∃ m b b' rest rest', splitNewlines cs = (m ++ b) :: rest ∧
      splitNewlines cs' = (m ++ b') :: rest' ∧ (∀ c ∈ b, isBlank c = true) ∧
      (∀ c ∈ b', isBlank c = true) ∧ inkedLines rest = inkedLines rest' := by
  have hpadding {b : List Char} (hb : ∀ c ∈ b, isBlank c = true) :
      ∃ piece rest, splitNewlines b = piece :: rest ∧ (∀ c ∈ piece, isBlank c = true) ∧
        inkedLines rest = [] := by
    obtain ⟨piece, rest, hsplit⟩ := List.exists_cons_of_ne_nil (splitNewlines_ne_nil b)
    have hblank : ∀ piece ∈ splitNewlines b, ∀ c ∈ piece, isBlank c = true :=
      fun _ hpiece c hc => hb c (mem_of_mem_splitNewlines hpiece hc)
    rw [hsplit] at hblank
    obtain ⟨hpiece, hrest⟩ := List.forall_mem_cons.1 hblank
    exact ⟨piece, rest, hsplit, hpiece, inkedLines_of_blank hrest⟩
  induction h with
  | padding h h' =>
    obtain ⟨piece, rest, hsplit, hpiece, hrest⟩ := hpadding h
    obtain ⟨piece', rest', hsplit', hpiece', hrest'⟩ := hpadding h'
    exact ⟨[], piece, piece', rest, rest', hsplit, hsplit', hpiece, hpiece', hrest.trans hrest'.symm⟩
  | @char c cs cs' h ih =>
    obtain ⟨m, b, b', rest, rest', hsplit, hsplit', hb, hb', hrest⟩ := ih
    by_cases hc : c = '\n'
    · -- The first pieces so far become whole lines, which are trimmed at both ends.
      subst hc
      refine ⟨[], [], [], splitNewlines cs, splitNewlines cs', rfl, rfl, List.forall_mem_nil _,
        List.forall_mem_nil _, ?_⟩
      rw [hsplit, hsplit', inkedLines_cons_append hb hb' hrest]
    · exact ⟨c :: m, b, b', rest, rest', splitNewlines_cons hc hsplit, splitNewlines_cons hc hsplit',
        hb, hb', hrest⟩
  | @newline cs cs' h ih =>
    obtain ⟨m, b, b', rest, rest', hsplit, hsplit', hb, hb', hrest⟩ := ih
    refine ⟨[], [], ['\r'], splitNewlines cs, splitNewlines cs', rfl, rfl, List.forall_mem_nil _,
      List.forall_mem_singleton.2 (by decide), ?_⟩
    rw [hsplit, hsplit', inkedLines_cons_append hb hb' hrest]

theorem Respaced.inkedLines_eq {cs cs' : List Char} (h : Respaced cs cs') :
    inkedLines (lines cs') = inkedLines (lines cs) := by
  obtain ⟨m, b, b', rest, rest', hsplit, hsplit', hb, hb', hrest⟩ := splitNewlines_respaced h
  rw [lines, lines, inkedLines_terminatedLines, inkedLines_terminatedLines, hsplit, hsplit',
    inkedLines_cons_append hb hb' hrest]

end ErrorGuide.Text
