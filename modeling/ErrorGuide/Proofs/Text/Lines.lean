import ErrorGuide.Text.Lines
import ErrorGuide.Text.Trim
import Mathlib.Data.List.TakeWhile

/-! The two ways of ending a line. A text without carriage returns has the same lines, as a text and
as a source, when one is put before each of its newlines. Trimming takes off the white space at the
ends, whichever it is, and leaves the line ends between. -/

namespace ErrorGuide.Text
open Unicode
variable {cs piece : List Char} {pieces : List (List Char)}

theorem splitNewlines_newline (cs : List Char) :
    splitNewlines ('\n' :: cs) = [] :: splitNewlines cs := rfl

theorem splitNewlines_ne_nil (cs : List Char) : splitNewlines cs ≠ [] := by
  cases cs with
  | nil => exact List.cons_ne_nil _ _
  | cons c cs =>
    rw [splitNewlines]
    split
    · exact List.cons_ne_nil _ _
    · split <;> exact List.cons_ne_nil _ _

theorem splitNewlines_cons {c : Char} (hc : c ≠ '\n') (h : splitNewlines cs = piece :: pieces) :
    splitNewlines (c :: cs) = (c :: piece) :: pieces := by
  rw [splitNewlines, if_neg hc, h]

theorem mem_of_mem_splitNewlines {c : Char} (h : piece ∈ splitNewlines cs) (hc : c ∈ piece) :
    c ∈ cs := by
  induction cs generalizing piece with
  | nil =>
    obtain rfl := List.mem_singleton.1 h
    exact hc
  | cons a cs ih =>
    by_cases ha : a = '\n'
    · subst ha
      rcases List.mem_cons.1 h with rfl | hlater
      · cases hc
      · exact List.mem_cons_of_mem _ (ih hlater hc)
    · obtain ⟨first, pieces, hsplit⟩ := List.exists_cons_of_ne_nil (splitNewlines_ne_nil cs)
      rw [splitNewlines_cons ha hsplit] at h
      rcases List.mem_cons.1 h with rfl | hlater
      · rcases List.mem_cons.1 hc with rfl | hfirst
        · exact List.mem_cons_self
        · exact List.mem_cons_of_mem _ (ih (hsplit ▸ List.mem_cons_self) hfirst)
      · exact List.mem_cons_of_mem _ (ih (hsplit ▸ List.mem_cons_of_mem _ hlater) hc)

def returned (c : Char) : List Char := if c = '\n' then ['\r', '\n'] else [c]

def withReturns (cs : List Char) : List Char := cs.flatMap returned

theorem withReturns_newline (cs : List Char) :
    withReturns ('\n' :: cs) = '\r' :: '\n' :: withReturns cs := rfl

theorem withReturns_cons {c : Char} (hc : c ≠ '\n') (cs : List Char) :
    withReturns (c :: cs) = c :: withReturns cs := by
  rw [withReturns, List.flatMap_cons, returned, if_neg hc]
  rfl

def endInReturns : List (List Char) → List (List Char)
  | [] => []
  | [last] => [last]
  | piece :: next :: rest => (piece ++ ['\r']) :: endInReturns (next :: rest)

theorem endInReturns_cons (h : pieces ≠ []) :
    endInReturns (piece :: pieces) = (piece ++ ['\r']) :: endInReturns pieces := by
  cases pieces with
  | nil => exact absurd rfl h
  | cons next rest => rfl

theorem endInReturns_ne_nil (h : pieces ≠ []) : endInReturns pieces ≠ [] := by
  obtain ⟨piece, rest, rfl⟩ := List.exists_cons_of_ne_nil h
  cases rest <;> exact List.cons_ne_nil _ _

theorem endInReturns_push (c : Char) (piece : List Char) (pieces : List (List Char)) :
    ∃ first rest, endInReturns (piece :: pieces) = first :: rest ∧
      endInReturns ((c :: piece) :: pieces) = (c :: first) :: rest := by
  cases pieces with
  | nil => exact ⟨piece, [], rfl, rfl⟩
  | cons next rest => exact ⟨_, _, rfl, rfl⟩

theorem splitNewlines_withReturns (cs : List Char) :
    splitNewlines (withReturns cs) = endInReturns (splitNewlines cs) := by
  induction cs with
  | nil => rfl
  | cons c cs ih =>
    by_cases hc : c = '\n'
    · subst hc
      rw [withReturns_newline, splitNewlines_newline, endInReturns_cons (splitNewlines_ne_nil cs),
        ← ih]
      exact splitNewlines_cons (by decide) (splitNewlines_newline _)
    · obtain ⟨piece, pieces, hsplit⟩ := List.exists_cons_of_ne_nil (splitNewlines_ne_nil cs)
      obtain ⟨first, rest, hends, hpush⟩ := endInReturns_push c piece pieces
      rw [withReturns_cons hc, splitNewlines_cons hc hsplit, hpush]
      exact splitNewlines_cons hc (by rw [ih, hsplit, hends])

theorem dropReturn_append_return (piece : List Char) : dropReturn (piece ++ ['\r']) = piece := by
  rw [dropReturn, if_pos List.getLast?_concat, List.dropLast_concat]

theorem dropReturn_of_not_mem (h : '\r' ∉ piece) : dropReturn piece = piece :=
  if_neg fun hlast => h (List.mem_of_getLast? hlast)

theorem terminatedLines_cons (h : pieces ≠ []) :
    terminatedLines (piece :: pieces) = dropReturn piece :: terminatedLines pieces := by
  cases pieces with
  | nil => exact absurd rfl h
  | cons next rest => rfl

theorem terminatedLines_endInReturns (h : ∀ piece ∈ pieces, '\r' ∉ piece) :
    terminatedLines (endInReturns pieces) = terminatedLines pieces := by
  induction pieces with
  | nil => rfl
  | cons piece rest ih =>
    obtain ⟨hpiece, hrest⟩ := List.forall_mem_cons.1 h
    by_cases hlast : rest = []
    · subst hlast
      rfl
    · rw [endInReturns_cons hlast, terminatedLines_cons (endInReturns_ne_nil hlast),
        terminatedLines_cons hlast, ih hrest, dropReturn_append_return, dropReturn_of_not_mem hpiece]

theorem map_dropReturn_endInReturns (h : ∀ piece ∈ pieces, '\r' ∉ piece) :
    (endInReturns pieces).map dropReturn = pieces.map dropReturn := by
  induction pieces with
  | nil => rfl
  | cons piece rest ih =>
    obtain ⟨hpiece, hrest⟩ := List.forall_mem_cons.1 h
    by_cases hlast : rest = []
    · subst hlast
      rfl
    · rw [endInReturns_cons hlast, List.map_cons, List.map_cons, ih hrest,
        dropReturn_append_return, dropReturn_of_not_mem hpiece]

theorem lines_withReturns (h : '\r' ∉ cs) : lines (withReturns cs) = lines cs := by
  rw [lines, lines, splitNewlines_withReturns]
  exact terminatedLines_endInReturns fun _ hpiece hc => h (mem_of_mem_splitNewlines hpiece hc)

theorem sourceLines_withReturns (h : '\r' ∉ cs) : sourceLines (withReturns cs) = sourceLines cs := by
  rw [sourceLines, sourceLines, splitNewlines_withReturns]
  exact map_dropReturn_endInReturns fun _ hpiece hc => h (mem_of_mem_splitNewlines hpiece hc)

/-! Trimming. -/

section Strip
variable {p : Char → Bool} {b : List Char}

theorem dropTailWhile_append (cs : List Char) (hb : ∀ c ∈ b, p c = true) :
    dropTailWhile p (cs ++ b) = dropTailWhile p cs := by
  rw [dropTailWhile, List.reverse_append, List.dropWhile_append_of_pos]
  · rfl
  · exact fun c hc => hb c (List.mem_reverse.1 hc)

theorem strip_of_all (hb : ∀ c ∈ b, p c = true) : strip p b = [] := by
  rw [strip, List.dropWhile_eq_nil_iff.2 hb]
  rfl

theorem mem_of_mem_strip {c : Char} (h : c ∈ strip p cs) : c ∈ cs := by
  have hhead := (List.dropWhile_sublist p).mem (List.mem_reverse.1 h)
  exact (List.dropWhile_sublist p).mem (List.mem_reverse.1 hhead)

theorem strip_append (cs : List Char) (hb : ∀ c ∈ b, p c = true) :
    strip p (cs ++ b) = strip p cs := by
  rw [strip, strip, List.dropWhile_append]
  split
  · next hempty =>
    rw [List.isEmpty_iff.1 hempty, List.dropWhile_eq_nil_iff.2 hb]
  · exact dropTailWhile_append _ hb

theorem strip_prepend (cs : List Char) (hb : ∀ c ∈ b, p c = true) :
    strip p (b ++ cs) = strip p cs := by
  rw [strip, List.dropWhile_append_of_pos hb, strip]

/-- What stands for each character is skipped with it. -/
theorem dropWhile_flatMap {g : Char → List Char} (hskip : ∀ c, p c = true → ∀ a ∈ g c, p a = true)
    (hkeep : ∀ c, p c = false → g c = [c]) (cs : List Char) :
    (cs.flatMap g).dropWhile p = (cs.dropWhile p).flatMap g := by
  induction cs with
  | nil => rfl
  | cons c cs ih =>
    rw [List.flatMap_cons]
    cases hc : p c with
    | true =>
      rw [List.dropWhile_append_of_pos (hskip c hc), ih, List.dropWhile_cons_of_pos hc]
    | false =>
      have hc' : ¬p c = true := by simp [hc]
      rw [hkeep c hc, List.dropWhile_cons_of_neg hc', List.flatMap_cons, hkeep c hc]
      exact List.dropWhile_cons_of_neg hc'

end Strip

theorem isBlank_of_mem_returned {c : Char} (hc : isBlank c = true) :
    ∀ a ∈ returned c, isBlank a = true := by
  rw [returned]
  split
  · exact List.all_eq_true.1 (by decide)
  · exact fun a ha => List.mem_singleton.1 ha ▸ hc

theorem returned_of_not_isBlank {c : Char} (hc : isBlank c = false) : returned c = [c] := by
  rw [returned, if_neg]
  rintro rfl
  exact absurd hc (by decide)

theorem strip_withReturns (cs : List Char) :
    strip isBlank (withReturns cs) = withReturns (strip isBlank cs) := by
  -- Seen from the end, a newline stands for itself and a carriage return after it.
  have htail (cs : List Char) :
      dropTailWhile isBlank (withReturns cs) = withReturns (dropTailWhile isBlank cs) := by
    rw [dropTailWhile, withReturns, List.reverse_flatMap, dropWhile_flatMap]
    · rw [List.reverse_flatMap, withReturns, dropTailWhile]
      simp only [Function.comp_def, List.reverse_reverse]
    · exact fun c hc a ha => isBlank_of_mem_returned hc a (List.mem_reverse.1 ha)
    · intro c hc
      rw [Function.comp_apply, returned_of_not_isBlank hc]
      rfl
  rw [strip, withReturns, dropWhile_flatMap (fun _ => isBlank_of_mem_returned)
    fun _ => returned_of_not_isBlank]
  exact htail _

/-- The second text is the first one, or the first one without carriage returns has got one before
each newline. -/
inductive Relined (s : String) : String → Prop
  | same : Relined s s
  | returns (h : '\r' ∉ s.toList) : Relined s (String.ofList (withReturns s.toList))

theorem Relined.lines_strip {s s' : String} (h : Relined s s') :
    lines (strip isBlank s'.toList) = lines (strip isBlank s.toList) := by
  cases h with
  | same => rfl
  | returns hno =>
    rw [String.toList_ofList, strip_withReturns, lines_withReturns]
    exact fun hmem => hno (mem_of_mem_strip hmem)

theorem Relined.sourceLines_eq {s s' : String} (h : Relined s s') :
    sourceLines s'.toList = sourceLines s.toList := by
  cases h with
  | same => rfl
  | returns hno => rw [String.toList_ofList, sourceLines_withReturns hno]

end ErrorGuide.Text
