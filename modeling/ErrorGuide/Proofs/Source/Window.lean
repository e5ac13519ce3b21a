import ErrorGuide.Proofs.Source.Lines
import ErrorGuide.Proofs.Text.Pieces

/-! Which lines of a source a window shows. The window of a line that the source has is one slice of the
source. Of a line right behind the source it still shows the last lines before it. -/

namespace ErrorGuide.Source
open Text

variable {code : String} {lines : List (List Char)} {n : Nat}

theorem linesOf_eq_iff : linesOf code = lines ↔ IsSource code.toList lines := sourceLines_eq_iff

theorem codeLine_windowAt (lines : List (List Char)) (n : Nat) :
    (windowAt lines n).codeLine = lineAt? lines n := by
  cases n with
  | zero => rfl
  | succ n => rfl

theorem codeLine_window (code : String) (line : UInt32) :
    (window code line).codeLine = codeLine code line :=
  codeLine_windowAt (linesOf code) line.toNat

theorem lineAt?_eq_none_iff : lineAt? lines n = none ↔ n = 0 ∨ lines.length < n := by
  cases n with
  | zero => exact iff_of_true rfl (.inl rfl)
  | succ n =>
    rw [lineAt?, Option.map_eq_none_iff, List.getElem?_eq_none_iff]
    omega

/-- A line of code has no white space at its ends and is one line. -/
theorem codeLine_normal {line : UInt32} {text : String} (h : codeLine code line = some text) :
    Trimmed text.toList ∧ '\n' ∉ text.toList := by
  obtain ⟨-, -, source, hsource, rfl⟩ := codeLine_eq_some_iff.1 h
  rw [trim, String.toList_ofList, String.toList_ofList]
  refine ⟨trimmed_strip source, fun hmem => ?_⟩
  exact unbroken_of_mem_sourceLines (List.mem_of_getElem? hsource) (mem_of_mem_strip hmem)

/-- The window shows line number `n`, trimmed, and as they are the lines next to it, up to two on each
side. All of these follow each other in the source. -/
def Window.Shows (w : Window) (lines : List (List Char)) (n : Nat) : Prop :=
  ∃ earlier before line after later,
    lines = earlier ++ (before ++ line :: after) ++ later ∧
    earlier.length + before.length + 1 = n ∧
    before.length = min 2 (n - 1) ∧ after.length = min 2 (lines.length - n) ∧
    w = ⟨some (trim (String.ofList line)), before.map String.ofList, after.map String.ofList⟩

theorem shows_windowAt (hpos : 1 ≤ n) (hn : n ≤ lines.length) : (windowAt lines n).Shows lines n := by
  obtain ⟨k, rfl⟩ : ∃ k, n = k + 1 := ⟨n - 1, by omega⟩
  have hline : lines[k]? = some lines[k] := List.getElem?_eq_getElem hn
  have hbefore : lines.take k = lines.take (k - 2) ++ (lines.take k).drop (k - 2) := by
    have hsplit := List.take_append_drop (k - 2) (lines.take k)
    rw [List.take_take, Nat.min_eq_left (Nat.sub_le k 2)] at hsplit
    exact hsplit.symm
  have hafter : lines.drop k = lines[k] :: ((lines.drop (k + 1)).take 2 ++
      (lines.drop (k + 1)).drop 2) := by
    rw [List.take_append_drop]
    exact List.drop_eq_getElem_cons hn
  refine ⟨lines.take (k - 2), (lines.take k).drop (k - 2), lines[k], (lines.drop (k + 1)).take 2,
    (lines.drop (k + 1)).drop 2, ?_, ?_, ?_, ?_, ?_⟩
  · calc lines = lines.take k ++ lines.drop k := (List.take_append_drop k lines).symm
      _ = _ := by
        rw [hafter]
        conv_lhs => rw [hbefore]
        simp only [List.append_assoc, List.cons_append]
  · simp only [List.length_take, List.length_drop]
    omega
  · simp only [List.length_take, List.length_drop]
    omega
  · rw [List.length_take, List.length_drop]
  · rw [windowAt, lineAt?, hline, Option.map_some, trim, String.toList_ofList]
    rfl

/-- The window shows no line, and of the last lines of the source those that are up to two before the
place with number `n`, which is behind the source. -/
def Window.Overhangs (w : Window) (lines : List (List Char)) (n : Nat) : Prop :=
  ∃ earlier late, lines = earlier ++ late ∧
    late.length = min lines.length (lines.length + 3 - n) ∧ w = ⟨none, late.map String.ofList, []⟩

theorem overhangs_windowAt (h : lines.length < n) : (windowAt lines n).Overhangs lines n := by
  obtain ⟨k, rfl⟩ : ∃ k, n = k + 1 := ⟨n - 1, by omega⟩
  have hline : lineAt? lines (k + 1) = none := lineAt?_eq_none_iff.2 (.inr h)
  have htake : lines.take k = lines := List.take_of_length_le (by omega)
  have hdrop : lines.drop (k + 1) = [] := List.drop_of_length_le (by omega)
  refine ⟨lines.take (k - 2), lines.drop (k - 2), (List.take_append_drop _ _).symm, ?_, ?_⟩
  · rw [List.length_drop]
    omega
  · rw [windowAt, hline, htake, hdrop]
    rfl

theorem Window.Overhangs.eq_empty_iff {w : Window} (h : w.Overhangs lines n) (hlines : lines ≠ []) :
    w = {} ↔ lines.length + 2 < n := by
  obtain ⟨earlier, late, -, hlate, rfl⟩ := h
  have hpos := List.length_pos_iff.2 hlines
  rw [Window.mk.injEq, List.map_eq_nil_iff, ← List.length_eq_zero_iff, hlate]
  simp only [true_and, and_true]
  omega

section Outside
variable {n : UInt32}

def IsRightBehind (code : String) (n : UInt32) : Prop :=
  ∃ lines, IsSource code.toList lines ∧ lines.length < n.toNat ∧ n.toNat ≤ lines.length + 2

theorem codeLine_eq_none_iff (hlines : IsSource code.toList lines) :
    codeLine code n = none ↔ n = 0 ∨ lines.length < n.toNat := by
  rw [codeLine, linesOf_eq_iff.2 hlines, lineAt?_eq_none_iff, ← UInt32.toNat_inj]
  rfl

theorem overhangs_window (hlines : IsSource code.toList lines) (hn : lines.length < n.toNat) :
    (window code n).Overhangs lines n.toNat := by
  rw [window, linesOf_eq_iff.2 hlines]
  exact overhangs_windowAt hn

theorem isRightBehind_iff (hlines : IsSource code.toList lines) :
    IsRightBehind code n ↔ lines.length < n.toNat ∧ n.toNat ≤ lines.length + 2 := by
  constructor
  · intro h
    obtain ⟨other, hother, hn⟩ := h
    rw [← linesOf_eq_iff.2 hlines, linesOf_eq_iff.2 hother]
    exact hn
  · exact fun hn => ⟨lines, hlines, hn⟩

/-- Outside the source there is nothing to show but behind the last line, right behind it. -/
theorem window_eq_empty_iff (hlines : IsSource code.toList lines) (hnone : codeLine code n = none) :
    window code n = {} ↔ ¬IsRightBehind code n := by
  rw [isRightBehind_iff hlines]
  rcases (codeLine_eq_none_iff hlines).1 hnone with rfl | hn
  · refine iff_of_true rfl ?_
    exact fun h => absurd h.1 (Nat.not_lt_zero _)
  · rw [(overhangs_window hlines hn).eq_empty_iff hlines.ne_nil]
    omega

theorem after_eq_nil (hnone : codeLine code n = none) : (window code n).after = [] := by
  have hlines := isSource_sourceLines code.toList
  rcases (codeLine_eq_none_iff hlines).1 hnone with rfl | hn
  · rfl
  · obtain ⟨_, _, -, -, hwindow⟩ := overhangs_window hlines hn
    rw [hwindow]

end Outside

end ErrorGuide.Source
