import ErrorGuide.Unicode.Blank
import ErrorGuide.Unicode.Fold
import ErrorGuide.Unicode.Word

/-! White space is apart from the characters of words and numbers: it has one case, and neither
letters nor digits are among it. -/

namespace ErrorGuide.Unicode

theorem Ranges.exists_of_mem {n : Nat} {ranges : Ranges} (h : ranges.mem n = true) :
    ∃ r ∈ ranges, r.1 ≤ n ∧ n ≤ r.2 := by
  induction ranges with
  | nil => cases h
  | cons r rest ih =>
    by_cases hlow : n < r.1
    · rw [mem, if_pos hlow] at h
      cases h
    · rw [mem, if_neg hlow, Bool.or_eq_true, decide_eq_true_eq] at h
      rcases h with hhigh | hrest
      · exact ⟨r, List.mem_cons_self, Nat.le_of_not_lt hlow, hhigh⟩
      · obtain ⟨s, hs, hle⟩ := ih hrest
        exact ⟨s, List.mem_cons_of_mem r hs, hle⟩

def blankCodes : List Nat := blankRanges.flatMap fun r => List.range' r.1 (r.2 + 1 - r.1)

theorem toNat_mem_blankCodes {c : Char} (h : isBlank c = true) : c.toNat ∈ blankCodes := by
  obtain ⟨r, hr, hlow, hhigh⟩ := Ranges.exists_of_mem h
  exact List.mem_flatMap.2 ⟨r, hr, List.mem_range'_1.2 (by omega)⟩

theorem fold_of_isBlank {c : Char} (h : isBlank c = true) : fold c = c := by
  have hall : ∀ n ∈ blankCodes, foldIn n foldRuns = n := by decide +kernel
  rw [fold, hall _ (toNat_mem_blankCodes h), Char.ofNat_toNat]

theorem not_isDigit_of_isBlank {c : Char} (h : isBlank c = true) : isDigit c = false := by
  have hall : ∀ n ∈ blankCodes, digitRanges.mem n = false := by decide +kernel
  exact hall _ (toNat_mem_blankCodes h)

theorem not_isWord_of_isBlank {c : Char} (h : isBlank c = true) : isWord c = false := by
  have hall : ∀ n ∈ blankCodes, wordRanges.mem n = false := by decide +kernel
  exact hall _ (toNat_mem_blankCodes h)

/-- A character with the fold of one that is not white space is none itself. -/
theorem not_isBlank_of_fold {a c : Char} (ha : isBlank (fold a) = false) (h : fold c = fold a) :
    isBlank c = false := by
  cases hc : isBlank c with
  | false => rfl
  | true =>
    rw [← h, fold_of_isBlank hc, hc] at ha
    cases ha

end ErrorGuide.Unicode
