import ErrorGuide.Json.Reader
import ErrorGuide.Json.Printer

/-! Strings read back from between their quotes, character by character. -/

namespace ErrorGuide.Json
open Text
variable {c e : Char} (cs : List Char)

theorem hexValue?_hexDigit {d : Nat} (h : d < 16) : hexValue? (hexDigit d) = some d := by
  have hall : ∀ d < 16, hexValue? (hexDigit d) = some d := by decide
  exact hall d h

/-- A character is written in one of three ways. -/
theorem escapeChar_cases (c : Char) :
    (∃ e, shortEscape? e = some c ∧ escapeChar c = ['\\', e]) ∨
    (c.toNat < 0x20 ∧ escapeChar c =
      ['\\', 'u', '0', '0', hexDigit (c.toNat / 16), hexDigit (c.toNat % 16)]) ∨
    (c ≠ '"' ∧ c ≠ '\\' ∧ 0x20 ≤ c.toNat ∧ escapeChar c = [c]) := by
  by_cases hshort : c ∈ ['"', '\\', '\x08', '\x0c', '\n', '\r', '\t']
  · left
    simp only [List.mem_cons, List.not_mem_nil, or_false] at hshort
    obtain rfl | rfl | rfl | rfl | rfl | rfl | rfl := hshort <;> exact ⟨_, rfl, rfl⟩
  · right
    simp only [List.mem_cons, List.not_mem_nil, or_false, not_or] at hshort
    obtain ⟨hquote, hslash, hb, hf, hn, hr, ht⟩ := hshort
    by_cases hlow : c.toNat < 0x20
    · refine .inl ⟨hlow, ?_⟩
      simp only [escapeChar, hquote, hslash, hb, hf, hn, hr, ht, hlow, if_false, if_true]
    · refine .inr ⟨hquote, hslash, Nat.not_lt.1 hlow, ?_⟩
      simp only [escapeChar, hquote, hslash, hb, hf, hn, hr, ht, hlow, if_false]

theorem readString_short (h : shortEscape? e = some c) :
    readString none ('\\' :: e :: cs) = (readString none cs).push c := by
  have hu : e ≠ 'u' := by
    rintro rfl
    cases h
  rw [readString, h]
  · rfl
  · simp [hu]
  · simp [hu]

theorem readString_unit (h : c.toNat < 0x20) :
    readString none ('\\' :: 'u' :: '0' :: '0' :: hexDigit (c.toNat / 16) ::
      hexDigit (c.toNat % 16) :: cs) = (readString none cs).push c := by
  have hhigh := hexValue?_hexDigit (d := c.toNat / 16) (by omega)
  have hlow := hexValue?_hexDigit (d := c.toNat % 16) (by omega)
  have hzero : hexValue? '0' = some 0 := rfl
  have hnum : hexNumeral? 0 ['0', '0', hexDigit (c.toNat / 16), hexDigit (c.toNat % 16)] =
      some c.toNat := by
    simp only [hexNumeral?, hhigh, hlow, hzero]
    exact congrArg some (by omega)
  have hlead : isLeading c.toNat = false := by simp [isLeading]; omega
  have htrail : isTrailing c.toNat = false := by simp [isTrailing]; omega
  rw [readString.eq_def none ('\\' :: _)]
  simp only [hnum, hlead, htrail, Bool.false_eq_true, if_false, Char.ofNat_toNat]

theorem readString_plain (hquote : c ≠ '"') (hslash : c ≠ '\\') (hlow : 0x20 ≤ c.toNat) :
    readString none (c :: cs) = (readString none cs).push c := by
  have hnot : ¬c.toNat < 0x20 := Nat.not_lt.2 hlow
  rw [readString, if_neg hnot]
  · rfl
  all_goals simp [hquote, hslash]

theorem readString_escapeChar (c : Char) :
    readString none (escapeChar c ++ cs) = (readString none cs).push c := by
  obtain ⟨e, he, h⟩ | ⟨hlow, h⟩ | ⟨hquote, hslash, hlow, h⟩ := escapeChar_cases c
  · rw [h]
    exact readString_short cs he
  · rw [h]
    exact readString_unit cs hlow
  · rw [h]
    exact readString_plain cs hquote hslash hlow

/-- A quoted text reads as the text, and what follows the quotes is left. -/
theorem readString_quoted (s : List Char) :
    readString none (s.flatMap escapeChar ++ '"' :: cs) = ⟨.ok s, .ok cs⟩ := by
  induction s with
  | nil => simp [readString, StringRead.after]
  | cons c s ih =>
    rw [List.flatMap_cons, List.append_assoc, readString_escapeChar, ih]
    rfl

theorem readStringValue_quoted (s : String) :
    readStringValue (s.toList.flatMap escapeChar ++ '"' :: cs) = ⟨.str (.ok s), some cs⟩ := by
  rw [readStringValue, readString_quoted]
  exact congrArg (fun s => Read.mk (Doc.str (.ok s)) (some cs)) String.ofList_toList

end ErrorGuide.Json
