import ErrorGuide.Proofs.Text.Scan
import ErrorGuide.Text.Decimal
import Mathlib.Data.Nat.Digits.Defs

/-! Numbers as they are read off a text. Digits have a number just if all of them are ASCII digits
and their value fits; it never wraps around. -/

namespace ErrorGuide.Text

def decimalValue (digits : List Char) : Nat :=
  Nat.ofDigits 10 (digits.reverse.map fun c => c.toNat - '0'.toNat)

theorem decimalValue_cons (c : Char) (digits : List Char) :
    decimalValue (c :: digits) =
      (c.toNat - '0'.toNat) * 10 ^ digits.length + decimalValue digits := by
  rw [decimalValue, List.reverse_cons, List.map_append, Nat.ofDigits_append, List.map_singleton,
    Nat.ofDigits_singleton, List.length_map, List.length_reverse, decimalValue]
  ring

theorem digitValue?_of_isAsciiDigit {c : Char} (h : isAsciiDigit c = true) :
    digitValue? c = some (c.toNat - '0'.toNat) := by
  rw [isAsciiDigit, Bool.and_eq_true, decide_eq_true_eq, decide_eq_true_eq] at h
  exact if_pos h

theorem digitValue?_of_not_isAsciiDigit {c : Char} (h : ¬isAsciiDigit c = true) :
    digitValue? c = none := by
  rw [isAsciiDigit, Bool.and_eq_true, decide_eq_true_eq, decide_eq_true_eq] at h
  exact if_neg h

theorem digitsValue?_eq_some_iff {digits : List Char} {acc n : Nat} :
    digitsValue? acc digits = some n ↔ (∀ c ∈ digits, isAsciiDigit c = true) ∧
      acc * 10 ^ digits.length + decimalValue digits = n := by
  induction digits generalizing acc with
  | nil => simp [digitsValue?, decimalValue]
  | cons c digits ih =>
    by_cases hc : isAsciiDigit c = true
    · have hvalue : acc * 10 ^ (c :: digits).length + decimalValue (c :: digits) =
          (10 * acc + (c.toNat - '0'.toNat)) * 10 ^ digits.length + decimalValue digits := by
        rw [decimalValue_cons, List.length_cons]
        ring
      rw [digitsValue?, digitValue?_of_isAsciiDigit hc, hvalue, List.forall_mem_cons]
      dsimp only
      rw [ih]
      exact and_congr_left fun _ => (and_iff_right hc).symm
    · rw [digitsValue?, digitValue?_of_not_isAsciiDigit hc, List.forall_mem_cons]
      simp [hc]

theorem numeral?_eq_some_iff {bound n : Nat} {digits : List Char} :
    numeral? bound digits = some n ↔
      IsRun isAsciiDigit digits ∧ decimalValue digits = n ∧ n < bound := by
  by_cases hnil : digits = []
  · have hrun : ¬IsRun isAsciiDigit digits := fun h => h.nonempty hnil
    simp [numeral?, hnil] at hrun ⊢
    exact fun h => absurd h hrun
  · rw [numeral?, if_neg hnil, Option.filter_eq_some_iff, digitsValue?_eq_some_iff, Nat.zero_mul,
      Nat.zero_add, decide_eq_true_eq]
    constructor
    · intro h
      exact ⟨⟨hnil, h.1.1⟩, h.1.2, h.2⟩
    · intro h
      exact ⟨⟨h.1.all, h.2.1⟩, h.2.2⟩

def unsigned : List Char → List Char
  | '+' :: digits => digits
  | digits => digits

theorem unsigned_of_head {text : List Char} (h : text.head? ≠ some '+') : unsigned text = text := by
  rw [unsigned]
  intro digits hdigits
  exact h (hdigits ▸ rfl)

theorem signedNumeral?_eq (bound : Nat) (text : List Char) :
    signedNumeral? bound text = numeral? bound (unsigned text) := by
  by_cases h : text.head? = some '+'
  · obtain ⟨digits, rfl⟩ := List.head?_eq_some_iff.1 h
    rfl
  · rw [unsigned_of_head h, signedNumeral?]
    intro digits hdigits
    exact h (hdigits ▸ rfl)

/-- The digits tell the number `n`: their value, if all of them are ASCII digits and it is at most
`4294967295`, and no number otherwise. -/
structure TellNumber (digits : List Char) (n : Option UInt32) : Prop where
  some_iff : ∀ m, n = some m ↔ IsRun isAsciiDigit digits ∧ decimalValue digits = m.toNat
  none_iff : n = none ↔ ¬(IsRun isAsciiDigit digits ∧ decimalValue digits ≤ 4294967295)

theorem tellNumber_word32? (text : List Char) : TellNumber (unsigned text) (word32? text) := by
  have hsome : ∀ m : UInt32, word32? text = some m ↔
      IsRun isAsciiDigit (unsigned text) ∧ decimalValue (unsigned text) = m.toNat := by
    intro m
    rw [word32?, signedNumeral?_eq, Option.map_eq_some_iff]
    constructor
    · intro h
      obtain ⟨n, hn, rfl⟩ := h
      obtain ⟨hrun, hvalue, hlt⟩ := numeral?_eq_some_iff.1 hn
      exact ⟨hrun, hvalue.trans (UInt32.toNat_ofNat_of_lt' hlt).symm⟩
    · intro h
      exact ⟨m.toNat, numeral?_eq_some_iff.2 ⟨h.1, h.2, m.toNat_lt⟩, UInt32.ofNat_toNat⟩
  refine ⟨hsome, ?_⟩
  rw [Option.eq_none_iff_forall_ne_some]
  constructor
  · intro hnone h
    have hlt : decimalValue (unsigned text) < UInt32.size := Nat.lt_succ_of_le h.2
    have htoNat := UInt32.toNat_ofNat_of_lt' hlt
    exact hnone _ ((hsome _).2 ⟨h.1, htoNat.symm⟩)
  · intro hno m hm
    obtain ⟨hrun, hvalue⟩ := (hsome m).1 hm
    have hlt := m.toNat_lt
    exact hno ⟨hrun, by omega⟩

end ErrorGuide.Text
