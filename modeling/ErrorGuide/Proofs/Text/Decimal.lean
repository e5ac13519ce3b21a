import ErrorGuide.Text.Decimal

/-! Numerals are written in digits alone and read back, so different numbers are written
differently. -/

namespace ErrorGuide.Text

theorem digitValue?_digitChar {d : Nat} (h : d < 10) : digitValue? (digitChar d) = some d := by
  have hall : ∀ d < 10, digitValue? (digitChar d) = some d := by decide
  exact hall d h

theorem isAsciiDigit_digitChar {d : Nat} (h : d < 10) : isAsciiDigit (digitChar d) = true := by
  have hall : ∀ d < 10, isAsciiDigit (digitChar d) = true := by decide
  exact hall d h

theorem isAsciiDigit_of_mem_decimal {n : Nat} : ∀ c ∈ decimal n, isAsciiDigit c = true := by
  fun_induction decimal n with
  | case1 n h => exact List.forall_mem_singleton.2 (isAsciiDigit_digitChar h)
  | case2 n h ih =>
    have hlast := isAsciiDigit_digitChar (Nat.mod_lt n (by decide : 0 < 10))
    exact List.forall_mem_append.2 ⟨ih, List.forall_mem_singleton.2 hlast⟩

/-- Reading the numeral of a number leaves that number for what follows. -/
theorem digitsValue?_decimal_append (n : Nat) (cs : List Char) :
    digitsValue? 0 (decimal n ++ cs) = digitsValue? n cs := by
  fun_induction decimal n generalizing cs with
  | case1 n h => simp [digitsValue?, digitValue?_digitChar h]
  | case2 n h ih =>
    have hlast := digitValue?_digitChar (Nat.mod_lt n (by decide : 0 < 10))
    rw [List.append_assoc, ih, List.singleton_append, digitsValue?, hlast]
    exact congrArg (digitsValue? · cs) (Nat.div_add_mod n 10)

theorem decimal_injective {m n : Nat} (h : decimal m = decimal n) : m = n := by
  have hm := digitsValue?_decimal_append m []
  rw [h, digitsValue?_decimal_append] at hm
  exact (Option.some.inj hm).symm

theorem decimal_ne_nil (n : Nat) : decimal n ≠ [] := by
  fun_induction decimal n <;> simp

theorem numeral?_decimal {n bound : Nat} (h : n < bound) : numeral? bound (decimal n) = some n := by
  have hvalue : digitsValue? 0 (decimal n) = some n := by
    simpa [digitsValue?] using digitsValue?_decimal_append n []
  simp [numeral?, decimal_ne_nil, hvalue, h]

theorem signedNumeral?_decimal {n bound : Nat} (h : n < bound) :
    signedNumeral? bound (decimal n) = some n := by
  rw [signedNumeral?]
  · exact numeral?_decimal h
  · intro cs hcs
    have hplus : isAsciiDigit '+' = true :=
      isAsciiDigit_of_mem_decimal '+' (hcs ▸ List.mem_cons_self)
    cases hplus

end ErrorGuide.Text
