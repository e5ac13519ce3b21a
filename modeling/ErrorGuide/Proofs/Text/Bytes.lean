import Mathlib.Data.String.Basic

/-! The order of texts by their bytes. It is the order by their characters: of two characters the greater
one has the greater bytes, and the bytes of neither start those of the other. -/

namespace ErrorGuide.Text

def bytes (s : String) : List UInt8 := s.toUTF8.data.toList

theorem bytes_eq (s : String) : bytes s = s.toList.flatMap String.utf8EncodeChar := by
  have hbytes : s.toUTF8 = s.toList.utf8Encode := by
    rw [← String.toByteArray_ofList, String.ofList_toList]
    rfl
  rw [bytes, hbytes, List.utf8Encode, List.toList_data_toByteArray]

/-- The first bytes come before the second ones, whatever follows both. -/
def Before (u v : List UInt8) : Prop := ∀ s t, u ++ s < v ++ t

theorem before_of_head {x y : UInt8} (h : x < y) (u v : List UInt8) : Before (x :: u) (y :: v) :=
  fun _ _ => List.cons_lt_cons_iff.2 (.inl h)

theorem ofNat_lt_ofNat {m n : Nat} (h : m < n) (hn : n < 256) : UInt8.ofNat m < UInt8.ofNat n := by
  rw [UInt8.lt_iff_toNat_lt, UInt8.toNat_ofNat', UInt8.toNat_ofNat']
  omega

def continuation (n : Nat) : UInt8 := UInt8.ofNat (n % 64 + 128)

/-- Two numbers differ in their last six bits or before them. -/
theorem before_concat {m n : Nat} {u v : List UInt8} (h : m < n)
    (hdiffer : m / 64 < n / 64 → Before u v) (hsame : m / 64 = n / 64 → u = v) :
    Before (u ++ [continuation m]) (v ++ [continuation n]) := by
  intro s t
  rw [List.append_assoc, List.append_assoc]
  rcases Nat.lt_or_eq_of_le (Nat.div_le_div_right h.le) with hlt | heq
  · exact hdiffer hlt _ _
  · rw [hsame heq]
    exact List.append_left_lt (before_of_head (ofNat_lt_ofNat (by omega) (by omega)) [] [] s t)

def continuations : Nat → Nat → List UInt8
  | 0, _ => []
  | count + 1, n => continuations count (n / 64) ++ [continuation n]

/-- Of two numbers with as many groups the greater one has the greater bytes, if the bytes before these
are in the order of what the groups leave. -/
theorem before_continuations (count : Nat) {m n : Nat} {u v : List UInt8} (h : m < n)
    (hdiffer : m / 64 ^ count < n / 64 ^ count → Before u v)
    (hsame : m / 64 ^ count = n / 64 ^ count → u = v) :
    Before (u ++ continuations count m) (v ++ continuations count n) := by
  induction count generalizing m n with
  | zero =>
    rw [pow_zero, Nat.div_one, Nat.div_one] at hdiffer
    rw [continuations, continuations, List.append_nil, List.append_nil]
    exact hdiffer h
  | succ count ih =>
    have hdiv (k : Nat) : k / 64 ^ (count + 1) = k / 64 / 64 ^ count := by
      rw [pow_succ', Nat.div_div_eq_div_mul]
    rw [hdiv, hdiv] at hdiffer hsame
    rw [continuations, continuations, ← List.append_assoc, ← List.append_assoc]
    refine before_concat h (fun hlt => ih hlt hdiffer hsame) fun heq => ?_
    rw [heq] at hsame ⊢
    rw [hsame rfl]

/-- The byte before these has the other bits. -/
theorem before_encoded (count : Nat) (first : Nat → UInt8) {m n : Nat} (h : m < n)
    (hfirst : m / 64 ^ count < n / 64 ^ count → first (m / 64 ^ count) < first (n / 64 ^ count)) :
    Before (first (m / 64 ^ count) :: continuations count m)
      (first (n / 64 ^ count) :: continuations count n) :=
  before_continuations count (u := [_]) (v := [_]) h
    (fun hlt => before_of_head (hfirst hlt) [] []) fun heq => by rw [heq]

/-- The first byte tells how many there are, more for greater numbers, and with as many the numbers
differ in some six bits. -/
theorem before_utf8EncodeChar {c d : Char} (h : c < d) :
    Before (String.utf8EncodeChar c) (String.utf8EncodeChar d) := by
  have hlt : c.val.toNat < d.val.toNat := h
  have hbound : d.val.toNat < 1114112 := by
    rcases d.valid with hlow | ⟨-, hhigh⟩
    · omega
    · exact hhigh
  rw [String.utf8EncodeChar, String.utf8EncodeChar]
  generalize c.val.toNat = m at hlt
  generalize d.val.toNat = n at hlt hbound
  by_cases hn : n ≤ 127
  · rw [if_pos hn, if_pos (hlt.le.trans hn)]
    exact before_of_head (ofNat_lt_ofNat hlt (by omega)) [] []
  rw [if_neg hn]
  by_cases hm : m ≤ 127
  · rw [if_pos hm]
    split_ifs <;> exact before_of_head (ofNat_lt_ofNat (by omega) (by omega)) _ _
  rw [if_neg hm]
  by_cases hn : n ≤ 2047
  · rw [if_pos hn, if_pos (hlt.le.trans hn)]
    exact before_encoded 1 (fun k => UInt8.ofNat (k % 32 + 192)) hlt fun hfirst =>
      ofNat_lt_ofNat (by omega) (by omega)
  rw [if_neg hn]
  by_cases hm : m ≤ 2047
  · rw [if_pos hm]
    split_ifs <;> exact before_of_head (ofNat_lt_ofNat (by omega) (by omega)) _ _
  rw [if_neg hm]
  by_cases hn : n ≤ 65535
  · rw [if_pos hn, if_pos (hlt.le.trans hn)]
    exact before_encoded 2 (fun k => UInt8.ofNat (k % 16 + 224)) hlt fun hfirst =>
      ofNat_lt_ofNat (by omega) (by omega)
  rw [if_neg hn]
  by_cases hm : m ≤ 65535
  · rw [if_pos hm]
    exact before_of_head (ofNat_lt_ofNat (by omega) (by omega)) _ _
  rw [if_neg hm]
  have hdiv (k : Nat) : k / 4096 = k / 64 / 64 := (Nat.div_div_eq_div_mul k 64 64).symm
  rw [hdiv, hdiv]
  exact before_encoded 3 (fun k => UInt8.ofNat (k % 8 + 240)) hlt fun hfirst =>
    ofNat_lt_ofNat (by omega) (by omega)

theorem flatMap_utf8EncodeChar_lt {cs ds : List Char} (h : cs < ds) :
    cs.flatMap String.utf8EncodeChar < ds.flatMap String.utf8EncodeChar := by
  induction cs generalizing ds with
  | nil =>
    cases ds with
    | nil => exact absurd h (List.lt_irrefl _)
    | cons d ds =>
      have hpos : 0 < (String.utf8EncodeChar d).length :=
        String.length_utf8EncodeChar d ▸ d.utf8Size_pos
      obtain ⟨x, u, hu⟩ := List.exists_cons_of_length_pos hpos
      rw [List.flatMap_cons, hu]
      exact List.nil_lt_cons _ _
  | cons c cs ih =>
    cases ds with
    | nil => exact absurd h (List.not_lt_nil _)
    | cons d ds =>
      rw [List.flatMap_cons, List.flatMap_cons]
      rcases List.cons_lt_cons_iff.1 h with hlt | ⟨rfl, hlt⟩
      · exact before_utf8EncodeChar hlt _ _
      · exact List.append_left_lt (ih hlt)

theorem bytes_lt {a b : String} (h : a < b) : bytes a < bytes b := by
  rw [bytes_eq, bytes_eq]
  exact flatMap_utf8EncodeChar_lt h

/-- Texts are in order just if their bytes are. -/
theorem bytes_le_iff {a b : String} : bytes a ≤ bytes b ↔ a ≤ b := by
  constructor
  · intro h
    exact String.not_lt.1 fun hlt => h (bytes_lt hlt)
  · intro h hlt
    by_cases hle : b ≤ a
    · rw [String.le_antisymm h hle] at hlt
      exact List.lt_irrefl _ hlt
    · exact List.lt_asymm (bytes_lt (String.not_le.1 hle)) hlt

end ErrorGuide.Text
