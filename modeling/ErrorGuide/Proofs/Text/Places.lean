import ErrorGuide.Proofs.Text.Scan

/-! How often a scanner succeeds in a text. Of phrases that start with a certain character and look at
nothing from the next such character on, the ones around a replacement stay what they are, as long as
the new text starts with that character as well. -/

namespace ErrorGuide.Text
open Unicode

variable {α : Type} {f : Scanner α} {x : Char}

def countFrom (f : Scanner α) (prev : Option Char) : List Char → Nat
  | [] => (f prev []).isSome.toNat
  | c :: cs => (f prev (c :: cs)).isSome.toNat + countFrom f (some c) cs

def count (f : Scanner α) (cs : List Char) : Nat := countFrom f none cs

theorem countFrom_eq_zero_iff {prev : Option Char} {cs : List Char} :
    countFrom f prev cs = 0 ↔ leftmostFrom f prev cs = none := by
  induction cs generalizing prev with
  | nil =>
    rw [countFrom, leftmostFrom, Option.map_eq_none_iff]
    cases f prev [] <;> simp
  | cons c cs ih =>
    rw [countFrom, leftmostFrom]
    cases f prev (c :: cs) with
    | none => simp [ih]
    | some found => simp

theorem count_eq_zero_iff {cs : List Char} : count f cs = 0 ↔ leftmost f cs = none :=
  countFrom_eq_zero_iff

/-- The scanner reads a phrase that starts with `x`, whatever stands before it. A further `x` ends
what it looks at. -/
structure StartsWith (f : Scanner α) (x : Char) : Prop where
  anywhere : ∀ prev cs, f prev cs = f none cs
  head : ∀ cs, (f none cs).isSome = true → cs.head? = some x
  ahead : ∀ u w, (f none (x :: (u ++ x :: w))).isSome = (f none (x :: u)).isSome

namespace StartsWith
variable (hf : StartsWith f x)
include hf

theorem count_cons (c : Char) (cs : List Char) :
    count f (c :: cs) = (f none (c :: cs)).isSome.toNat + count f cs := by
  rw [count, countFrom]
  cases cs with
  | nil => rw [count, countFrom, countFrom, hf.anywhere (some c)]
  | cons d cs => rw [count, countFrom, countFrom, hf.anywhere (some c)]

theorem eq_none {cs : List Char} (h : cs.head? ≠ some x) : f none cs = none := by
  cases hread : f none cs with
  | none => rfl
  | some found => exact absurd (hf.head cs (by rw [hread]; rfl)) h

theorem count_nil : count f [] = 0 := by
  rw [count, countFrom, hf.eq_none (by simp)]
  rfl

/-- A part without `x` has no phrase that starts in it. -/
theorem count_append {u : List Char} (hu : x ∉ u) (v : List Char) :
    count f (u ++ v) = count f v := by
  induction u with
  | nil => rfl
  | cons c u ih =>
    have hc : c ≠ x := fun hcx => hu (hcx ▸ List.mem_cons_self)
    have hrest : x ∉ u := fun hxu => hu (List.mem_cons_of_mem c hxu)
    have hnone : f none (c :: (u ++ v)) = none :=
      hf.eq_none fun hhead => hc (Option.some.inj hhead)
    rw [List.cons_append, hf.count_cons, hnone, ih hrest]
    exact Nat.zero_add _

/-- What starts before an `x` is what starts there without the rest. -/
theorem count_append_cons (u w : List Char) :
    count f (u ++ x :: w) = count f u + count f (x :: w) := by
  induction u with
  | nil => rw [List.nil_append, hf.count_nil, Nat.zero_add]
  | cons c u ih =>
    have hhere : (f none (c :: (u ++ x :: w))).isSome = (f none (c :: u)).isSome := by
      by_cases hc : c = x
      · rw [hc]
        exact hf.ahead u w
      · have hhead (cs : List Char) : (c :: cs).head? ≠ some x := fun h => hc (Option.some.inj h)
        rw [hf.eq_none (hhead _), hf.eq_none (hhead _)]
    rw [List.cons_append, hf.count_cons, hhere, ih, hf.count_cons c u, Nat.add_assoc]

/-- A phrase is replaced by a text that starts with the same character and has no phrase in it: there
is one phrase less. -/
theorem count_replaced {p m new s : List Char}
    (hphrase : (f none (x :: (m ++ s))).isSome = true) (hm : x ∉ m)
    (hnone : f none (x :: (new ++ s)) = none) (hnew : x ∉ new) :
    count f (p ++ x :: (new ++ s)) + 1 = count f (p ++ x :: (m ++ s)) := by
  have hold : count f (x :: (m ++ s)) = 1 + count f s := by
    rw [hf.count_cons, hphrase, hf.count_append hm]
    rfl
  have hless : count f (x :: (new ++ s)) = count f s := by
    rw [hf.count_cons, hnone, hf.count_append hnew]
    exact Nat.zero_add _
  rw [hf.count_append_cons, hf.count_append_cons, hold, hless]
  omega

end StartsWith

/-! The parts of a scanner that looks at nothing from a character on. -/

theorem phrase_append_cons {w : List Char} (hw : ∀ a ∈ w, sameFold a x = false)
    (u v : List Char) :
    phrase w (u ++ x :: v) = (phrase w u).map (· ++ x :: v) := by
  induction w generalizing u with
  | nil => rfl
  | cons a w ih =>
    obtain ⟨ha, hrest⟩ := List.forall_mem_cons.1 hw
    cases u with
    | nil => simp [phrase, ha]
    | cons c u =>
      rw [List.cons_append, phrase, phrase]
      split
      · exact ih hrest u
      · rfl

theorem exactly_append_cons {a : Char} (ha : x ≠ a) (u v : List Char) :
    exactly a (u ++ x :: v) = (exactly a u).map (· ++ x :: v) := by
  cases u with
  | nil => simp [exactly, ha]
  | cons c u =>
    rw [List.cons_append, exactly, exactly]
    split <;> rfl

theorem dropWhile_append_cons {p : Char → Bool} (hx : p x = false) (u v : List Char) :
    (u ++ x :: v).dropWhile p = u.dropWhile p ++ x :: v := by
  induction u with
  | nil => simp [hx]
  | cons c u ih =>
    rw [List.cons_append, List.dropWhile_cons, List.dropWhile_cons, ih]
    split <;> rfl

end ErrorGuide.Text
