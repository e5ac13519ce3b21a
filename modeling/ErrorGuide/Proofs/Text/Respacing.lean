import ErrorGuide.Proofs.Text.Lines
import ErrorGuide.Proofs.Text.Scan
import ErrorGuide.Proofs.Unicode.Blank
import Mathlib.Data.Option.Basic

/-! Texts that differ in white space alone: in how their lines end and in what stands around them. A
scanner that reads no white space but between other characters finds the same in both. -/

namespace ErrorGuide.Text
open Unicode

/-- Texts that differ in the carriage returns before newlines, the second one having more of them,
and in the white space at the end. -/
inductive Respaced : List Char → List Char → Prop
  | padding {b b' : List Char} (h : ∀ c ∈ b, isBlank c = true) (h' : ∀ c ∈ b', isBlank c = true) :
    Respaced b b'
  | char (c : Char) {cs cs' : List Char} (h : Respaced cs cs') : Respaced (c :: cs) (c :: cs')
  | newline {cs cs' : List Char} (h : Respaced cs cs') :
    Respaced ('\n' :: cs) ('\r' :: '\n' :: cs')

namespace Respaced
variable {b cs cs' : List Char}

theorem append_padding (cs : List Char) (hb : ∀ c ∈ b, isBlank c = true) :
    Respaced cs (cs ++ b) := by
  induction cs with
  | nil => exact .padding (List.forall_mem_nil _) hb
  | cons c cs ih => exact .char c ih

theorem withReturns_append (cs : List Char) (hb : ∀ c ∈ b, isBlank c = true) :
    Respaced cs (withReturns cs ++ b) := by
  induction cs with
  | nil => exact .padding (List.forall_mem_nil _) hb
  | cons c cs ih =>
    by_cases hc : c = '\n'
    · subst hc
      exact .newline ih
    · rw [withReturns_cons hc]
      exact .char c ih

theorem dropBlanks (h : Respaced cs cs') :
    Respaced (cs.dropWhile isBlank) (cs'.dropWhile isBlank) := by
  induction h with
  | padding h h' =>
    rw [List.dropWhile_eq_nil_iff.2 h, List.dropWhile_eq_nil_iff.2 h']
    exact .padding (List.forall_mem_nil _) (List.forall_mem_nil _)
  | char c h ih =>
    by_cases hc : isBlank c = true
    · rwa [List.dropWhile_cons_of_pos hc, List.dropWhile_cons_of_pos hc]
    · rw [List.dropWhile_cons_of_neg hc, List.dropWhile_cons_of_neg hc]
      exact .char c h
  | newline h ih => exact ih

end Respaced

/-! Readers that take no white space give the same for both texts and leave texts that differ in
white space alone again. -/

theorem rel_bind {α β γ δ : Type} {r : α → β → Prop} {s : γ → δ → Prop} {o : Option α}
    {o' : Option β} {f : α → Option γ} {f' : β → Option δ} (ho : Option.Rel r o o')
    (hf : ∀ a b, r a b → Option.Rel s (f a) (f' b)) : Option.Rel s (o.bind f) (o'.bind f') := by
  cases ho with
  | none => exact .none
  | some h => exact hf _ _ h

theorem rel_guard (p : Prop) [Decidable p] :
    Option.Rel (fun _ _ => True) (guard p : Option Unit) (guard p) := by
  by_cases hp : p
  · rw [guard, if_pos hp]
    exact .some trivial
  · rw [guard, if_neg hp]
    exact .none

def SameReading {α : Type} : Option (α × List Char) → Option (α × List Char) → Prop :=
  Option.Rel fun x y => x.1 = y.1 ∧ Respaced x.2 y.2

def Inked (p : Char → Bool) : Prop := ∀ c, isBlank c = true → p c = false

section Readers
variable {p : Char → Bool} {b cs cs' : List Char}

theorem Inked.head (hp : Inked p) (hb : ∀ c ∈ b, isBlank c = true) :
    ∀ c ∈ b.head?, p c = false := fun c hc => hp c (hb c (List.mem_of_mem_head? hc))

theorem takeWhile_respaced (hp : Inked p) (h : Respaced cs cs') :
    cs.takeWhile p = cs'.takeWhile p ∧ Respaced (cs.dropWhile p) (cs'.dropWhile p) := by
  induction h with
  | padding h h' =>
    obtain ⟨htake, hdrop⟩ := takeWhile_of_head (hp.head h)
    obtain ⟨htake', hdrop'⟩ := takeWhile_of_head (hp.head h')
    rw [htake, hdrop, htake', hdrop']
    exact ⟨rfl, .padding h h'⟩
  | char c h ih =>
    by_cases hc : p c = true
    · simp only [List.takeWhile_cons_of_pos hc, List.dropWhile_cons_of_pos hc]
      exact ⟨congrArg _ ih.1, ih.2⟩
    · simp only [List.takeWhile_cons_of_neg hc, List.dropWhile_cons_of_neg hc]
      exact ⟨trivial, .char c h⟩
  | newline h ih =>
    have hn : ¬p '\n' = true := by simp [hp '\n' (by decide)]
    have hr : ¬p '\r' = true := by simp [hp '\r' (by decide)]
    simp only [List.takeWhile_cons_of_neg hn, List.dropWhile_cons_of_neg hn,
      List.takeWhile_cons_of_neg hr, List.dropWhile_cons_of_neg hr]
    exact ⟨trivial, .newline h⟩

theorem run_respaced (hp : Inked p) (h : Respaced cs cs') :
    SameReading (run p cs) (run p cs') := by
  obtain ⟨htake, hdrop⟩ := takeWhile_respaced hp h
  rw [run, run, htake]
  split
  · exact .none
  · exact .some ⟨rfl, hdrop⟩

theorem head_respaced (hp : Inked p) (h : Respaced cs cs') :
    cs.head?.any p = cs'.head?.any p := by
  have hnone {b : List Char} (hb : ∀ c ∈ b, isBlank c = true) : b.head?.any p = false := by
    cases b with
    | nil => rfl
    | cons c b => exact hp c (hb c List.mem_cons_self)
  cases h with
  | padding h h' => rw [hnone h, hnone h']
  | char c h => rfl
  | newline h =>
    exact (hp '\n' (by decide)).trans (hp '\r' (by decide)).symm

/-- A reader that fails at white space has to be followed only where both texts go on with the same
character. -/
theorem Respaced.rel {α : Type} {s : α → α → Prop} {f : List Char → Option α}
    (hblank : ∀ cs, (∀ c ∈ cs.head?, isBlank c = true) → f cs = none)
    (hchar : ∀ c cs cs', Respaced cs cs' → Option.Rel s (f (c :: cs)) (f (c :: cs')))
    (h : Respaced cs cs') : Option.Rel s (f cs) (f cs') := by
  cases h with
  | padding h h' =>
    rw [hblank _ fun c hc => h c (List.mem_of_mem_head? hc),
      hblank _ fun c hc => h' c (List.mem_of_mem_head? hc)]
    exact .none
  | char c h => exact hchar c _ _ h
  | newline h =>
    rw [hblank ('\n' :: _) (by simp; decide), hblank ('\r' :: _) (by simp; decide)]
    exact .none

theorem phrase_of_blank {a : Char} {w : List Char} (ha : isBlank (fold a) = false)
    (hb : ∀ c ∈ cs.head?, isBlank c = true) : phrase (a :: w) cs = none := by
  cases cs with
  | nil => rfl
  | cons c cs =>
    refine if_neg fun hfold => ?_
    have hc := not_isBlank_of_fold ha (sameFold_iff.1 hfold)
    rw [hb c rfl] at hc
    cases hc

theorem phrase_respaced {w : List Char} (hw : ∀ a ∈ w, isBlank (fold a) = false)
    (h : Respaced cs cs') : Option.Rel Respaced (phrase w cs) (phrase w cs') := by
  induction w generalizing cs cs' with
  | nil => exact .some h
  | cons a w ih =>
    obtain ⟨ha, hw⟩ := List.forall_mem_cons.1 hw
    refine h.rel (fun _ => phrase_of_blank ha) fun c cs cs' h => ?_
    rw [phrase, phrase]
    split
    · exact ih hw h
    · exact .none

theorem exactly_of_blank {a : Char} (ha : isBlank a = false)
    (hb : ∀ c ∈ cs.head?, isBlank c = true) : exactly a cs = none := by
  cases cs with
  | nil => rfl
  | cons c cs =>
    refine if_neg ?_
    rintro rfl
    rw [hb c rfl] at ha
    cases ha

theorem exactly_respaced {a : Char} (ha : isBlank a = false) (h : Respaced cs cs') :
    Option.Rel Respaced (exactly a cs) (exactly a cs') := by
  refine h.rel (fun _ => exactly_of_blank ha) fun c cs cs' h => ?_
  rw [exactly, exactly]
  split
  · exact .some h
  · exact .none

theorem blanks_cons (c : Char) (cs : List Char) :
    blanks (c :: cs) = if isBlank c then some (cs.dropWhile isBlank) else none := by
  by_cases hc : isBlank c = true
  · rw [blanks, run, List.takeWhile_cons_of_pos hc, List.dropWhile_cons_of_pos hc, if_pos hc]
    rfl
  · rw [blanks, run, List.takeWhile_cons_of_neg hc, if_neg hc]
    rfl

/-- White space is read between other characters: what follows it is no end of text. -/
theorem blanks_bind_respaced {α : Type} {s : α → α → Prop} {k : List Char → Option α}
    (hnil : k [] = none) (hk : ∀ {cs cs'}, Respaced cs cs' → Option.Rel s (k cs) (k cs'))
    (h : Respaced cs cs') : Option.Rel s ((blanks cs).bind k) ((blanks cs').bind k) := by
  have hnone {b : List Char} (hb : ∀ c ∈ b, isBlank c = true) : (blanks b).bind k = none := by
    cases b with
    | nil => rfl
    | cons c b =>
      obtain ⟨hc, hb⟩ := List.forall_mem_cons.1 hb
      rw [blanks_cons, if_pos hc, List.dropWhile_eq_nil_iff.2 hb]
      exact hnil
  cases h with
  | padding h h' =>
    rw [hnone h, hnone h']
    exact .none
  | char c h =>
    rw [blanks_cons, blanks_cons]
    split
    · exact hk h.dropBlanks
    · exact .none
  | newline h => exact hk h.dropBlanks

end Readers

/-! Scanners. -/

/-- A scanner that starts with no white space and takes it in as no more than a gap. Of the character
before it asks only whether it is one of a word. -/
structure Steady {α : Type} (f : Scanner α) : Prop where
  none_of_blank : ∀ prev cs, (∀ c ∈ cs.head?, isBlank c = true) → f prev cs = none
  respaced : ∀ {prev prev' cs cs'}, prev.any isWord = prev'.any isWord → Respaced cs cs' →
    SameReading (f prev cs) (f prev' cs')

/-- Both found the same value, whatever is before it, and what follows differs in white space. -/
def Found.Alike {α : Type} (x y : Found α) : Prop := x.value = y.value ∧ Respaced x.after y.after

section Found
variable {α : Type} {g : List Char → List Char} {o o' : Option (Found α)}

theorem rel_map_left (h : Option.Rel Found.Alike o o') :
    Option.Rel Found.Alike (o.map fun found => { found with before := g found.before }) o' := by
  cases h with
  | none => exact .none
  | some h => exact .some h

theorem rel_map_right (h : Option.Rel Found.Alike o o') :
    Option.Rel Found.Alike o (o'.map fun found => { found with before := g found.before }) := by
  cases h with
  | none => exact .none
  | some h => exact .some h

end Found

namespace Steady
variable {α : Type} {f : Scanner α} {prev prev' : Option Char} {b cs cs' : List Char}

theorem leftmostFrom_cons (hf : Steady f) {c : Char} (hc : isBlank c = true) (prev : Option Char)
    (cs : List Char) : leftmostFrom f prev (c :: cs) =
      (leftmostFrom f (some c) cs).map fun found => { found with before := c :: found.before } := by
  have hnone : f prev (c :: cs) = none :=
    hf.none_of_blank prev (c :: cs) fun c' hc' => Option.some.inj hc' ▸ hc
  rw [leftmostFrom, hnone]

theorem leftmostFrom_of_blank (hf : Steady f) (hb : ∀ c ∈ b, isBlank c = true) :
    leftmostFrom f prev b = none := by
  induction b generalizing prev with
  | nil => rw [leftmostFrom, hf.none_of_blank prev [] (by simp), Option.map_none]
  | cons c b ih =>
    obtain ⟨hc, hb⟩ := List.forall_mem_cons.1 hb
    rw [hf.leftmostFrom_cons hc, ih hb, Option.map_none]

theorem leftmostFrom_respaced (hf : Steady f) (hprev : prev.any isWord = prev'.any isWord)
    (h : Respaced cs cs') :
    Option.Rel Found.Alike (leftmostFrom f prev cs) (leftmostFrom f prev' cs') := by
  induction h generalizing prev prev' with
  | padding h h' =>
    rw [hf.leftmostFrom_of_blank h, hf.leftmostFrom_of_blank h']
    exact .none
  | @char c cs cs' h ih =>
    have hread := hf.respaced hprev (.char c h)
    rw [leftmostFrom, leftmostFrom]
    generalize f prev (c :: cs) = o, f prev' (c :: cs') = o' at hread
    cases hread with
    | none => exact rel_map_left (rel_map_right (ih rfl))
    | some hsame => exact .some hsame
  | newline h ih =>
    -- Nothing is read at a line end, so both searches go on behind it, after the same newline.
    rw [hf.leftmostFrom_cons (by decide), hf.leftmostFrom_cons (by decide),
      hf.leftmostFrom_cons (by decide)]
    exact rel_map_left (rel_map_right (rel_map_right (ih rfl)))

theorem leftmostFrom_prepend (hf : Steady f) (hb : ∀ c ∈ b, isBlank c = true)
    (hprev : prev.any isWord = false) (h : Respaced cs cs') :
    Option.Rel Found.Alike (leftmostFrom f none cs) (leftmostFrom f prev (b ++ cs')) := by
  induction b generalizing prev with
  | nil => exact hf.leftmostFrom_respaced hprev.symm h
  | cons c b ih =>
    obtain ⟨hc, hb⟩ := List.forall_mem_cons.1 hb
    rw [List.cons_append, hf.leftmostFrom_cons hc]
    exact rel_map_right (ih hb (not_isWord_of_isBlank hc))

end Steady

def Repadded (cs cs' : List Char) : Prop :=
  ∃ b rest, cs' = b ++ rest ∧ (∀ c ∈ b, isBlank c = true) ∧ Respaced cs rest

namespace Repadded
variable {α : Type} {f : Scanner α} {cs cs' : List Char}

theorem leftmost (h : Repadded cs cs') (hf : Steady f) :
    Option.Rel Found.Alike (leftmost f cs) (leftmost f cs') := by
  obtain ⟨b, rest, rfl, hb, hrest⟩ := h
  exact hf.leftmostFrom_prepend hb rfl hrest

theorem value_eq (h : Repadded cs cs') (hf : Steady f) :
    (Text.leftmost f cs').map (·.value) = (Text.leftmost f cs).map (·.value) := by
  have hfound := h.leftmost hf
  generalize Text.leftmost f cs = o, Text.leftmost f cs' = o' at hfound
  cases hfound with
  | none => rfl
  | some halike => rw [Option.map_some, Option.map_some, halike.1]

theorem occurs_eq (h : Repadded cs cs') (hf : Steady f) : occurs f cs' = occurs f cs := by
  have hsome := congrArg Option.isSome (h.value_eq hf)
  rwa [Option.isSome_map, Option.isSome_map] at hsome

end Repadded

end ErrorGuide.Text
