import ErrorGuide.Proofs.Text.Scan

/-! Parts of a text that a scanner reads, said without reading: the first of them, and all of them from
left to right. A part is told by its characters and by what follows it. -/

namespace ErrorGuide.Text

variable {α : Type} {f : Scanner α} {Part : List Char → α → List Char → Prop}
  {cs p m s : List Char} {a : α} {found : Found α}

/-- The scanner reads the parts, whatever stands before them. -/
def Reads (f : Scanner α) (Part : List Char → α → List Char → Prop) : Prop :=
  ∀ prev cs a s, f prev cs = some (a, s) ↔ ∃ m, cs = m ++ s ∧ Part m a s

def NoPart (Part : List Char → α → List Char → Prop) (cs : List Char) : Prop :=
  ∀ p m a s, cs = p ++ (m ++ s) → ¬Part m a s

structure FirstPart (Part : List Char → α → List Char → Prop) (cs p m : List Char) (a : α)
    (s : List Char) : Prop where
  split : cs = p ++ (m ++ s)
  part : Part m a s
  first : ∀ early m' a' s', cs = early ++ (m' ++ s') → Part m' a' s' → p.length ≤ early.length

/-- The parts of a text from left to right: the first one, and those of the text after it. So none of
them takes characters of another. -/
inductive Parts (Part : List Char → α → List Char → Prop) : List Char → List α → Prop
  | nil {cs : List Char} (none : NoPart Part cs) : Parts Part cs []
  | cons {cs p m s : List Char} {a : α} {rest : List α} (first : FirstPart Part cs p m a s)
    (later : Parts Part s rest) : Parts Part cs (a :: rest)

theorem FirstPart.length_after (h : FirstPart Part cs p m a s) (hm : m ≠ []) :
    s.length < cs.length := by
  have hpos := List.length_pos_iff.2 hm
  rw [h.split, List.length_append, List.length_append]
  omega

namespace Reads
variable (hf : Reads f Part)
include hf

theorem firstPart_of_leftmost (h : leftmost f cs = some found) :
    ∃ m, FirstPart Part cs found.before m found.value found.after := by
  obtain ⟨⟨rest, hcs, hreads⟩, hfirst⟩ := isLeftmost_of_leftmostFrom h
  obtain ⟨m, rfl, hm⟩ := (hf _ _ _ _).1 hreads
  refine ⟨m, hcs, hm, ?_⟩
  intro early m' a' s' hsplit hm'
  refine Nat.le_of_not_lt fun hlt => ?_
  have hnone := hfirst early (m' ++ s') hsplit hlt
  have hsome := (hf (early.getLast?.or none) (m' ++ s') a' s').2 ⟨m', rfl, hm'⟩
  cases hnone.symm.trans hsome

theorem noPart_of_leftmost (h : leftmost f cs = none) : NoPart Part cs := by
  intro p m a s hcs hm
  have hsome := (hf (p.getLast?.or none) (m ++ s) a s).2 ⟨m, rfl, hm⟩
  have hoccurs : (leftmost f cs).isSome = true :=
    isSome_leftmostFrom_iff.2 ⟨p, m ++ s, hcs, by rw [hsome]; rfl⟩
  rw [h] at hoccurs
  cases hoccurs

/-- Two first parts start at one place, and there the scanner reads one thing. -/
theorem leftmost_of_firstPart (h : FirstPart Part cs p m a s) : leftmost f cs = some ⟨p, a, s⟩ := by
  cases hfound : leftmost f cs with
  | none => exact absurd h.part (hf.noPart_of_leftmost hfound p m a s h.split)
  | some found =>
    obtain ⟨m', h'⟩ := hf.firstPart_of_leftmost hfound
    have hle := h.first _ _ _ _ h'.split h'.part
    have hge := h'.first _ _ _ _ h.split h.part
    obtain ⟨hp, hrest⟩ := List.append_inj (h'.split.symm.trans h.split) (Nat.le_antisymm hge hle)
    have hread := (hf none (m ++ s) a s).2 ⟨m, rfl, h.part⟩
    have hread' := (hf none (m' ++ found.after) found.value found.after).2 ⟨m', rfl, h'.part⟩
    rw [hrest, hread] at hread'
    obtain ⟨ha, hs⟩ := Prod.mk.inj (Option.some.inj hread')
    rw [← hp, ha, hs]

theorem leftmost_of_noPart (h : NoPart Part cs) : leftmost f cs = none := by
  cases hfound : leftmost f cs with
  | none => rfl
  | some found =>
    obtain ⟨m, hfirst⟩ := hf.firstPart_of_leftmost hfound
    exact absurd hfirst.part (h _ _ _ _ hfirst.split)

theorem head?_of_parts {as : List α} (h : Parts Part cs as) :
    as.head? = (leftmost f cs).map (·.value) := by
  cases h with
  | nil hnone =>
    rw [hf.leftmost_of_noPart hnone]
    rfl
  | cons hfirst hlater =>
    rw [hf.leftmost_of_firstPart hfirst]
    rfl

theorem parts_of_none (h : leftmost f cs = none) : Parts Part cs [] := .nil (hf.noPart_of_leftmost h)

theorem parts_of_some {later : List α} (h : leftmost f cs = some found)
    (hlater : Parts Part found.after later) : Parts Part cs (found.value :: later) := by
  obtain ⟨m, hfirst⟩ := hf.firstPart_of_leftmost h
  exact .cons hfirst hlater

theorem exists_parts (hne : ∀ m a s, Part m a s → m ≠ []) (cs : List Char) :
    ∃ as, Parts Part cs as := by
  cases hfound : leftmost f cs with
  | none => exact ⟨[], hf.parts_of_none hfound⟩
  | some found =>
    obtain ⟨m, hfirst⟩ := hf.firstPart_of_leftmost hfound
    have hshorter := hfirst.length_after (hne _ _ _ hfirst.part)
    obtain ⟨later, hlater⟩ := exists_parts hne found.after
    exact ⟨found.value :: later, hf.parts_of_some hfound hlater⟩
termination_by cs.length

end Reads
end ErrorGuide.Text
