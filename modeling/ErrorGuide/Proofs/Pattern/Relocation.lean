import ErrorGuide.Proofs.Pattern.Steps

/-! What a search depends on. Starting places are carried along and never looked at, and the
characters beside a place matter only for what looks ask of them. -/

namespace ErrorGuide.Pattern

structure Mute (c : Char) : Prop where
  word : ∀ unicode, (CharSet.ofLetter unicode .word).contains c = false
  newline : c ≠ '\n'
  return' : c ≠ '\r'

def LooksLike (a b : Option Char) : Prop := a = b ∨ ∃ c d, a = some c ∧ b = some d ∧ Mute c ∧ Mute d

theorem LooksLike.refl (a : Option Char) : LooksLike a a := .inl rfl

theorem Mute.looksLike {c d : Char} (hc : Mute c) (hd : Mute d) : LooksLike (some c) (some d) :=
  .inr ⟨c, d, rfl, rfl, hc, hd⟩

theorem Look.holds_congr {before before' after after' : Option Char} (hb : LooksLike before before')
    (ha : LooksLike after after') (l : Look) : l.holds before after = l.holds before' after' := by
  obtain rfl | ⟨c, d, rfl, rfl, hc, hd⟩ := hb
  all_goals obtain rfl | ⟨c', d', rfl, rfl, hc', hd'⟩ := ha
  all_goals cases l <;> simp [holds, *, Mute.word, Mute.newline, Mute.return']

def Thread.moved (place : Nat → Nat) (t : Thread) : Thread := { t with start := place t.start }

def Span.moved (place : Nat → Nat) (s : Span) : Span := ⟨place s.start, place s.stop⟩

namespace Program
variable {p : Program} {place : Nat → Nat}

theorem follow_moved {before before' after after' : Option Char} (hb : LooksLike before before')
    (ha : LooksLike after after') (fuel : Nat) (ts : List Thread) (seen : Array Bool)
    (reached : List Thread) :
    p.follow before' after' fuel (ts.map (Thread.moved place)) seen
        (reached.map (Thread.moved place)) =
      (p.follow before after fuel ts seen reached).map (Thread.moved place) := by
  -- What is met is told by the steps alone, so both sides go through the same cases.
  induction fuel generalizing ts seen reached with
  | zero => simp only [follow]
  | succ fuel ih =>
    cases ts with
    | nil => simp only [List.map_nil, follow]
    | cons t ts =>
      simp only [List.map_cons, follow, Thread.moved, ← Look.holds_congr hb ha]
      split
      · exact ih ts seen reached
      · split
        · next l next hl =>
          cases l.holds before after with
          | true => exact ih ({ t with step := next } :: ts) _ reached
          | false => exact ih ts _ reached
        · next first second hl =>
          exact ih ({ t with step := first } :: { t with step := second } :: ts) _ reached
        · exact ih ts _ (t :: reached)

theorem reach_moved (place : Nat → Nat) {before before' after after' : Option Char}
    (hb : LooksLike before before') (ha : LooksLike after after') (ts : List Thread) :
    p.reach before' after' (ts.map (Thread.moved place)) =
      (p.reach before after ts).map (Thread.moved place) := by
  rw [reach, reach, List.length_map, List.map_reverse]
  exact congrArg List.reverse (follow_moved hb ha _ ts _ [])

theorem isDone_moved (t : Thread) : p.isDone (t.moved place) = p.isDone t := rfl

theorem advance_moved (c : Char) (t : Thread) :
    p.advance c (t.moved place) = (p.advance c t).map (Thread.moved place) := by
  simp only [advance, Thread.moved]
  split
  · split <;> rfl
  · rfl

theorem started_moved (here : Nat) (ts : List Thread) (best : Option Span) :
    p.started (place here) (ts.map (Thread.moved place)) (best.map (Span.moved place)) =
      (p.started here ts best).map (Thread.moved place) := by
  cases best with
  | none => simp [started, Thread.moved]
  | some s => rfl

theorem settled_moved (here : Nat) (reached : List Thread) (best : Option Span) :
    p.settled (place here) (reached.map (Thread.moved place)) (best.map (Span.moved place)) =
      (p.settled here reached best).map (Span.moved place) := by
  have hdone : p.isDone ∘ Thread.moved place = p.isDone := funext isDone_moved
  rw [settled, settled, List.find?_map, hdone]
  cases reached.find? p.isDone with
  | none => rfl
  | some t => rfl

theorem carried_moved (c : Char) (reached : List Thread) :
    p.carried c (reached.map (Thread.moved place)) =
      (p.carried c reached).map (Thread.moved place) := by
  have hdone : (fun t => !p.isDone t) ∘ Thread.moved place = fun t => !p.isDone t :=
    funext fun t => congrArg not (isDone_moved t)
  have hadvance : p.advance c ∘ Thread.moved place = fun t => (p.advance c t).map (·.moved place) :=
    funext (advance_moved c)
  rw [carried, carried, List.takeWhile_map, hdone, List.filterMap_map, hadvance,
    List.map_filterMap]

/-- A match once found is only bettered. -/
theorem isSome_runFrom {best : Option Span} (hbest : best.isSome = true) (cs : List Char)
    (here : Nat) (before : Option Char) (ts : List Thread) :
    (p.runFrom here before ts best cs).isSome = true := by
  have hsettled (here : Nat) (reached : List Thread) {best : Option Span}
      (h : best.isSome = true) : (p.settled here reached best).isSome = true := by
    rw [settled, Option.isSome_or, h, Bool.or_true]
  induction cs generalizing here before ts best with
  | nil =>
    rw [runFrom_nil]
    exact hsettled _ _ hbest
  | cons c cs ih =>
    rw [runFrom_cons rfl]
    split
    · exact hsettled _ _ hbest
    · exact ih (hsettled _ _ hbest) _ _ _

def Spurns (p : Program) (c : Char) : Prop := ∀ t, p.advance c t = none

theorem Spurns.carried {c : Char} (h : p.Spurns c) (reached : List Thread) :
    p.carried c reached = [] := by
  rw [Program.carried, List.filterMap_eq_nil_iff]
  exact fun t _ => h t

section
variable {here : Nat} {before : Option Char} {ts : List Thread} {c : Char} {cs : List Char}

/-- Without a match in the end there is none on the way. -/
theorem settled_of_runFrom_eq_none (h : p.runFrom here before ts none (c :: cs) = none) :
    p.settled here (p.reach before (some c) (p.started here ts none)) none = none := by
  cases hs : p.settled here (p.reach before (some c) (p.started here ts none)) none with
  | none => rfl
  | some s =>
    have hsome := isSome_runFrom (p := p) (Option.isSome_some (a := s)) cs (here + 1) (some c)
      (p.carried c (p.reach before (some c) (p.started here ts none)))
    rw [runFrom_cons rfl, hs] at h
    split at h
    · cases h
    · rw [h] at hsome
      cases hsome

end

/-- A text without a match, of which no match takes the last character, leaves nothing behind. -/
theorem runFrom_append {z : Char} (hz : p.Spurns z) {u : List Char} {here : Nat}
    {before : Option Char} {ts : List Thread}
    (h : p.runFrom here before ts none (u ++ [z]) = none) (rest : List Char) :
    p.runFrom here before ts none (u ++ z :: rest) =
      p.runFrom (here + u.length + 1) (some z) [] none rest := by
  induction u generalizing here before ts with
  | nil =>
    have hs := settled_of_runFrom_eq_none h
    rw [List.nil_append, runFrom_cons_of_none rfl hs, hz.carried]
    rfl
  | cons c u ih =>
    have hs := settled_of_runFrom_eq_none h
    rw [List.cons_append, runFrom_cons_of_none rfl hs] at h
    rw [List.cons_append, runFrom_cons_of_none rfl hs, ih h, List.length_cons]
    congr 1
    omega

end Program
end ErrorGuide.Pattern
