import ErrorGuide.Pattern.Search

/-! What is done at one place of a search, in three parts, and what replacing does with what the
search finds. Later arguments use these lemmas and not the definitions. -/

namespace ErrorGuide.Pattern.Program
variable {p : Program}

def started (p : Program) (here : Nat) (ts : List Thread) (best : Option Span) : List Thread :=
  if best.isNone then ts ++ [⟨p.start, here⟩] else ts

def settled (p : Program) (here : Nat) (reached : List Thread) (best : Option Span) : Option Span :=
  ((reached.find? p.isDone).map fun t => ⟨t.start, here⟩).or best

def carried (p : Program) (c : Char) (reached : List Thread) : List Thread :=
  (reached.takeWhile (!p.isDone ·)).filterMap (p.advance c)

theorem runFrom_nil (here : Nat) (before : Option Char) (ts : List Thread) (best : Option Span) :
    p.runFrom here before ts best [] =
      p.settled here (p.reach before none (p.started here ts best)) best := by
  rw [runFrom, settled, started, List.head?_nil]

theorem runFrom_cons {here : Nat} {before : Option Char} {ts : List Thread} {best : Option Span}
    {c : Char} {reached : List Thread}
    (hr : p.reach before (some c) (p.started here ts best) = reached) (cs : List Char) :
    p.runFrom here before ts best (c :: cs) =
      if (p.carried c reached).isEmpty && (p.settled here reached best).isSome then
        p.settled here reached best
      else
        p.runFrom (here + 1) (some c) (p.carried c reached) (p.settled here reached best) cs := by
  subst hr
  rw [runFrom]
  rfl

/-- At a place without a match the search goes on with the threads that take the character. -/
theorem runFrom_cons_of_none {here : Nat} {before : Option Char} {ts : List Thread} {c : Char}
    {cs : List Char} {reached : List Thread}
    (hr : p.reach before (some c) (p.started here ts none) = reached)
    (hs : p.settled here reached none = none) :
    p.runFrom here before ts none (c :: cs) =
      p.runFrom (here + 1) (some c) (p.carried c reached) none cs := by
  rw [runFrom_cons hr, hs, Option.isSome_none, Bool.and_false, if_neg Bool.false_ne_true]

/-! Replacement, by what the search finds. -/

section
variable {new : List Char} {fuel : Nat} {prev : Option Char} {afterMatch : Bool} {cs : List Char}

theorem replaceFrom_of_none (h : p.find prev cs = none) :
    p.replaceFrom new (fuel + 1) prev afterMatch cs = cs := by
  rw [replaceFrom.eq_def]
  dsimp only
  rw [h]

theorem replaceFrom_of_last {s : Span} (h : p.find prev [] = some s) (hs : s.stop = 0) :
    p.replaceFrom new (fuel + 1) prev true [] = [] := by
  rw [replaceFrom.eq_def]
  dsimp only
  rw [h]
  exact if_pos ⟨hs, rfl⟩

/-- An empty match right after another is passed over with the character after it. -/
theorem replaceFrom_of_repeated {c : Char} {s : Span} (h : p.find prev (c :: cs) = some s)
    (hs : s.stop = 0) :
    p.replaceFrom new (fuel + 1) prev true (c :: cs) =
      c :: p.replaceFrom new fuel (some c) false cs := by
  rw [replaceFrom, h]
  exact if_pos ⟨hs, rfl⟩

theorem replaceFrom_of_some {s : Span} (h : p.find prev cs = some s)
    (hs : ¬(s.stop = 0 ∧ afterMatch)) :
    p.replaceFrom new (fuel + 1) prev afterMatch cs =
      cs.take s.start ++ new ++
        p.replaceFrom new fuel ((cs.take s.stop).getLast?.or prev) true (cs.drop s.stop) := by
  rw [replaceFrom.eq_def]
  dsimp only
  rw [h]
  exact if_neg hs

end

end ErrorGuide.Pattern.Program
