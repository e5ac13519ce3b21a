import ErrorGuide.Proofs.Pattern.Steps

/-! Replacement by texts that are made from the matches. -/

namespace ErrorGuide.Pattern.Program
variable {p : Program} {new : List Char → List Char} {fuel : Nat} {prev : Option Char}
  {afterMatch : Bool} {cs : List Char}

/-- Puts for every match what `new` makes of its characters. An empty match right after another
match does not count. -/
def rewriteFrom (p : Program) (new : List Char → List Char) :
    Nat → Option Char → Bool → List Char → List Char
  | 0, _, _, cs => cs
  | fuel + 1, prev, afterMatch, cs => match p.find prev cs with
    | none => cs
    | some ⟨start, stop⟩ =>
      if stop = 0 ∧ afterMatch then
        match cs with
        | [] => []
        | c :: cs => c :: rewriteFrom p new fuel (some c) false cs
      else
        cs.take start ++ new ((cs.take stop).drop start) ++
          rewriteFrom p new fuel ((cs.take stop).getLast?.or prev) true (cs.drop stop)

def rewriteAll (p : Program) (new : String → String) (text : String) : String :=
  let cs := text.toList
  String.ofList (p.rewriteFrom (fun found => (new (String.ofList found)).toList)
    (2 * cs.length + 2) none false cs)

theorem rewriteFrom_const (p : Program) (text : List Char) (fuel : Nat) (prev : Option Char)
    (afterMatch : Bool) (cs : List Char) :
    p.rewriteFrom (fun _ => text) fuel prev afterMatch cs =
      p.replaceFrom text fuel prev afterMatch cs := by
  induction fuel generalizing prev afterMatch cs with
  | zero => rfl
  | succ fuel ih =>
    rw [rewriteFrom.eq_def, replaceFrom.eq_def]
    dsimp only
    cases p.find prev cs with
    | none => rfl
    | some s =>
      dsimp only
      by_cases hempty : s.stop = 0 ∧ afterMatch = true
      · rw [if_pos hempty, if_pos hempty]
        cases cs with
        | nil => rfl
        | cons c cs => exact congrArg (List.cons c) (ih _ _ _)
      · rw [if_neg hempty, if_neg hempty, ih]

/-- Replacement by one text is the case in which nothing is made of the match. -/
theorem rewriteAll_const (p : Program) (new text : String) :
    p.rewriteAll (fun _ => new) text = p.replaceAll new text := by
  rw [rewriteAll, replaceAll, rewriteFrom_const]

theorem rewriteFrom_of_none (h : p.find prev cs = none) :
    p.rewriteFrom new (fuel + 1) prev afterMatch cs = cs := by
  rw [rewriteFrom.eq_def]
  dsimp only
  rw [h]

theorem rewriteFrom_of_some {s : Span} (h : p.find prev cs = some s) (hs : s.stop ≠ 0) :
    p.rewriteFrom new (fuel + 1) prev afterMatch cs =
      cs.take s.start ++ new ((cs.take s.stop).drop s.start) ++
        p.rewriteFrom new fuel ((cs.take s.stop).getLast?.or prev) true (cs.drop s.stop) := by
  rw [rewriteFrom.eq_def]
  dsimp only
  rw [h]
  exact if_neg fun hempty => hs hempty.1

end ErrorGuide.Pattern.Program
