import ErrorGuide.Pattern.Program

/-! Search for the leftmost match of a pattern. All ways of matching are followed at the same time,
in the order of their precedence; of two that come to the same step only the first is kept. -/

namespace ErrorGuide.Pattern

structure Thread where
  step : Nat
  start : Nat

structure Span where
  start : Nat
  stop : Nat
deriving Repr, DecidableEq

namespace Program

/-- Follows threads, in order, to the next steps that take a character or are done. `seen` tells the
steps met at this place; `reached` is in reverse. -/
def follow (p : Program) (before after : Option Char) :
    Nat → List Thread → Array Bool → List Thread → List Thread
  | 0, _, _, reached => reached
  | _ + 1, [], _, reached => reached
  | fuel + 1, t :: ts, seen, reached =>
    if seen.getD t.step true then follow p before after fuel ts seen reached
    else
      let seen := seen.setIfInBounds t.step true
      match p.steps[t.step]? with
      | some (.look l next) =>
        let ts := if l.holds before after then { t with step := next } :: ts else ts
        follow p before after fuel ts seen reached
      | some (.fork first second) =>
        let ts := { t with step := first } :: { t with step := second } :: ts
        follow p before after fuel ts seen reached
      | _ => follow p before after fuel ts seen (t :: reached)

/-- Every step is met once, and leads to two others at most. -/
def reach (p : Program) (before after : Option Char) (ts : List Thread) : List Thread :=
  (p.follow before after (ts.length + 2 * p.steps.size + 1) ts
    (Array.replicate p.steps.size false) []).reverse

def isDone (p : Program) (t : Thread) : Bool :=
  match p.steps[t.step]? with
  | some .done => true
  | _ => false

def advance (p : Program) (c : Char) (t : Thread) : Option Thread :=
  match p.steps[t.step]? with
  | some (.take s next) => if s.contains c then some { t with step := next } else none
  | _ => none

/-- Goes on from the place `here`, with the threads that came there and the best match so far. New
threads start as long as there is no match. -/
def runFrom (p : Program) (here : Nat) (before : Option Char) (ts : List Thread)
    (best : Option Span) (cs : List Char) : Option Span :=
  let ts := if best.isNone then ts ++ [⟨p.start, here⟩] else ts
  let reached := p.reach before cs.head? ts
  let live := reached.takeWhile (!p.isDone ·)
  let best := ((reached.find? p.isDone).map fun t => ⟨t.start, here⟩).or best
  match cs with
  | [] => best
  | c :: cs =>
    let ts := live.filterMap (p.advance c)
    if ts.isEmpty && best.isSome then best else runFrom p (here + 1) (some c) ts best cs

def find (p : Program) (prev : Option Char) (cs : List Char) : Option Span :=
  p.runFrom 0 prev [] none cs

def isMatch (p : Program) (text : String) : Bool := (p.find none text.toList).isSome

/-- Puts `new` for every match. An empty match right after another match does not count. -/
def replaceFrom (p : Program) (new : List Char) :
    Nat → Option Char → Bool → List Char → List Char
  | 0, _, _, cs => cs
  | fuel + 1, prev, afterMatch, cs => match p.find prev cs with
    | none => cs
    | some ⟨start, stop⟩ =>
      if stop = 0 ∧ afterMatch then
        match cs with
        | [] => []
        | c :: cs => c :: replaceFrom p new fuel (some c) false cs
      else
        cs.take start ++ new ++
          replaceFrom p new fuel ((cs.take stop).getLast?.or prev) true (cs.drop stop)

def replaceAll (p : Program) (new text : String) : String :=
  let cs := text.toList
  String.ofList (p.replaceFrom new.toList (2 * cs.length + 2) none false cs)

end Program

def matchesIn (pattern text : String) : Bool :=
  match compile pattern with
  | .ok p => p.isMatch text
  | .error _ => false

end ErrorGuide.Pattern
