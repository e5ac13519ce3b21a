import ErrorGuide.Pattern.Expr

/-! Patterns as programs: numbered steps, each of which names those that may follow. -/

namespace ErrorGuide.Pattern

inductive Step where
  | take (s : CharSet) (next : Nat)
  | look (l : Look) (next : Nat)
  /-- Goes on in two ways, of which the first has precedence. -/
  | fork (first second : Nat)
  | done

structure Program where
  steps : Array Step
  start : Nat

namespace Program

/-- Adds a part in front of the step `next`; gives the step that the part starts at. -/
abbrev Part := Nat → Array Step → Array Step × Nat

def forked (greedy : Bool) (body exit : Nat) : Step :=
  if greedy then .fork body exit else .fork exit body

def copies (part : Part) : Nat → Part
  | 0, next, steps => (steps, next)
  | n + 1, next, steps =>
    let (steps, next) := copies part n next steps
    part next steps

def options (part : Part) (greedy : Bool) : Nat → Part
  | 0, next, steps => (steps, next)
  | n + 1, exit, steps =>
    let (steps, next) := options part greedy n exit steps
    let (steps, body) := part next steps
    (steps.push (forked greedy body exit), steps.size)

def loop (part : Part) (greedy : Bool) : Part := fun exit steps =>
  let again := steps.size
  let (steps, body) := part again (steps.push .done)
  (steps.setIfInBounds again (forked greedy body exit), body)

def emit : Expr → Part
  | .empty, next, steps => (steps, next)
  | .char c, next, steps => (steps.push (.take (.single c) next), steps.size)
  | .set s, next, steps => (steps.push (.take s next), steps.size)
  | .look l, next, steps => (steps.push (.look l next), steps.size)
  | .cat a b, next, steps =>
    let (steps, next) := emit b next steps
    emit a next steps
  | .alt a b, next, steps =>
    let (steps, second) := emit b next steps
    let (steps, first) := emit a next steps
    (steps.push (.fork first second), steps.size)
  | .times 0 none greedy e, exit, steps =>
    let (steps, body) := loop (emit e) greedy exit steps
    (steps.push (forked greedy body exit), steps.size)
  | .times (n + 1) none greedy e, exit, steps =>
    let (steps, next) := loop (emit e) greedy exit steps
    copies (emit e) n next steps
  | .times least (some most) greedy e, exit, steps =>
    let (steps, next) := options (emit e) greedy (most - least) exit steps
    copies (emit e) least next steps
  | .group e, next, steps => emit e next steps

def ofExpr (e : Expr) : Program :=
  let (steps, start) := emit e 0 #[.done]
  ⟨steps, start⟩

end Program

def compile (pattern : String) : Except Fault Program :=
  (Expr.ofPattern pattern).map Program.ofExpr

end ErrorGuide.Pattern
