import ErrorGuide.Text.Trim

/-! Templates: texts with placeholders such as `\x7b\x7bname\x7d\x7d`. A placeholder goes from the
leftmost pair of opening braces that has a pair of closing ones after it to the nearest such pair,
and takes in the closing braces right after it. -/

namespace ErrorGuide.Template
open Text

inductive Piece where
  | literal (c : Char)
  | placeholder (key : String)
deriving Repr, DecidableEq

def splitClose : List Char → Option (List Char × List Char)
  | [] => none
  | c :: cs =>
    if c = '\x7d' ∧ cs.head? = some '\x7d' then some ([], cs.tail)
    else (splitClose cs).map fun (inside, after) => (c :: inside, after)

theorem length_splitClose {cs inside after : List Char} (h : splitClose cs = some (inside, after)) :
    after.length < cs.length := by
  induction cs generalizing inside with
  | nil => simp [splitClose] at h
  | cons c cs ih =>
    rw [splitClose] at h
    split at h
    · obtain ⟨-, rfl⟩ := Prod.mk.inj (Option.some.inj h)
      simp only [List.length_tail, List.length_cons]
      omega
    · obtain ⟨⟨inside', after'⟩, hr, he⟩ := Option.map_eq_some_iff.1 h
      obtain ⟨-, rfl⟩ := Prod.mk.inj he
      have := ih hr
      simp only [List.length_cons]
      omega

def isKeyMargin (c : Char) : Bool := c = '\x7b' || c = '\x7d' || Unicode.isBlank c

def keyOf (inside : List Char) : String := String.ofList (strip isKeyMargin inside)

def afterClose (cs : List Char) : List Char := cs.dropWhile (· = '\x7d')

theorem length_afterClose (cs : List Char) : (afterClose cs).length ≤ cs.length :=
  (List.dropWhile_sublist _).length_le

def pieces : List Char → List Piece
  | [] => []
  | c :: cs =>
    if c = '\x7b' ∧ cs.head? = some '\x7b' then
      match _h : splitClose cs.tail with
      | some (inside, after) => .placeholder (keyOf inside) :: pieces (afterClose after)
      | none => .literal c :: pieces cs
    else .literal c :: pieces cs
termination_by cs => cs.length
decreasing_by
  · have h₁ := length_splitClose _h
    have h₂ := length_afterClose after
    simp only [List.length_tail, List.length_cons] at h₁ ⊢
    omega
  · simp
  · simp

structure Context where
  loc : String := ""
  name : String := ""
  codeLine : String := ""
deriving Repr, DecidableEq

namespace Context

def get (ctx : Context) (key : String) : String :=
  if key = "loc" then ctx.loc
  else if key = "name" then ctx.name
  else if key = "codeLine" then ctx.codeLine
  else ""

end Context

def Piece.fill (ctx : Context) : Piece → List Char
  | .literal c => [c]
  | .placeholder key => (ctx.get key).toList

/-- The template with its placeholders replaced. Values are not looked into. -/
def render (template : String) (ctx : Context) : String :=
  String.ofList ((pieces template.toList).flatMap (Piece.fill ctx))

end ErrorGuide.Template
