import ErrorGuide.Template.Basic

/-! What of a template stands for itself. The literals are fixed by the template alone, and no value
that is filled in can add to them. -/

namespace ErrorGuide.Template

def Piece.literal? : Piece → Option Char
  | .literal c => some c
  | .placeholder _ => none

def literals (ps : List Piece) : List Char := ps.filterMap Piece.literal?

theorem splitClose_suffix {cs inside after : List Char}
    (h : splitClose cs = some (inside, after)) : after <:+ cs := by
  induction cs generalizing inside with
  | nil => cases h
  | cons c cs ih =>
    rw [splitClose] at h
    split at h
    · obtain ⟨-, rfl⟩ := Prod.mk.inj (Option.some.inj h)
      exact (List.tail_suffix cs).trans (List.suffix_cons c cs)
    · obtain ⟨⟨inside', after'⟩, hr, he⟩ := Option.map_eq_some_iff.1 h
      obtain ⟨-, rfl⟩ := Prod.mk.inj he
      exact (ih hr).trans (List.suffix_cons c cs)

/-- Placeholders are cut out of a template; the rest stays in order. -/
theorem literals_pieces_sublist (cs : List Char) : (literals (pieces cs)).Sublist cs := by
  fun_induction pieces cs with
  | case1 => exact List.Sublist.refl _
  | case2 c cs hopen inside after hclose ih =>
    have hafter : after.Sublist (c :: cs) :=
      ((splitClose_suffix hclose).trans ((List.tail_suffix cs).trans
        (List.suffix_cons c cs))).sublist
    exact ih.trans ((List.dropWhile_sublist _).trans hafter)
  | case3 c cs hopen hclose ih => exact ih.cons_cons c
  | case4 c cs hopen ih => exact ih.cons_cons c

/-- Values without characters in `q` leave those of the literals as they are. -/
theorem filter_render {q : Char → Bool} {ctx : Context}
    (h : ∀ key, (ctx.get key).toList.filter q = []) (template : String) :
    (render template ctx).toList.filter q = (literals (pieces template.toList)).filter q := by
  rw [render, String.toList_ofList]
  induction pieces template.toList with
  | nil => rfl
  | cons piece ps ih =>
    rw [List.flatMap_cons, List.filter_append, ih]
    cases piece with
    | literal c => exact (List.filter_append [c] (literals ps)).symm
    | placeholder key =>
      rw [Piece.fill, h key]
      rfl

end ErrorGuide.Template
