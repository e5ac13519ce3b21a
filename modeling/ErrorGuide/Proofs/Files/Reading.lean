import ErrorGuide.Files.Tree

/-! Actions that read files and change none. -/

namespace ErrorGuide
variable {α β : Type} {t : FileTree}
  {x : ExceptT Failure (StateM FileTree) α} {r : Except Failure α}
  {f : α → ExceptT Failure (StateM FileTree) β} {g : α → Except Failure β}

def Gives (t : FileTree) (x : ExceptT Failure (StateM FileTree) α) (r : Except Failure α) : Prop :=
  x.run t = (r, t)

theorem gives_pure (a : α) : Gives t (pure a) (.ok a) := rfl

theorem gives_bind (hx : Gives t x r) (hf : ∀ a, Gives t (f a) (g a)) :
    Gives t (x >>= f) (r >>= g) := by
  have hrun : (x >>= f).run t = ExceptT.bindCont f (x.run t).1 (x.run t).2 := rfl
  rw [Gives, hrun, hx]
  cases r with
  | error e => rfl
  | ok a => exact hf a

theorem gives_lift {y : StateM FileTree α} {a : α} (hy : y.run t = (a, t)) :
    Gives t (ExceptT.lift y) (.ok a) := by
  change ((.ok (y.run t).1 : Except Failure α), (y.run t).2) = (.ok a, t)
  rw [hy]

theorem gives_mapM {as : List α} (hf : ∀ a, Gives t (f a) (g a)) :
    Gives t (as.mapM f) (as.mapM g) := by
  induction as with
  | nil => rfl
  | cons a as ih =>
    rw [List.mapM_cons, List.mapM_cons]
    exact gives_bind (hf a) fun b => gives_bind ih fun bs => gives_pure (b :: bs)

theorem filterM_eq {p : α → Bool} {q : α → StateM FileTree Bool} (hq : ∀ a, (q a).run t = (p a, t))
    (as : List α) : (as.filterM q).run t = (as.filter p, t) := by
  -- What passes is collected in reverse, and turned round at the end.
  have haux (done : List α) :
      (as.filterAuxM q done).run t = ((as.filter p).reverse ++ done, t) := by
    induction as generalizing done with
    | nil => rfl
    | cons a as ih =>
      have hstep : ((a :: as).filterAuxM q done).run t = (as.filterAuxM q
          (cond ((q a).run t).1 (a :: done) done)).run ((q a).run t).2 := rfl
      rw [hstep, hq, ih]
      cases hp : p a <;> simp [hp]
  have hreverse : (as.filterM q).run t =
      (((as.filterAuxM q []).run t).1.reverse, ((as.filterAuxM q []).run t).2) := rfl
  rw [hreverse, haux, List.append_nil, List.reverse_reverse]

end ErrorGuide
