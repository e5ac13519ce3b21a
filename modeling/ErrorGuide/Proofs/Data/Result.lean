import ErrorGuide.Proofs.Json.Records

/-! Results of actions that may fail, one after another. -/

namespace ErrorGuide
open Json
variable {α β ε ε' : Type} {x : Except ε α} {f : α → Except ε β} {as : List α}

theorem mapError_eq_ok {h : ε → ε'} {a : α} : x.mapError h = .ok a ↔ x = .ok a := by
  cases x <;> simp [Except.mapError]

theorem exists_map_ok {f : α → β} : (∃ b, x.map f = .ok b) ↔ ∃ a, x = .ok a := by
  cases x <;> simp [Except.map]

theorem bind_eq_ok {b : β} : x >>= f = .ok b ↔ ∃ a, x = .ok a ∧ f a = .ok b := by
  cases x <;> simp [bind, Except.bind]

theorem run_bind_eq_ok {x : ExceptT ε Id α} {f : α → ExceptT ε Id β} {b : β} :
    (x >>= f).run = .ok b ↔ ∃ a, x.run = .ok a ∧ (f a).run = .ok b := by
  have hrun : (x >>= f).run = bind (m := Except ε) x.run fun a => (f a).run := by
    rw [ExceptT.run_bind]
    cases x.run <;> rfl
  rw [hrun]
  exact bind_eq_ok

theorem exists_bind_ok : (∃ b, x >>= f = .ok b) ↔ ∃ a, x = .ok a ∧ ∃ b, f a = .ok b := by
  cases x <;> simp [bind, Except.bind]

theorem exists_mapM_ok : (∃ bs, as.mapM f = .ok bs) ↔ ∀ a ∈ as, ∃ b, f a = .ok b := by
  induction as with
  | nil => simp [pure, Except.pure]
  | cons a as ih => simp [List.mapM_cons, exists_bind_ok, pure_eq_ok, ih]

theorem mem_of_mapM {bs : List β} (h : as.mapM f = .ok bs) (b : β) :
    b ∈ bs ↔ ∃ a ∈ as, f a = .ok b := by
  induction as generalizing bs with
  | nil =>
    cases h
    simp
  | cons a as ih =>
    rw [List.mapM_cons] at h
    obtain ⟨b', hb', h⟩ := bind_eq_ok.1 h
    obtain ⟨bs', hbs', h⟩ := bind_eq_ok.1 h
    cases h
    simp [ih hbs', hb', eq_comm]

theorem mapM_congr {f' : α → Except ε β} (h : ∀ a ∈ as, f a = f' a) : as.mapM f = as.mapM f' := by
  induction as with
  | nil => rfl
  | cons a as ih =>
    obtain ⟨ha, has⟩ := List.forall_mem_cons.1 h
    rw [List.mapM_cons, List.mapM_cons, ha, ih has]

end ErrorGuide
