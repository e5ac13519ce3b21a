import ErrorGuide.Proofs.Pattern.Steps

/-! Where matches lie. A thread keeps the place at which it started, so no match stops before it
starts; a replacement therefore takes characters out and puts the new text in, and moves nothing. -/

namespace ErrorGuide.Pattern

structure Span.Within (n : Nat) (s : Span) : Prop where
  ordered : s.start ≤ s.stop
  stop_le : s.stop ≤ n

namespace Program

section Starts
variable {P : Nat → Prop} {p : Program} {before after : Option Char}

/-- Following threads makes up no starting places. -/
theorem follow_starts (fuel : Nat) (ts : List Thread) (seen : Array Bool) (reached : List Thread)
    (hts : ∀ t ∈ ts, P t.start) (hr : ∀ t ∈ reached, P t.start) :
    ∀ t ∈ p.follow before after fuel ts seen reached, P t.start := by
  induction fuel generalizing ts seen reached with
  | zero => simpa only [follow] using hr
  | succ fuel ih =>
    cases ts with
    | nil => simpa only [follow] using hr
    | cons t ts =>
      have ht : P t.start := hts t List.mem_cons_self
      have hrest : ∀ u ∈ ts, P u.start := fun u hu => hts u (List.mem_cons_of_mem t hu)
      have hkeep : ∀ u ∈ t :: reached, P u.start := List.forall_mem_cons.2 ⟨ht, hr⟩
      rw [follow]
      split
      · exact ih ts seen reached hrest hr
      · -- Every kind of step hands the start of `t` on to what comes in its place.
        dsimp only
        split
        · apply ih _ _ _ _ hr
          split
          · exact List.forall_mem_cons.2 ⟨ht, hrest⟩
          · exact hrest
        · exact ih _ _ _ (List.forall_mem_cons.2 ⟨ht, List.forall_mem_cons.2 ⟨ht, hrest⟩⟩) hr
        · exact ih _ _ _ hrest hkeep

theorem reach_starts (ts : List Thread) (hts : ∀ t ∈ ts, P t.start) :
    ∀ t ∈ p.reach before after ts, P t.start := by
  intro t ht
  rw [reach, List.mem_reverse] at ht
  exact follow_starts _ ts _ [] hts (by simp) t ht

theorem advance_start {c : Char} {t u : Thread} (h : p.advance c t = some u) :
    u.start = t.start := by
  unfold advance at h
  split at h
  · split at h
    · cases h
      rfl
    · cases h
  · cases h

theorem carried_starts (c : Char) (reached : List Thread) (h : ∀ t ∈ reached, P t.start) :
    ∀ t ∈ p.carried c reached, P t.start := by
  intro u hu
  obtain ⟨t, ht, he⟩ := List.mem_filterMap.1 hu
  rw [advance_start he]
  exact h t ((List.takeWhile_prefix _).subset ht)

end Starts

theorem started_starts (p : Program) {here : Nat} {ts : List Thread} (best : Option Span)
    (hts : ∀ t ∈ ts, t.start ≤ here) : ∀ t ∈ p.started here ts best, t.start ≤ here := by
  rw [started]
  split
  · exact List.forall_mem_append.2 ⟨hts, List.forall_mem_singleton.2 (Nat.le_refl here)⟩
  · exact hts

/-- A thread that is done gives a match that ends here. -/
theorem settled_within {p : Program} {here n : Nat} {reached : List Thread} {best : Option Span}
    (hr : ∀ t ∈ reached, t.start ≤ here) (hn : here ≤ n) (hbest : ∀ s ∈ best, s.Within n) :
    ∀ s ∈ p.settled here reached best, s.Within n := by
  intro s hs
  rcases Option.or_eq_some_iff.1 hs with h | ⟨-, h⟩
  · obtain ⟨t, ht, rfl⟩ := Option.map_eq_some_iff.1 h
    exact ⟨hr t (List.mem_of_find?_eq_some ht), hn⟩
  · exact hbest s h

/-- Threads that started no later than `here` give matches in the text. -/
theorem runFrom_within (p : Program) (cs : List Char) (here : Nat) (before : Option Char)
    (ts : List Thread) (best : Option Span) (hts : ∀ t ∈ ts, t.start ≤ here)
    (hbest : ∀ s ∈ best, s.Within (here + cs.length)) :
    ∀ s ∈ p.runFrom here before ts best cs, s.Within (here + cs.length) := by
  induction cs generalizing here before ts best with
  | nil =>
    rw [runFrom_nil]
    have hreach : ∀ t ∈ p.reach before none (p.started here ts best), t.start ≤ here :=
      reach_starts (P := (· ≤ here)) _ (started_starts p best hts)
    exact settled_within hreach (Nat.le_add_right here _) hbest
  | cons c cs ih =>
    have hreach : ∀ t ∈ p.reach before (some c) (p.started here ts best), t.start ≤ here :=
      reach_starts (P := (· ≤ here)) _ (started_starts p best hts)
    have hnew := settled_within (p := p) hreach (Nat.le_add_right here (c :: cs).length) hbest
    have hlength : here + (c :: cs).length = here + 1 + cs.length := by
      rw [List.length_cons]
      omega
    rw [runFrom_cons rfl]
    split
    · exact hnew
    · rw [hlength] at hnew ⊢
      refine ih _ _ _ _ (fun u hu => ?_) hnew
      exact Nat.le_succ_of_le (carried_starts (P := (· ≤ here)) c _ hreach u hu)

theorem find_within {p : Program} {prev : Option Char} {cs : List Char} {s : Span}
    (h : p.find prev cs = some s) : s.Within cs.length := by
  simpa using runFrom_within p cs 0 prev [] none (by simp) (by simp) s h

section Replacement
variable {q : Char → Bool} {new : List Char}

/-- A match lies between the text before it and the text after it. -/
theorem take_append_drop_sublist {i j : Nat} (h : i ≤ j) (cs : List Char) :
    (cs.take i ++ cs.drop j).Sublist cs := by
  have hs : (cs.take i ++ cs.drop j).Sublist (cs.take i ++ cs.drop i) :=
    (List.Sublist.refl _).append (List.drop_sublist_drop_left cs h)
  rwa [List.take_append_drop] at hs

/-- Replacing matches by a text without characters in `q` can only take such characters away. -/
theorem filter_replaceFrom_sublist (p : Program) (hnew : new.filter q = []) (fuel : Nat)
    (prev : Option Char) (afterMatch : Bool) (cs : List Char) :
    ((p.replaceFrom new fuel prev afterMatch cs).filter q).Sublist (cs.filter q) := by
  induction fuel generalizing prev afterMatch cs with
  | zero => exact List.Sublist.refl _
  | succ fuel ih =>
    cases hf : p.find prev cs with
    | none => simp only [replaceFrom_of_none hf, List.Sublist.refl]
    | some s =>
      by_cases hskip : s.stop = 0 ∧ afterMatch
      · -- The empty match does not count, so the character after it stays.
        obtain ⟨hs, rfl⟩ := hskip
        cases cs with
        | nil => simp only [replaceFrom_of_last hf hs, List.Sublist.refl]
        | cons c cs =>
          have hrest := ih (some c) false cs
          rw [replaceFrom_of_repeated hf hs]
          simp only [List.filter_cons]
          split
          · exact hrest.cons_cons c
          · exact hrest
      · have hrest := ih ((cs.take s.stop).getLast?.or prev) true (cs.drop s.stop)
        have hkept := (take_append_drop_sublist (find_within hf).ordered cs).filter q
        rw [List.filter_append] at hkept
        rw [replaceFrom_of_some hf hskip]
        simp only [List.filter_append, hnew, List.append_nil]
        exact ((List.Sublist.refl _).append hrest).trans hkept

theorem filter_replaceAll_sublist (p : Program) {new : String} (hnew : new.toList.filter q = [])
    (text : String) :
    ((p.replaceAll new text).toList.filter q).Sublist (text.toList.filter q) := by
  rw [replaceAll, String.toList_ofList]
  exact filter_replaceFrom_sublist p hnew _ none false text.toList

end Replacement

end Program
end ErrorGuide.Pattern
