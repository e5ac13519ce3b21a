import ErrorGuide.Proofs.Pattern.Relocation
import ErrorGuide.Proofs.Pattern.Spans

/-! Searching a text in which some characters are written out at length. Where a program passes over
what they are written as, it finds the same matches, moved. -/

namespace ErrorGuide.Pattern

namespace Program

/-- No look tells the character from another such one, and no thread takes it. -/
structure Inert (p : Program) (c : Char) : Prop where
  mute : Mute c
  spurned : p.Spurns c

/-- A program makes nothing of how a character is written: it stays as it is, or else neither it
nor its writing takes part in a match. The ends of the writing look as the character does. -/
inductive PassesOver (p : Program) (write : Char → List Char) (c : Char) : Prop where
  | kept (written : write c = [c])
  | written {a z : Char} {u : List Char} (written : write c = a :: (u ++ [z]))
    (char : p.Inert c) (first : p.Inert a) (last : p.Inert z)
    (silent : ∀ here, p.runFrom here (some a) [] none (u ++ [z]) = none)

section
variable {p : Program} {write : Char → List Char}

theorem PassesOver.looksLike_last {cs : List Char} (h : ∀ c ∈ cs, p.PassesOver write c)
    {prev prev' : Option Char} (hprev : LooksLike prev prev') :
    LooksLike (cs.getLast?.or prev) ((cs.flatMap write).getLast?.or prev') := by
  obtain rfl | ⟨cs, c, rfl⟩ := List.eq_nil_or_concat cs
  · exact hprev
  · rw [List.concat_eq_append] at h ⊢
    rw [List.flatMap_append, List.flatMap_singleton]
    cases h c (by simp) with
    | kept hw =>
      rw [hw]
      simpa using LooksLike.refl (some c)
    | written hw hc ha hz =>
      rw [hw, ← List.cons_append, ← List.append_assoc, List.getLast?_concat, List.getLast?_concat]
      exact hc.mute.looksLike hz.mute

/-- One character of a search, and all that is written for it. -/
theorem PassesOver.runFrom {c : Char} (h : p.PassesOver write c) (place : Nat → Nat) {here : Nat}
    {before before' : Option Char} (hbefore : LooksLike before before') {ts : List Thread}
    {best : Option Span} {reached : List Thread}
    (hr : p.reach before (some c) (p.started here ts best) = reached) (rest : List Char) :
    ∃ last, LooksLike (some c) last ∧
      p.runFrom (place here) before' (ts.map (Thread.moved place)) (best.map (Span.moved place))
          (write c ++ rest) =
        if (p.carried c reached).isEmpty && (p.settled here reached best).isSome then
          (p.settled here reached best).map (Span.moved place)
        else
          p.runFrom (place here + (write c).length) last
            ((p.carried c reached).map (Thread.moved place))
            ((p.settled here reached best).map (Span.moved place)) rest := by
  cases h with
  | kept hw =>
    have hreach := reach_moved (p := p) place hbefore (.refl (some c)) (p.started here ts best)
    rw [← started_moved, hr] at hreach
    refine ⟨some c, .refl (some c), ?_⟩
    rw [hw, List.singleton_append, runFrom_cons hreach, carried_moved, settled_moved,
      List.isEmpty_map, Option.isSome_map, List.length_singleton]
  | @written a z u hw hc ha hz hsilent =>
    have hreach := reach_moved (p := p) place hbefore (hc.mute.looksLike ha.mute)
      (p.started here ts best)
    rw [← started_moved, hr] at hreach
    refine ⟨some z, hc.mute.looksLike hz.mute, ?_⟩
    rw [hw, List.cons_append, runFrom_cons hreach, ha.spurned.carried, hc.spurned.carried,
      settled_moved, Option.isSome_map]
    cases p.settled here reached best with
    | some s => rfl
    | none =>
      have hlength : place here + (a :: (u ++ [z])).length = place here + 1 + u.length + 1 := by
        simp only [List.length_cons, List.length_append, List.length_nil]
        omega
      -- Nothing is under way and nothing found, so the writing is passed over.
      rw [hlength, List.append_assoc, List.singleton_append, Option.map_none, Option.isSome_none,
        Bool.and_false, if_neg Bool.false_ne_true, if_neg Bool.false_ne_true,
        runFrom_append hz.spurned (hsilent _)]
      rfl

/-- A search of the longer text is one of the shorter text, in other places. -/
theorem runFrom_written {cs : List Char} (h : ∀ c ∈ cs, p.PassesOver write c)
    (place : Nat → Nat) {here : Nat} {before before' : Option Char}
    (hbefore : LooksLike before before')
    (hplace : ∀ i ≤ cs.length, place (here + i) = place here + ((cs.take i).flatMap write).length)
    (ts : List Thread) (best : Option Span) :
    p.runFrom (place here) before' (ts.map (Thread.moved place)) (best.map (Span.moved place))
        (cs.flatMap write) =
      (p.runFrom here before ts best cs).map (Span.moved place) := by
  induction cs generalizing here before before' ts best with
  | nil =>
    rw [List.flatMap_nil, runFrom_nil, runFrom_nil, started_moved,
      reach_moved place hbefore (.refl none), settled_moved]
  | cons c cs ih =>
    obtain ⟨hc, hrest⟩ := List.forall_mem_cons.1 h
    have hone : place (here + 1) = place here + (write c).length := by
      simpa using hplace 1 (by simp)
    have hplace' (i : Nat) (hle : i ≤ cs.length) :
        place (here + 1 + i) = place (here + 1) + ((cs.take i).flatMap write).length := by
      have hi := hplace (i + 1) (Nat.succ_le_succ hle)
      rw [List.take_succ_cons, List.flatMap_cons, List.length_append] at hi
      rw [hone, Nat.add_assoc, Nat.add_assoc, Nat.add_comm 1 i]
      exact hi
    obtain ⟨last, hlast, hstep⟩ := hc.runFrom place hbefore rfl (cs.flatMap write)
    rw [List.flatMap_cons, runFrom_cons rfl, hstep]
    split
    · rfl
    · rw [← hone]
      exact ih hrest hlast hplace' _ _

/-- Where a search begins makes no difference to what it finds. -/
theorem runFrom_shift (p : Program) (k here : Nat) (before : Option Char) (ts : List Thread)
    (best : Option Span) (cs : List Char) :
    p.runFrom (here + k) before (ts.map (Thread.moved (· + k))) (best.map (Span.moved (· + k))) cs =
      (p.runFrom here before ts best cs).map (Span.moved (· + k)) := by
  have hplace (i : Nat) (hi : i ≤ cs.length) :
      here + i + k = here + k + ((cs.take i).flatMap fun c => [c]).length := by
    rw [List.flatMap_singleton', List.length_take, Nat.min_eq_left hi]
    omega
  have hkept : ∀ c ∈ cs, p.PassesOver (fun c => [c]) c := fun c _ => .kept rfl
  have h := runFrom_written hkept (· + k) (.refl before) hplace ts best
  rwa [List.flatMap_singleton'] at h

theorem PassesOver.of_find {c a z : Char} {u : List Char} (hw : write c = a :: (u ++ [z]))
    (hc : p.Inert c) (ha : p.Inert a) (hz : p.Inert z) (h : p.find none (write c) = none) :
    p.PassesOver write c := by
  refine .written hw hc ha hz fun here => ?_
  rw [hw, find] at h
  rw [runFrom_cons_of_none rfl (settled_of_runFrom_eq_none h), ha.spurned.carried] at h
  have hzero := runFrom_shift p 1 0 (some a) [] none (u ++ [z])
  have hhere := runFrom_shift p here 0 (some a) [] none (u ++ [z])
  rw [Option.map_eq_none_iff.1 (hzero.symm.trans h), Nat.zero_add] at hhere
  exact hhere

theorem find_written (h : ∀ c, p.PassesOver write c) {prev prev' : Option Char}
    (hprev : LooksLike prev prev') (cs : List Char) :
    p.find prev' (cs.flatMap write) =
      (p.find prev cs).map (Span.moved fun i => ((cs.take i).flatMap write).length) := by
  have hplace (i : Nat) (_ : i ≤ cs.length) :
      ((cs.take (0 + i)).flatMap write).length =
        ((cs.take 0).flatMap write).length + ((cs.take i).flatMap write).length := by
    rw [Nat.zero_add, List.take_zero, List.flatMap_nil, List.length_nil, Nat.zero_add]
  exact runFrom_written (fun c _ => h c) (fun i => ((cs.take i).flatMap write).length) hprev hplace
    [] none

/-! Replacement. -/

theorem PassesOver.ne_nil {c : Char} (h : p.PassesOver write c) : write c ≠ [] := by
  cases h with
  | kept hw => simp [hw]
  | written hw => simp [hw]

theorem flatMap_eq_take_append_drop (cs : List Char) (i : Nat) :
    cs.flatMap write = (cs.take i).flatMap write ++ (cs.drop i).flatMap write := by
  rw [← List.flatMap_append, List.take_append_drop]

theorem take_flatMap (cs : List Char) (i : Nat) :
    (cs.flatMap write).take ((cs.take i).flatMap write).length = (cs.take i).flatMap write := by
  rw [flatMap_eq_take_append_drop cs i, List.take_left]

theorem drop_flatMap (cs : List Char) (i : Nat) :
    (cs.flatMap write).drop ((cs.take i).flatMap write).length = (cs.drop i).flatMap write := by
  rw [flatMap_eq_take_append_drop cs i, List.drop_left]

theorem length_flatMap_take_eq_zero (h : ∀ c, p.PassesOver write c) {cs : List Char} {i : Nat}
    (hi : i ≤ cs.length) : ((cs.take i).flatMap write).length = 0 ↔ i = 0 := by
  rw [List.length_eq_zero_iff, List.flatMap_eq_nil_iff]
  constructor
  · intro hnil
    have hempty : cs.take i = [] :=
      List.eq_nil_iff_forall_not_mem.2 fun c hc => (h c).ne_nil (hnil c hc)
    rw [← List.length_eq_zero_iff, List.length_take] at hempty
    omega
  · rintro rfl
    simp

/-- After the first character of a writing, its rest is left as it is. -/
theorem replaceFrom_writing {a z : Char} {u : List Char} (hz : p.Spurns z)
    (hsilent : ∀ here, p.runFrom here (some a) [] none (u ++ [z]) = none) (new : List Char)
    (fuel : Nat) (rest : List Char) :
    p.replaceFrom new (fuel + 1) (some a) false ((u ++ [z]) ++ rest) =
      (u ++ [z]) ++ p.replaceFrom new (fuel + 1) (some z) false rest := by
  have hfind : p.find (some a) ((u ++ [z]) ++ rest) =
      (p.find (some z) rest).map (Span.moved (· + (u ++ [z]).length)) := by
    rw [List.append_assoc, List.singleton_append, find, runFrom_append hz (hsilent 0), find,
      ← runFrom_shift, List.length_append]
    rfl
  cases hf : p.find (some z) rest with
  | none =>
    rw [hf] at hfind
    rw [replaceFrom_of_none hf, replaceFrom_of_none hfind]
  | some s =>
    rw [hf] at hfind
    have hlast : ((u ++ [z]) ++ rest.take s.stop).getLast?.or (some a) =
        (rest.take s.stop).getLast?.or (some z) := by
      rw [List.getLast?_append, List.getLast?_concat, Option.or_assoc]
      rfl
    rw [replaceFrom_of_some hf (by simp), replaceFrom_of_some hfind (by simp), Span.moved]
    dsimp only
    rw [Nat.add_comm s.start, Nat.add_comm s.stop, List.take_length_add_append,
      List.take_length_add_append, List.drop_length_add_append, hlast]
    simp only [List.append_assoc]

/-- Where an empty match is passed over, so is all that is written for the next character. -/
theorem PassesOver.replaceFrom {c : Char} (h : p.PassesOver write c) {prev : Option Char}
    {rest : List Char} {s : Span} (hf : p.find prev (write c ++ rest) = some s) (hs : s.stop = 0)
    (new : List Char) (fuel : Nat) :
    ∃ last, LooksLike (some c) last ∧
      p.replaceFrom new (fuel + 1 + 1) prev true (write c ++ rest) =
        write c ++ p.replaceFrom new (fuel + 1) last false rest := by
  cases h with
  | kept hw =>
    rw [hw, List.singleton_append] at hf ⊢
    exact ⟨some c, .refl (some c), replaceFrom_of_repeated hf hs⟩
  | @written a z u hw hc ha hz hsilent =>
    rw [hw, List.cons_append] at hf ⊢
    refine ⟨some z, hc.mute.looksLike hz.mute, ?_⟩
    rw [replaceFrom_of_repeated hf hs, replaceFrom_writing hz.spurned hsilent]
    rfl

/-- The steps that replacing takes at most. -/
def remaining (afterMatch : Bool) (cs : List Char) : Nat :=
  2 * cs.length + if afterMatch then 0 else 1

theorem remaining_drop {stop : Nat} {afterMatch : Bool} (h : ¬(stop = 0 ∧ afterMatch))
    {cs : List Char} (hstop : stop ≤ cs.length) :
    remaining true (cs.drop stop) < remaining afterMatch cs := by
  rw [remaining, remaining, List.length_drop]
  cases afterMatch with
  | true =>
    have hne : stop ≠ 0 := fun he => h ⟨he, rfl⟩
    simp only [if_true]
    omega
  | false =>
    simp only [if_true, Bool.false_eq_true, if_false]
    omega

/-- Replacing and writing out come to the same in either order. -/
theorem replaceFrom_written (h : ∀ c, p.PassesOver write c) {new : List Char}
    (hnew : new.flatMap write = new) {fuel fuel' : Nat} {prev prev' : Option Char}
    (hprev : LooksLike prev prev') {afterMatch : Bool} {cs : List Char}
    (hfuel : remaining afterMatch cs < fuel) (hfuel' : remaining afterMatch cs < fuel') :
    p.replaceFrom new fuel' prev' afterMatch (cs.flatMap write) =
      (p.replaceFrom new fuel prev afterMatch cs).flatMap write := by
  -- Both replacements take the same steps, so one induction on fuel serves them.
  induction fuel generalizing fuel' prev prev' afterMatch cs with
  | zero => exact absurd hfuel (Nat.not_lt_zero _)
  | succ fuel ih =>
    obtain _ | fuel' := fuel'
    · exact absurd hfuel' (Nat.not_lt_zero _)
    have hfind := find_written h hprev cs
    cases hf : p.find prev cs with
    | none =>
      rw [hf] at hfind
      rw [replaceFrom_of_none hf, replaceFrom_of_none hfind]
    | some s =>
      rw [hf] at hfind
      have hstop : s.stop ≤ cs.length := (find_within hf).stop_le
      have hzero := length_flatMap_take_eq_zero h hstop
      by_cases hskip : s.stop = 0 ∧ afterMatch
      · obtain ⟨hs, rfl⟩ := hskip
        obtain _ | ⟨c, cs⟩ := cs
        · rw [replaceFrom_of_last hf hs]
          exact replaceFrom_of_last hfind (hzero.2 hs)
        · have hrest : remaining true (c :: cs) = remaining false cs + 1 := by
            simp only [remaining, List.length_cons, if_true, Bool.false_eq_true, if_false]
            omega
          obtain _ | fuel' := fuel'
          · omega
          rw [List.flatMap_cons] at hfind
          obtain ⟨last, hlast, hstep⟩ := (h c).replaceFrom hfind (hzero.2 hs) new fuel'
          rw [replaceFrom_of_repeated hf hs, List.flatMap_cons, List.flatMap_cons, hstep,
            ih hlast (by omega) (by omega)]
      · have hskip' : ¬(((cs.take s.stop).flatMap write).length = 0 ∧ afterMatch) := by
          rwa [hzero]
        have hless := remaining_drop hskip hstop
        rw [replaceFrom_of_some hf hskip, replaceFrom_of_some hfind hskip', Span.moved]
        dsimp only
        rw [take_flatMap, take_flatMap, drop_flatMap, List.flatMap_append, List.flatMap_append,
          hnew, ih (PassesOver.looksLike_last (fun c _ => h c) hprev) (by omega) (by omega)]

theorem length_le_flatMap (h : ∀ c, p.PassesOver write c) (cs : List Char) :
    cs.length ≤ (cs.flatMap write).length := by
  induction cs with
  | nil => exact Nat.zero_le _
  | cons c cs ih =>
    have hc : 0 < (write c).length := List.length_pos_iff.2 (h c).ne_nil
    rw [List.flatMap_cons, List.length_append, List.length_cons]
    omega

theorem replaceAll_written (h : ∀ c, p.PassesOver write c) {new : String}
    (hnew : new.toList.flatMap write = new.toList) (text : String) :
    p.replaceAll new (String.ofList (text.toList.flatMap write)) =
      String.ofList ((p.replaceAll new text).toList.flatMap write) := by
  have hlength := length_le_flatMap h text.toList
  have hfuel : remaining false text.toList < 2 * text.toList.length + 2 := Nat.lt_succ_self _
  have hfuel' : remaining false text.toList < 2 * (text.toList.flatMap write).length + 2 := by
    omega
  rw [replaceAll, replaceAll, String.toList_ofList, String.toList_ofList,
    replaceFrom_written h hnew (.refl none) hfuel hfuel']

end
end Program
end ErrorGuide.Pattern
