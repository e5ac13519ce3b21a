import ErrorGuide.Proofs.Pattern.Rewriting
import ErrorGuide.Proofs.Template.Tokens
import ErrorGuide.Proofs.Text.Lines
import Mathlib

/-! Placeholders as the matches of a pattern. Its search comes to the first token of a text, so
replacing all of its matches fills the segments of a template. -/

namespace ErrorGuide.Template
open Pattern Pattern.Program

/-- Two opening braces, as few characters as possible, two closing braces and all that follow. -/
def placeholderPattern : String := "(?s)\\\x7b\\\x7b(.*?)\\\x7d\\\x7d+"

/-- The pattern as a program. The steps 8 and 7 take the opening braces, the steps 6 to 4 what is
inside, and the steps 3 to 1 the closing braces. -/
def placeholder : Program where
  steps := #[.done, .fork 2 0, .take (.single '\x7d') 1, .take (.single '\x7d') 2, .fork 3 5,
    .take .all 4, .fork 3 5, .take (.single '\x7b') 6, .take (.single '\x7b') 7]
  start := 8

theorem compile_placeholderPattern : compile placeholderPattern = .ok placeholder := by
  cbv

/-! Threads. -/

theorem contains_single (a c : Char) : (CharSet.single a).contains c = decide (c = a) := by
  rw [CharSet.single, CharSet.contains, Bool.eq_iff_iff, decide_eq_true_eq]
  simp only [Unicode.Ranges.mem]
  constructor
  · intro h
    apply Char.toNat_inj.1
    split at h
    · cases h
    · simp at h
      omega
  · rintro rfl
    simp

theorem contains_all (c : Char) : CharSet.all.contains c = true := by
  have hmax : c.toNat ≤ 0x10FFFF := by
    rcases c.valid with h | ⟨-, h⟩
    · exact Nat.le_of_lt (Nat.lt_trans h (by decide))
    · exact Nat.le_of_lt_succ h
  simp [CharSet.all, CharSet.contains, Unicode.Ranges.mem, hmax]

variable {c : Char} {s : Nat}

@[simp] theorem advance_inside : placeholder.advance c ⟨5, s⟩ = some ⟨4, s⟩ :=
  if_pos (contains_all c)

@[simp] theorem advance_openFirst :
    placeholder.advance c ⟨8, s⟩ = if c = '\x7b' then some ⟨7, s⟩ else none := by
  simp [advance, placeholder, contains_single]

@[simp] theorem advance_openSecond :
    placeholder.advance c ⟨7, s⟩ = if c = '\x7b' then some ⟨6, s⟩ else none := by
  simp [advance, placeholder, contains_single]

@[simp] theorem advance_closeFirst :
    placeholder.advance c ⟨3, s⟩ = if c = '\x7d' then some ⟨2, s⟩ else none := by
  simp [advance, placeholder, contains_single]

@[simp] theorem advance_closeNext :
    placeholder.advance c ⟨2, s⟩ = if c = '\x7d' then some ⟨1, s⟩ else none := by
  simp [advance, placeholder, contains_single]

@[simp] theorem isDone_done : placeholder.isDone ⟨0, s⟩ = true := rfl

@[simp] theorem isDone_closeNext : placeholder.isDone ⟨2, s⟩ = false := rfl

@[simp] theorem isDone_closeFirst : placeholder.isDone ⟨3, s⟩ = false := rfl

@[simp] theorem isDone_inside : placeholder.isDone ⟨5, s⟩ = false := rfl

@[simp] theorem isDone_openSecond : placeholder.isDone ⟨7, s⟩ = false := rfl

@[simp] theorem isDone_openFirst : placeholder.isDone ⟨8, s⟩ = false := rfl

/-! The search, from its end to its start. Threads come in the order of their precedence, and of two
that come to one step the first is kept, so what started later never gets ahead of the first pair of
opening braces. -/

variable {here : Nat} {before : Option Char} {cs : List Char}

def closingRun (cs : List Char) : List Char := cs.takeWhile (· = '\x7d')

/-- Once there is a match, all closing braces that follow are taken in. -/
theorem runFrom_matched (best : Span) (cs : List Char) (here : Nat) (before : Option Char) :
    placeholder.runFrom here before [⟨1, s⟩] (some best) cs =
      some ⟨s, here + (closingRun cs).length⟩ := by
  induction cs generalizing here before best with
  | nil => cbv
  | cons c cs ih =>
    have hreach : placeholder.reach before (some c)
        (placeholder.started here [⟨1, s⟩] (some best)) = [⟨2, s⟩, ⟨0, s⟩] := by cbv
    have hsettled : placeholder.settled here [⟨2, s⟩, ⟨0, s⟩] (some best) = some ⟨s, here⟩ := by cbv
    rw [runFrom_cons hreach, hsettled]
    by_cases hc : c = '\x7d'
    · have hcarried : placeholder.carried c [⟨2, s⟩, ⟨0, s⟩] = [⟨1, s⟩] := by
        simp [carried, hc]
      have hlength : (closingRun (c :: cs)).length = (closingRun cs).length + 1 := by
        simp [closingRun, hc]
      rw [hcarried, ih, hlength, Nat.add_right_comm, Nat.add_assoc]
      rfl
    · simp [carried, hc, closingRun]

/-- At a first match, all closing braces that follow are taken in. -/
theorem runFrom_closed (cs : List Char) (here : Nat) (before : Option Char) :
    placeholder.runFrom here before [⟨1, s⟩, ⟨2, s⟩, ⟨4, s⟩] none cs =
      some ⟨s, here + (closingRun cs).length⟩ := by
  cases cs with
  | nil => cbv
  | cons c cs =>
    have hreach : placeholder.reach before (some c)
        (placeholder.started here [⟨1, s⟩, ⟨2, s⟩, ⟨4, s⟩] none) =
          [⟨2, s⟩, ⟨0, s⟩, ⟨3, s⟩, ⟨5, s⟩, ⟨8, here⟩] := by cbv
    have hsettled : placeholder.settled here
        [⟨2, s⟩, ⟨0, s⟩, ⟨3, s⟩, ⟨5, s⟩, ⟨8, here⟩] none = some ⟨s, here⟩ := by cbv
    rw [runFrom_cons hreach, hsettled]
    by_cases hc : c = '\x7d'
    · have hcarried : placeholder.carried c
          [⟨2, s⟩, ⟨0, s⟩, ⟨3, s⟩, ⟨5, s⟩, ⟨8, here⟩] = [⟨1, s⟩] := by
        simp [carried, hc]
      have hlength : (closingRun (c :: cs)).length = (closingRun cs).length + 1 := by
        simp [closingRun, hc]
      rw [hcarried, runFrom_matched, hlength, Nat.add_right_comm, Nat.add_assoc]
      rfl
    · simp [carried, hc, closingRun]

/-- The match that starts at `s` and has its closing braces in `cs`, a text that starts at `here`. -/
def spanFrom (s here : Nat) (cs : List Char) : Option Span :=
  (splitClose cs).map fun (inside, after) =>
    ⟨s, here + inside.length + 2 + (closingRun after).length⟩

theorem spanFrom_close (s here : Nat) (cs : List Char) :
    spanFrom s here ('\x7d' :: '\x7d' :: cs) = some ⟨s, here + 2 + (closingRun cs).length⟩ := rfl

theorem spanFrom_cons {c : Char} (h : ¬(c = '\x7d' ∧ cs.head? = some '\x7d')) :
    spanFrom s here (c :: cs) = spanFrom s (here + 1) cs := by
  rw [spanFrom, spanFrom, splitClose, if_neg h, Option.map_map]
  congr 1
  funext parts
  simp only [Function.comp_apply, List.length_cons, Span.mk.injEq, true_and]
  omega

def later (x y : Option Nat) : List Thread := x.toList.map (Thread.mk 6) ++ y.toList.map (Thread.mk 7)

def reachedInside (s here : Nat) (y : Option Nat) : List Thread :=
  ⟨3, s⟩ :: ⟨5, s⟩ :: (later none y ++ [⟨8, here⟩])

def reachedHalf (s here : Nat) : List Thread := [⟨2, s⟩, ⟨3, s⟩, ⟨5, s⟩, ⟨8, here⟩]

theorem runFrom_later (x y : Option Nat) :
    placeholder.runFrom here before (⟨4, s⟩ :: later x y) none (c :: cs) =
      placeholder.runFrom (here + 1) (some c)
        (placeholder.carried c (reachedInside s here y)) none cs := by
  apply runFrom_cons_of_none
  · cases x <;> cases y <;> cbv
  · cases y <;> cbv

theorem runFrom_half :
    placeholder.runFrom here before [⟨2, s⟩, ⟨4, s⟩] none (c :: cs) =
      placeholder.runFrom (here + 1) (some c)
        (placeholder.carried c (reachedHalf s here)) none cs :=
  runFrom_cons_of_none (by cbv) (by cbv)

theorem carried_inside_close (y : Option Nat) :
    placeholder.carried '\x7d' (reachedInside s here y) = [⟨2, s⟩, ⟨4, s⟩] := by
  cases y <;> simp [carried, reachedInside, later]

theorem carried_half_close :
    placeholder.carried '\x7d' (reachedHalf s here) = [⟨1, s⟩, ⟨2, s⟩, ⟨4, s⟩] := by
  simp [carried, reachedHalf]

theorem carried_inside (s here : Nat) (y : Option Nat) (hc : c ≠ '\x7d') :
    ∃ x' y', placeholder.carried c (reachedInside s here y) = ⟨4, s⟩ :: later x' y' := by
  by_cases hopen : c = '\x7b'
  · refine ⟨y, some here, ?_⟩
    cases y <;> simp [carried, reachedInside, later, hopen]
  · refine ⟨none, none, ?_⟩
    cases y <;> simp [carried, reachedInside, later, hopen, hc]

theorem carried_half (s here : Nat) (hc : c ≠ '\x7d') :
    ∃ y', placeholder.carried c (reachedHalf s here) = ⟨4, s⟩ :: later none y' := by
  by_cases hopen : c = '\x7b'
  · exact ⟨some here, by simp [carried, reachedHalf, later, hopen]⟩
  · exact ⟨none, by simp [carried, reachedHalf, later, hopen, hc]⟩

/-- Inside a token, before any closing brace or after one that stands alone, the nearest pair of
closing braces ends the match. -/
theorem runFrom_inside (cs : List Char) :
    (∀ here before x y, placeholder.runFrom here before (⟨4, s⟩ :: later x y) none cs =
      spanFrom s here cs) ∧
    (cs.head? ≠ some '\x7d' → ∀ here before,
      placeholder.runFrom here before [⟨2, s⟩, ⟨4, s⟩] none cs = spanFrom s here cs) := by
  induction cs with
  | nil =>
    constructor
    · intro here before x y
      cases x <;> cases y <;> cbv
    · intro _ here before
      cbv
  | cons c cs ih =>
    constructor
    · intro here before x y
      rw [runFrom_later]
      by_cases hclose : c = '\x7d'
      · subst hclose
        rw [carried_inside_close]
        by_cases hhead : cs.head? = some '\x7d'
        · obtain ⟨rest, rfl⟩ := List.head?_eq_some_iff.1 hhead
          rw [runFrom_half, carried_half_close, runFrom_closed, spanFrom_close]
        · rw [ih.2 hhead, spanFrom_cons fun h => hhead h.2]
      · obtain ⟨x', y', hcarried⟩ := carried_inside s here y hclose
        rw [hcarried, ih.1, spanFrom_cons fun h => hclose h.1]
    · intro hhead here before
      have hclose : c ≠ '\x7d' := fun hc => hhead (hc ▸ rfl)
      obtain ⟨y', hcarried⟩ := carried_half s here hclose
      rw [runFrom_half, hcarried, ih.1, spanFrom_cons fun h => hclose h.1]

def firstSpan (here : Nat) : List Char → Option Span
  | [] => none
  | c :: cs =>
    if c = '\x7b' ∧ cs.head? = some '\x7b' then spanFrom here (here + 2) cs.tail
    else firstSpan (here + 1) cs

theorem runFrom_outside_cons :
    placeholder.runFrom here before [] none (c :: cs) =
      placeholder.runFrom (here + 1) (some c) (if c = '\x7b' then [⟨7, here⟩] else []) none cs := by
  have hcarried : placeholder.carried c [⟨8, here⟩] = if c = '\x7b' then [⟨7, here⟩] else [] := by
    by_cases hopen : c = '\x7b' <;> simp [carried, hopen]
  rw [← hcarried]
  exact runFrom_cons_of_none (by cbv) (by cbv)

theorem runFrom_opened_cons :
    placeholder.runFrom here before [⟨7, s⟩] none (c :: cs) =
      placeholder.runFrom (here + 1) (some c)
        (if c = '\x7b' then [⟨6, s⟩, ⟨7, here⟩] else []) none cs := by
  have hcarried : placeholder.carried c [⟨7, s⟩, ⟨8, here⟩] =
      if c = '\x7b' then [⟨6, s⟩, ⟨7, here⟩] else [] := by
    by_cases hopen : c = '\x7b' <;> simp [carried, hopen]
  rw [← hcarried]
  exact runFrom_cons_of_none (by cbv) (by cbv)

/-- The step that a token is entered by leads to what every later place of it leads to. -/
theorem runFrom_entered (y : Option Nat) (cs : List Char) :
    placeholder.runFrom here before (⟨6, s⟩ :: later none y) none cs =
      placeholder.runFrom here before (⟨4, s⟩ :: later none y) none cs := by
  cases cs with
  | nil => cases y <;> cbv
  | cons c cs =>
    rw [runFrom_later]
    apply runFrom_cons_of_none
    · cases y <;> cbv
    · cases y <;> cbv

/-- Outside of tokens, before any opening brace or after one that stands alone, the leftmost pair of
opening braces starts the match. -/
theorem runFrom_outside (cs : List Char) :
    (∀ here before, placeholder.runFrom here before [] none cs = firstSpan here cs) ∧
    (cs.head? ≠ some '\x7b' → ∀ here before s,
      placeholder.runFrom here before [⟨7, s⟩] none cs = firstSpan here cs) := by
  induction cs with
  | nil =>
    constructor
    · intro here before
      cbv
    · intro _ here before s
      cbv
  | cons c cs ih =>
    constructor
    · intro here before
      rw [runFrom_outside_cons, firstSpan]
      by_cases hopen : c = '\x7b'
      · rw [if_pos hopen]
        by_cases hhead : cs.head? = some '\x7b'
        · obtain ⟨rest, rfl⟩ := List.head?_eq_some_iff.1 hhead
          rw [if_pos ⟨hopen, hhead⟩, runFrom_opened_cons, if_pos rfl]
          exact (runFrom_entered (some (here + 1)) rest).trans
            ((runFrom_inside rest).1 _ _ none (some (here + 1)))
        · rw [if_neg fun h => hhead h.2, ih.2 hhead]
      · rw [if_neg hopen, if_neg fun h => hopen h.1, ih.1]
    · intro hhead here before s
      have hopen : ¬c = '\x7b' := fun hc => hhead (hc ▸ rfl)
      rw [runFrom_opened_cons, if_neg hopen, ih.1, firstSpan, if_neg fun h => hopen h.1]

theorem find_placeholder (prev : Option Char) (cs : List Char) :
    placeholder.find prev cs = firstSpan 0 cs :=
  (runFrom_outside cs).1 0 prev

/-! Matches are tokens. -/

theorem firstSpan_eq_none (h : ¬HasToken cs) : firstSpan here cs = none := by
  induction cs generalizing here with
  | nil => rfl
  | cons c cs ih =>
    rw [firstSpan]
    by_cases hopen : c = '\x7b' ∧ cs.head? = some '\x7b'
    · obtain ⟨rest, rfl⟩ := List.head?_eq_some_iff.1 hopen.2
      have hnone : splitClose rest = none := by
        rw [splitClose_eq_none_iff]
        intro hclosing
        obtain ⟨inside, after, rfl⟩ := hclosing
        exact h ⟨[], inside, after, by rw [hopen.1]; rfl⟩
      rw [if_pos hopen, spanFrom, List.tail_cons, hnone]
      rfl
    · rw [if_neg hopen]
      exact ih fun htoken => h htoken.cons

theorem firstSpan_of_firstToken {before inside extra rest : List Char}
    (h : FirstToken cs before inside extra rest) :
    firstSpan here cs = some ⟨here + before.length,
      here + before.length + 2 + inside.length + 2 + extra.length⟩ := by
  induction cs generalizing here before with
  | nil => exact absurd h.length_rest (Nat.not_lt_zero _)
  | cons c cs ih =>
    rw [firstSpan]
    by_cases hopen : c = '\x7b' ∧ cs.head? = some '\x7b'
    · obtain ⟨tail, rfl⟩ := List.head?_eq_some_iff.1 hopen.2
      rw [if_pos hopen, spanFrom, List.tail_cons]
      cases hclose : splitClose tail with
      | none => exact absurd h.hasToken.hasClosing (splitClose_eq_none_iff.1 hclose)
      | some parts =>
        have hfirst := firstToken_of_splitClose hclose
        rw [hopen.1] at h
        obtain ⟨rfl, rfl, rfl, -⟩ := hfirst.unique h
        rfl
    · rw [if_neg hopen]
      obtain ⟨before', inside', extra', rest', h'⟩ :=
        (h.hasToken.tail hopen).exists_firstToken
      obtain ⟨rfl, rfl, rfl, rfl⟩ := (h'.cons hopen).unique h
      rw [ih h', List.length_cons]
      simp only [Option.some.injEq, Span.mk.injEq]
      omega

def tokenText (inside extra : List Char) : List Char := opening ++ (inside ++ (closing ++ extra))

/-- The braces around a key are no part of it, whichever of them are counted in. -/
theorem keyOf_token {extra : List Char} (h : ∀ c ∈ extra, c = '\x7d') (inside : List Char) :
    keyOf (tokenText inside extra) = keyOf inside := by
  have hopening : ∀ c ∈ opening, isKeyMargin c = true := List.all_eq_true.1 (by decide)
  have hclosing : ∀ c ∈ closing ++ extra, isKeyMargin c = true := by
    intro c hc
    rcases List.mem_append.1 hc with hpair | hextra
    · have hall : ∀ c ∈ closing, isKeyMargin c = true := List.all_eq_true.1 (by decide)
      exact hall c hpair
    · rw [h c hextra]
      rfl
  rw [keyOf, keyOf, tokenText, Text.strip_prepend _ hopening, Text.strip_append _ hclosing]

def valueIn (ctx : Context) (found : String) : String := ctx.get (keyOf found.toList)

theorem rewriteFrom_of_scans {segments : List Segment} (h : Scans cs segments) (ctx : Context)
    {fuel : Nat} (hfuel : cs.length < fuel) (prev : Option Char) (afterMatch : Bool) :
    placeholder.rewriteFrom (fun found => (valueIn ctx (String.ofList found)).toList) fuel prev
      afterMatch cs = segments.flatMap (Segment.fill ctx) := by
  induction h generalizing fuel prev afterMatch with
  | @done cs hno =>
    obtain ⟨fuel, rfl⟩ := Nat.exists_eq_add_one_of_ne_zero (Nat.ne_of_gt (Nat.zero_lt_of_lt hfuel))
    have hfind : placeholder.find prev cs = none := by
      rw [find_placeholder, firstSpan_eq_none hno]
    rw [rewriteFrom_of_none hfind]
    simp [Segment.fill]
  | @token cs before inside extra rest segments first scans ih =>
    obtain ⟨fuel, rfl⟩ := Nat.exists_eq_add_one_of_ne_zero (Nat.ne_of_gt (Nat.zero_lt_of_lt hfuel))
    have hsplit : cs = (before ++ tokenText inside extra) ++ rest := by
      rw [first.split, tokenText]
      simp only [List.append_assoc]
    have hlength : (before ++ tokenText inside extra).length =
        0 + before.length + 2 + inside.length + 2 + extra.length := by
      simp only [tokenText, opening, closing, List.length_append, List.length_cons, List.length_nil]
      omega
    have hfind : placeholder.find prev cs =
        some ⟨before.length, (before ++ tokenText inside extra).length⟩ := by
      rw [find_placeholder, firstSpan_of_firstToken first, hlength, Nat.zero_add]
    have hbefore : cs.take before.length = before := by
      rw [hsplit, List.append_assoc, List.take_left]
    have htaken : cs.take (before ++ tokenText inside extra).length =
        before ++ tokenText inside extra := by
      rw [hsplit, List.take_left]
    have hdropped : cs.drop (before ++ tokenText inside extra).length = rest := by
      rw [hsplit, List.drop_left]
    have hrest : rest.length < fuel := Nat.lt_of_lt_of_le first.length_rest (Nat.le_of_lt_succ hfuel)
    have hstop : (before ++ tokenText inside extra).length ≠ 0 := by omega
    rw [rewriteFrom_of_some hfind hstop]
    dsimp only
    rw [hbefore, htaken, hdropped, List.drop_left, ih hrest, valueIn, String.toList_ofList,
      keyOf_token first.extra_eq, List.flatMap_cons, List.flatMap_cons, Segment.fill_key,
      List.append_assoc]
    rfl

end ErrorGuide.Template
