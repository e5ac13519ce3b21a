import ErrorGuide.Template.Basic
import Mathlib.Data.List.TakeWhile

/-! The tokens of a template, said by how they divide it. A token goes from the leftmost pair of
opening braces that has a pair of closing ones after it to the nearest such pair, and takes in the
closing braces right after that. Cutting the first token out of what is left, again and again, gives
the segments of a template; the pieces that are read of it are these. -/

namespace ErrorGuide.Template

def opening : List Char := ['\x7b', '\x7b']

def closing : List Char := ['\x7d', '\x7d']

def HasToken (cs : List Char) : Prop :=
  ∃ before inside rest, cs = before ++ (opening ++ (inside ++ (closing ++ rest)))

def HasClosing (cs : List Char) : Prop := ∃ inside rest, cs = inside ++ (closing ++ rest)

structure Closes (cs inside after : List Char) : Prop where
  split : cs = inside ++ (closing ++ after)
  nearest : ∀ inside' after', cs = inside' ++ (closing ++ after') → inside.length ≤ inside'.length

/-- The first token of a text, which has `inside` between its pairs of braces and the braces `extra`
after them. -/
structure FirstToken (cs before inside extra rest : List Char) : Prop where
  split : cs = before ++ (opening ++ (inside ++ (closing ++ (extra ++ rest))))
  leftmost : ∀ before' inside' rest',
    cs = before' ++ (opening ++ (inside' ++ (closing ++ rest'))) → before.length ≤ before'.length
  nearest : Closes (inside ++ (closing ++ (extra ++ rest))) inside (extra ++ rest)
  extra_eq : ∀ c ∈ extra, c = '\x7d'
  rest_head : rest.head? ≠ some '\x7d'

variable {cs before inside extra rest after : List Char}

theorem FirstToken.hasToken (h : FirstToken cs before inside extra rest) : HasToken cs :=
  ⟨before, inside, extra ++ rest, h.split⟩

theorem FirstToken.length_rest (h : FirstToken cs before inside extra rest) :
    rest.length < cs.length := by
  rw [h.split]
  simp only [opening, List.length_append, List.length_cons]
  omega

theorem HasToken.cons {c : Char} (h : HasToken cs) : HasToken (c :: cs) := by
  obtain ⟨before, inside, rest, rfl⟩ := h
  exact ⟨c :: before, inside, rest, rfl⟩

/-- A token that does not start at the first character is one of the rest. -/
theorem HasToken.tail {c : Char} (h : HasToken (c :: cs))
    (hstart : ¬(c = '\x7b' ∧ cs.head? = some '\x7b')) : HasToken cs := by
  obtain ⟨before, inside, rest, hsplit⟩ := h
  cases before with
  | nil =>
    obtain ⟨hc, hcs⟩ := List.cons.inj hsplit
    rw [hcs] at hstart
    exact absurd ⟨hc, rfl⟩ hstart
  | cons b before =>
    obtain ⟨-, hcs⟩ := List.cons.inj hsplit
    exact ⟨before, inside, rest, hcs⟩

/-- The closing braces of a token come after two other characters. -/
theorem HasToken.hasClosing {a b : Char} (h : HasToken (a :: b :: cs)) : HasClosing cs := by
  obtain ⟨before, inside, rest, hsplit⟩ := h
  match before with
  | [] => exact ⟨inside, rest, (List.cons.inj (List.cons.inj hsplit).2).2⟩
  | [_] => exact ⟨'\x7b' :: inside, rest, (List.cons.inj (List.cons.inj hsplit).2).2⟩
  | _ :: _ :: before =>
    refine ⟨before ++ (opening ++ inside), rest, ?_⟩
    rw [List.append_assoc, List.append_assoc]
    exact (List.cons.inj (List.cons.inj hsplit).2).2

/-! The nearest pair of closing braces. -/

theorem hasClosing_cons_iff {c : Char} :
    HasClosing (c :: cs) ↔ (c = '\x7d' ∧ cs.head? = some '\x7d') ∨ HasClosing cs := by
  constructor
  · intro h
    obtain ⟨inside, rest, hsplit⟩ := h
    cases inside with
    | nil =>
      obtain ⟨hc, hcs⟩ := List.cons.inj hsplit
      exact .inl ⟨hc, hcs ▸ rfl⟩
    | cons b inside => exact .inr ⟨inside, rest, (List.cons.inj hsplit).2⟩
  · intro h
    rcases h with ⟨hc, hhead⟩ | ⟨inside, rest, hcs⟩
    · obtain ⟨rest, hcs⟩ := List.head?_eq_some_iff.1 hhead
      exact ⟨[], rest, by rw [hc, hcs]; rfl⟩
    · exact ⟨c :: inside, rest, by rw [hcs]; rfl⟩

theorem splitClose_eq_none_iff : splitClose cs = none ↔ ¬HasClosing cs := by
  induction cs with
  | nil =>
    refine iff_of_true rfl fun h => ?_
    obtain ⟨inside, rest, hsplit⟩ := h
    cases inside <;> cases hsplit
  | cons c cs ih =>
    rw [splitClose, hasClosing_cons_iff]
    by_cases hclose : c = '\x7d' ∧ cs.head? = some '\x7d'
    · simp [hclose]
    · rw [if_neg hclose, Option.map_eq_none_iff, ih]
      simp [hclose]

theorem closes_of_splitClose (h : splitClose cs = some (inside, after)) :
    Closes cs inside after := by
  induction cs generalizing inside with
  | nil => cases h
  | cons c cs ih =>
    rw [splitClose] at h
    by_cases hclose : c = '\x7d' ∧ cs.head? = some '\x7d'
    · rw [if_pos hclose] at h
      obtain ⟨rfl, rfl⟩ := Prod.mk.inj (Option.some.inj h)
      obtain ⟨tail, htail⟩ := List.head?_eq_some_iff.1 hclose.2
      refine ⟨?_, fun _ _ _ => Nat.zero_le _⟩
      rw [hclose.1, htail]
      rfl
    · rw [if_neg hclose] at h
      obtain ⟨⟨inside, after⟩, hrest, heq⟩ := Option.map_eq_some_iff.1 h
      obtain ⟨rfl, rfl⟩ := Prod.mk.inj heq
      obtain ⟨hsplit, hnearest⟩ := ih hrest
      refine ⟨by rw [hsplit]; rfl, ?_⟩
      intro inside' after' hsplit'
      cases inside' with
      | nil =>
        obtain ⟨hc, hcs⟩ := List.cons.inj hsplit'
        exact absurd ⟨hc, hcs ▸ rfl⟩ hclose
      | cons b inside' =>
        exact Nat.succ_le_succ (hnearest inside' after' (List.cons.inj hsplit').2)

theorem Closes.unique {inside' after' : List Char} (h : Closes cs inside after)
    (h' : Closes cs inside' after') : inside' = inside ∧ after' = after := by
  have hlength : inside'.length = inside.length :=
    Nat.le_antisymm (h'.nearest _ _ h.split) (h.nearest _ _ h'.split)
  obtain ⟨rfl, hclosing⟩ := List.append_inj (h'.split.symm.trans h.split) hlength
  exact ⟨rfl, List.append_cancel_left hclosing⟩

/-! The first token. -/

theorem afterClose_extra (h : ∀ c ∈ extra, c = '\x7d') (hrest : rest.head? ≠ some '\x7d') :
    afterClose (extra ++ rest) = rest := by
  rw [afterClose, List.dropWhile_append_of_pos (by simpa using h)]
  cases rest with
  | nil => rfl
  | cons c rest =>
    have hc : ¬c = '\x7d' := fun hc => hrest (hc ▸ rfl)
    exact List.dropWhile_cons_of_neg (by simpa using hc)

theorem FirstToken.unique {before' inside' extra' rest' : List Char}
    (h : FirstToken cs before inside extra rest) (h' : FirstToken cs before' inside' extra' rest') :
    before' = before ∧ inside' = inside ∧ extra' = extra ∧ rest' = rest := by
  have hlength : before'.length = before.length :=
    Nat.le_antisymm (h'.leftmost _ _ _ h.split) (h.leftmost _ _ _ h'.split)
  obtain ⟨rfl, hopening⟩ := List.append_inj (h'.split.symm.trans h.split) hlength
  have hinside := List.append_cancel_left hopening
  have hcloses := h'.nearest
  rw [hinside] at hcloses
  obtain ⟨rfl, hafter⟩ := h.nearest.unique hcloses
  have hrest : rest' = rest := by
    rw [← afterClose_extra h'.extra_eq h'.rest_head, hafter,
      afterClose_extra h.extra_eq h.rest_head]
  subst hrest
  exact ⟨rfl, rfl, List.append_cancel_right hafter, rfl⟩

theorem firstToken_of_splitClose (h : splitClose cs = some (inside, after)) :
    FirstToken (opening ++ cs) [] inside (after.takeWhile (· = '\x7d')) (afterClose after) := by
  have hcloses := closes_of_splitClose h
  have hafter : after.takeWhile (· = '\x7d') ++ afterClose after = after :=
    List.takeWhile_append_dropWhile
  refine ⟨?_, fun _ _ _ _ => Nat.zero_le _, ?_, ?_, ?_⟩
  · rw [hafter, ← hcloses.split]
    rfl
  · rw [hafter, ← hcloses.split]
    exact hcloses
  · intro c hc
    simpa using List.mem_takeWhile_imp hc
  · intro hhead
    have hnot := List.head?_dropWhile_not (fun c => decide (c = '\x7d')) after
    rw [← afterClose, hhead] at hnot
    cases hnot

theorem FirstToken.cons {c : Char} (h : FirstToken cs before inside extra rest)
    (hstart : ¬(c = '\x7b' ∧ cs.head? = some '\x7b')) :
    FirstToken (c :: cs) (c :: before) inside extra rest where
  split := by
    rw [h.split]
    rfl
  leftmost := by
    intro before' inside' rest' hsplit
    cases before' with
    | nil =>
      obtain ⟨hc, hcs⟩ := List.cons.inj hsplit
      exact absurd ⟨hc, hcs ▸ rfl⟩ hstart
    | cons b before' =>
      exact Nat.succ_le_succ (h.leftmost before' inside' rest' (List.cons.inj hsplit).2)
  nearest := h.nearest
  extra_eq := h.extra_eq
  rest_head := h.rest_head

/-- The pieces of a text are those of its first token and what is around it. Without a token all
characters stand for themselves. -/
theorem pieces_cases (cs : List Char) :
    (∃ before inside extra rest, FirstToken cs before inside extra rest ∧
      pieces cs = before.map .literal ++ .placeholder (keyOf inside) :: pieces rest) ∨
    (¬HasToken cs ∧ pieces cs = cs.map .literal) := by
  fun_induction pieces cs with
  | case1 =>
    refine .inr ⟨fun h => ?_, rfl⟩
    obtain ⟨before, inside, rest, hsplit⟩ := h
    cases before <;> cases hsplit
  | case2 c cs hopen inside after hclose ih =>
    obtain ⟨tail, rfl⟩ := List.head?_eq_some_iff.1 hopen.2
    have hfirst := firstToken_of_splitClose hclose
    rw [hopen.1]
    exact .inl ⟨[], inside, _, _, hfirst, rfl⟩
  | case3 c cs hopen hclose ih =>
    -- No closing braces follow, so there is no token here or later.
    obtain ⟨tail, rfl⟩ := List.head?_eq_some_iff.1 hopen.2
    have hno : ¬HasToken (c :: '\x7b' :: tail) := fun h =>
      splitClose_eq_none_iff.1 hclose h.hasClosing
    rcases ih with ⟨before, inside, extra, rest, hfirst, -⟩ | ⟨-, hpieces⟩
    · exact absurd hfirst.hasToken.cons hno
    · exact .inr ⟨hno, by rw [hpieces]; rfl⟩
  | case4 c cs hopen ih =>
    rcases ih with ⟨before, inside, extra, rest, hfirst, hpieces⟩ | ⟨hno, hpieces⟩
    · exact .inl ⟨c :: before, inside, extra, rest, hfirst.cons hopen, by rw [hpieces]; rfl⟩
    · exact .inr ⟨fun h => hno (h.tail hopen), by rw [hpieces]; rfl⟩

theorem FirstToken.pieces_eq (h : FirstToken cs before inside extra rest) :
    pieces cs = before.map .literal ++ .placeholder (keyOf inside) :: pieces rest := by
  rcases pieces_cases cs with ⟨before', inside', extra', rest', h', hpieces⟩ | ⟨hno, -⟩
  · obtain ⟨rfl, rfl, rfl, rfl⟩ := h.unique h'
    exact hpieces
  · exact absurd h.hasToken hno

theorem pieces_of_not_hasToken (h : ¬HasToken cs) : pieces cs = cs.map .literal := by
  rcases pieces_cases cs with ⟨before, inside, extra, rest, hfirst, -⟩ | ⟨-, hpieces⟩
  · exact absurd hfirst.hasToken h
  · exact hpieces

theorem HasToken.exists_firstToken (h : HasToken cs) :
    ∃ before inside extra rest, FirstToken cs before inside extra rest := by
  rcases pieces_cases cs with ⟨before, inside, extra, rest, hfirst, -⟩ | ⟨hno, -⟩
  · exact ⟨before, inside, extra, rest, hfirst⟩
  · exact absurd h hno

/-! Segments. -/

inductive Segment where
  | text (cs : List Char)
  | key (name : String)
deriving Repr, DecidableEq

def Segment.fill (ctx : Context) : Segment → List Char
  | .text cs => cs
  | .key "loc" => ctx.loc.toList
  | .key "name" => ctx.name.toList
  | .key "codeLine" => ctx.codeLine.toList
  | .key _ => []

theorem Segment.fill_key (ctx : Context) (name : String) :
    (Segment.key name).fill ctx = (ctx.get name).toList := by
  unfold fill Context.get
  split <;> simp_all

/-- The segments of a text: the first token is cut out of it, and then the first one of the rest, as
long as there is one. -/
inductive Scans : List Char → List Segment → Prop
  | done {cs : List Char} (h : ¬HasToken cs) : Scans cs [.text cs]
  | token {cs before inside extra rest : List Char} {segments : List Segment}
      (first : FirstToken cs before inside extra rest) (scans : Scans rest segments) :
      Scans cs (.text before :: .key (keyOf inside) :: segments)

theorem exists_scans (cs : List Char) : ∃ segments, Scans cs segments := by
  by_cases h : HasToken cs
  · obtain ⟨before, inside, extra, rest, hfirst⟩ := h.exists_firstToken
    obtain ⟨segments, hscans⟩ := exists_scans rest
    exact ⟨_, .token hfirst hscans⟩
  · exact ⟨_, .done h⟩
termination_by cs.length
decreasing_by exact hfirst.length_rest

theorem Scans.unique {segments segments' : List Segment} (h : Scans cs segments)
    (h' : Scans cs segments') : segments' = segments := by
  induction h generalizing segments' with
  | done hno =>
    cases h' with
    | done => rfl
    | token first => exact absurd first.hasToken hno
  | token first scans ih =>
    cases h' with
    | done hno => exact absurd first.hasToken hno
    | token first' scans' =>
      obtain ⟨rfl, rfl, rfl, rfl⟩ := first.unique first'
      rw [ih scans']

theorem flatMap_fill_literal (ctx : Context) (cs : List Char) :
    (cs.map Piece.literal).flatMap (Piece.fill ctx) = cs := by
  rw [List.flatMap_map]
  exact List.flatMap_singleton' cs

theorem Scans.flatMap_pieces {segments : List Segment} (h : Scans cs segments) (ctx : Context) :
    (pieces cs).flatMap (Piece.fill ctx) = segments.flatMap (Segment.fill ctx) := by
  induction h with
  | @done cs hno =>
    rw [pieces_of_not_hasToken hno, flatMap_fill_literal, List.flatMap_singleton]
    rfl
  | @token cs before inside extra rest segments first scans ih =>
    rw [first.pieces_eq, List.flatMap_append, flatMap_fill_literal, List.flatMap_cons, ih,
      List.flatMap_cons, List.flatMap_cons, Segment.fill_key]
    rfl

end ErrorGuide.Template
