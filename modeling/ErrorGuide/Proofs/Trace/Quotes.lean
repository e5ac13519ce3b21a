import ErrorGuide.Proofs.Text.Parts
import ErrorGuide.Trace.Tail
import Mathlib.Data.Option.Basic

/-! The name that a message quotes: the first run of characters between two quotes. The quotes need not
be of one kind, so the apostrophe of a word may open what a quotation mark closes. -/

namespace ErrorGuide.Trace
open Text

variable {m name s : List Char}

def IsQuoted (m name _after : List Char) : Prop :=
  ∃ q q', m = q :: (name ++ [q']) ∧ isQuote q = true ∧ isQuote q' = true ∧
    IsRun (!isQuote ·) name

def IsProperlyQuoted (m name _after : List Char) : Prop :=
  ∃ q, m = q :: (name ++ [q]) ∧ isQuote q = true ∧ IsRun (!isQuote ·) name

theorem IsProperlyQuoted.isQuoted (h : IsProperlyQuoted m name s) : IsQuoted m name s := by
  obtain ⟨q, hm, hq, hname⟩ := h
  exact ⟨q, q, hm, hq, hq, hname⟩

theorem isQuote_iff {c : Char} : isQuote c = true ↔ c = '"' ∨ c = '\x27' := by
  rw [isQuote, Bool.or_eq_true, decide_eq_true_eq, decide_eq_true_eq]

/-- Quotes of which there is one kind only are alike. -/
theorem IsQuoted.isProperlyQuoted (h : IsQuoted m name s) (hkind : '"' ∉ m ∨ '\x27' ∉ m) :
    IsProperlyQuoted m name s := by
  obtain ⟨q, q', rfl, hq, hq', hname⟩ := h
  have hmem : q ∈ q :: (name ++ [q']) := List.mem_cons_self
  have hmem' : q' ∈ q :: (name ++ [q']) := by simp
  have hsame : q' = q := by
    rcases isQuote_iff.1 hq with rfl | rfl <;> rcases isQuote_iff.1 hq' with rfl | rfl
    · rfl
    · exact absurd hkind (not_or.2 ⟨not_not.2 hmem, not_not.2 hmem'⟩)
    · exact absurd hkind (not_or.2 ⟨not_not.2 hmem', not_not.2 hmem⟩)
    · rfl
  exact ⟨q, by rw [hsame], hq, hname⟩

theorem quotedScan_cons_eq_some_iff {prev : Option Char} {q : Char} {cs : List Char} :
    quotedScan prev (q :: cs) = some (name, s) ↔
      isQuote q = true ∧ ∃ q', run (!isQuote ·) cs = some (name, q' :: s) := by
  simp only [quotedScan, Option.bind_eq_bind, Option.bind_eq_some_iff, Option.guard_eq_some']
  constructor
  · rintro ⟨_, hq, ⟨taken, rest⟩, hrun, hclose⟩
    cases rest with
    | nil => cases hclose
    | cons q' rest =>
      obtain ⟨rfl, rfl⟩ := Prod.mk.inj (Option.some.inj hclose)
      exact ⟨hq, q', hrun⟩
  · rintro ⟨hq, q', hrun⟩
    exact ⟨(), hq, (name, q' :: s), hrun, rfl⟩

/-- A run without quotes ends at a quote, or at the end of the text. -/
theorem reads_quotedScan : Reads quotedScan IsQuoted := by
  intro prev cs name s
  constructor
  · intro h
    cases cs with
    | nil => cases h
    | cons q cs =>
      obtain ⟨hq, q', hrun⟩ := quotedScan_cons_eq_some_iff.1 h
      obtain ⟨rfl, hname, hrest⟩ := run_eq_some_iff.1 hrun
      have hq' : isQuote q' = true := by simpa using hrest q' rfl
      exact ⟨q :: (name ++ [q']), by simp, q, q', rfl, hq, hq', hname⟩
  · rintro ⟨m, rfl, q, q', rfl, hq, hq', hname⟩
    have hrun : run (!isQuote ·) (name ++ q' :: s) = some (name, q' :: s) := by
      refine run_eq_some_iff.2 ⟨rfl, hname, ?_⟩
      intro c hc
      obtain rfl := Option.some.inj hc
      rw [hq']
      rfl
    rw [List.cons_append, List.append_assoc]
    exact quotedScan_cons_eq_some_iff.2 ⟨hq, q', hrun⟩

theorem quotedName_eq_some_iff {message name : String} :
    quotedName message = some name ↔
      ∃ p m s, FirstPart IsQuoted message.toList p m name.toList s := by
  rw [quotedName, Option.map_eq_some_iff]
  constructor
  · rintro ⟨found, hfound, rfl⟩
    obtain ⟨m, hfirst⟩ := reads_quotedScan.firstPart_of_leftmost hfound
    rw [String.toList_ofList]
    exact ⟨_, m, _, hfirst⟩
  · rintro ⟨p, m, s, hfirst⟩
    exact ⟨_, reads_quotedScan.leftmost_of_firstPart hfirst, String.ofList_toList⟩

theorem quotedName_eq_none_iff {message : String} :
    quotedName message = none ↔ NoPart IsQuoted message.toList := by
  rw [quotedName, Option.map_eq_none_iff]
  exact ⟨reads_quotedScan.noPart_of_leftmost, reads_quotedScan.leftmost_of_noPart⟩

structure ProperlyNamed (message : String) : Prop where
  named : ∀ name, quotedName message = some name →
    ∃ p m s, FirstPart IsProperlyQuoted message.toList p m name.toList s
  unnamed : quotedName message = none ↔ NoPart IsProperlyQuoted message.toList

/-- Where the first quotes are of one kind, no others come before them. -/
theorem properlyNamed_of_first {message : String}
    (h : ∀ p m name s, FirstPart IsQuoted message.toList p m name s → IsProperlyQuoted m name s) :
    ProperlyNamed message where
  named name hname := by
    obtain ⟨p, m, s, hfirst⟩ := quotedName_eq_some_iff.1 hname
    refine ⟨p, m, s, hfirst.split, h _ _ _ _ hfirst, ?_⟩
    intro early m' name' s' hsplit hm'
    exact hfirst.first early m' name' s' hsplit hm'.isQuoted
  unnamed := by
    rw [quotedName_eq_none_iff]
    constructor
    · intro hnone p m name s hsplit hm
      exact hnone p m name s hsplit hm.isQuoted
    · intro hnone
      rw [← quotedName_eq_none_iff]
      cases hname : quotedName message with
      | none => rfl
      | some name =>
        obtain ⟨p, m, s, hfirst⟩ := quotedName_eq_some_iff.1 hname
        exact absurd (h _ _ _ _ hfirst) (hnone _ _ _ _ hfirst.split)

/-- The name that a message quotes is the first run of characters between two quotes of any kind, and it
is absent just if there is none. So it is not empty and has no quotes in it. It is properly quoted if
the first quotes with something between them are of one kind, so in every message without apostrophes
or without quotation marks. -/
theorem quotedName_first (message : String) :
    (∀ name, quotedName message = some name ↔
      ∃ p m s, FirstPart IsQuoted message.toList p m name.toList s) ∧
    (quotedName message = none ↔ NoPart IsQuoted message.toList) ∧
    ((∀ p m name s, FirstPart IsQuoted message.toList p m name s → IsProperlyQuoted m name s) →
      ProperlyNamed message) ∧
    ('"' ∉ message.toList ∨ '\x27' ∉ message.toList → ProperlyNamed message) := by
  refine ⟨fun name => quotedName_eq_some_iff, quotedName_eq_none_iff, properlyNamed_of_first, ?_⟩
  intro hkind
  refine properlyNamed_of_first fun p m name s hfirst => hfirst.part.isProperlyQuoted ?_
  have hsub : m ⊆ message.toList := by
    rw [hfirst.split]
    exact List.subset_append_of_subset_right p (List.subset_append_left m s)
  exact hkind.imp (fun hno hmem => hno (hsub hmem)) fun hno hmem => hno (hsub hmem)

/-- Two apostrophes quote a name. One that comes before a quotation mark quotes what is between. -/
theorem quotedName_first_sample :
    ProperlyNamed "name 'kittens' is not defined" ∧
    ∃ p m s, FirstPart IsQuoted "can't find \"x\"".toList p m "t find ".toList s := by
  obtain ⟨-, -, -, hkind⟩ := quotedName_first "name 'kittens' is not defined"
  obtain ⟨hnamed, -, -, -⟩ := quotedName_first "can't find \"x\""
  exact ⟨hkind (.inl (by simp)), (hnamed "t find ").1 rfl⟩

/-- An apostrophe and a quotation mark quote a name that nothing else does. -/
theorem not_forall_properlyNamed : ¬∀ message, ProperlyNamed message := by
  intro h
  have hname : quotedName "can't find \"x\"" = some "t find " := rfl
  obtain ⟨p, m, s, hfirst⟩ := (h _).named _ hname
  obtain ⟨q, rfl, hq, -⟩ := hfirst.part
  have hinfix : q :: ("t find ".toList ++ [q]) <:+: "can't find \"x\"".toList :=
    ⟨p, s, by rw [hfirst.split, List.append_assoc]⟩
  rcases isQuote_iff.1 hq with rfl | rfl
  · exact absurd hinfix (by decide +kernel)
  · exact absurd hinfix (by decide +kernel)

end ErrorGuide.Trace
