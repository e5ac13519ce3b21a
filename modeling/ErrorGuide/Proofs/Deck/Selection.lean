import ErrorGuide.Deck.Selection

/-! What a deck selects for a trace, said without a search: the entry under the kind of the trace, or
under the catch-all if the kind is unknown, and in it the variant of least index whose filters all
pass. -/

namespace ErrorGuide
open Pattern

structure Condition.Admits (c : Condition) (message code : String) : Prop where
  matchMessage : c.matchMessage = [] ∨ ∃ p ∈ c.matchMessage, matchesIn p message = true
  notMessage : ∀ p ∈ c.notMessage, matchesIn p message = false
  matchCode : c.matchCode = [] ∨ ∃ p ∈ c.matchCode, matchesIn p code = true
  notCode : ∀ p ∈ c.notCode, matchesIn p code = false

theorem not_anyMatches_iff {patterns : List String} {text : String} :
    (!anyMatches patterns text) = true ↔ ∀ p ∈ patterns, matchesIn p text = false := by
  simp [anyMatches]

theorem empty_or_anyMatches_iff {patterns : List String} {text : String} :
    (patterns.isEmpty || anyMatches patterns text) = true ↔
      patterns = [] ∨ ∃ p ∈ patterns, matchesIn p text = true := by
  simp [anyMatches]

theorem Condition.holds_iff {c : Condition} {message code : String} :
    c.holds message code = true ↔ c.Admits message code := by
  rw [holds, Bool.and_eq_true, Bool.and_eq_true, Bool.and_eq_true, empty_or_anyMatches_iff,
    not_anyMatches_iff, empty_or_anyMatches_iff, not_anyMatches_iff]
  constructor
  · rintro ⟨⟨⟨hm, hnm⟩, hc⟩, hnc⟩
    exact ⟨hm, hnm, hc, hnc⟩
  · rintro ⟨hm, hnm, hc, hnc⟩
    exact ⟨⟨⟨hm, hnm⟩, hc⟩, hnc⟩

def Variant.Admits (v : Variant) (t : Trace) : Prop :=
  ∀ c ∈ v.condition, c.Admits t.message t.codeText

theorem Variant.applies_iff {v : Variant} {t : Trace} : v.applies t = true ↔ v.Admits t := by
  rw [applies, Admits]
  cases v.condition with
  | none => simp
  | some c => simp [Condition.holds_iff]

namespace KindEntry
variable {entry : KindEntry} {t : Trace}

structure First (entry : KindEntry) (t : Trace) (index : Nat) (v : Variant) : Prop where
  getElem? : entry.variants[index]? = some v
  admits : v.Admits t
  earlier : ∀ j < index, ∀ w, entry.variants[j]? = some w → ¬w.Admits t

theorem First.unique {i j : Nat} {v w : Variant} (hv : entry.First t i v)
    (hw : entry.First t j w) : i = j ∧ v = w := by
  have hij : i = j := by
    rcases Nat.lt_trichotomy i j with h | h | h
    · exact absurd hv.admits (hw.earlier i h v hv.getElem?)
    · exact h
    · exact absurd hw.admits (hv.earlier j h w hw.getElem?)
  subst hij
  exact ⟨rfl, Option.some.inj (hv.getElem?.symm.trans hw.getElem?)⟩

theorem firstFor_eq_some_iff {index : Nat} {v : Variant} :
    entry.firstFor t = some (v, index) ↔ entry.First t index v := by
  rw [firstFor, List.find?_eq_some_iff_getElem]
  constructor
  · rintro ⟨hv, i, hi, he, hbefore⟩
    rw [List.getElem_zipIdx, Nat.zero_add] at he
    obtain ⟨hvi, rfl⟩ := Prod.mk.inj he
    rw [List.length_zipIdx] at hi
    refine ⟨List.getElem?_eq_some_iff.2 ⟨hi, hvi⟩, Variant.applies_iff.1 hv, ?_⟩
    intro j hj w hw hadmits
    have hno := hbefore j hj
    obtain ⟨hlt, rfl⟩ := List.getElem?_eq_some_iff.1 hw
    simp [Variant.applies_iff.2 hadmits] at hno
  · rintro ⟨hat, hadmits, hearlier⟩
    obtain ⟨hlt, hvi⟩ := List.getElem?_eq_some_iff.1 hat
    refine ⟨Variant.applies_iff.2 hadmits, index, by simpa using hlt, by simp [hvi], ?_⟩
    intro j hj
    have hjlt : j < entry.variants.length := Nat.lt_trans hj hlt
    have hno := hearlier j hj _ (List.getElem?_eq_getElem hjlt)
    rw [← Variant.applies_iff] at hno
    simpa using hno

theorem firstFor_eq_none_iff :
    entry.firstFor t = none ↔ ∀ v ∈ entry.variants, ¬v.Admits t := by
  rw [firstFor, List.find?_eq_none]
  constructor
  · intro h v hv hadmits
    obtain ⟨i, hi, rfl⟩ := List.getElem_of_mem hv
    have hmem : (entry.variants[i], i) ∈ entry.variants.zipIdx :=
      List.mk_mem_zipIdx_iff_getElem?.2 (List.getElem?_eq_getElem hi)
    exact h _ hmem (Variant.applies_iff.2 hadmits)
  · rintro h ⟨v, i⟩ hmem happlies
    have hat : entry.variants[i]? = some v := List.mk_mem_zipIdx_iff_getElem?.1 hmem
    exact h v (List.mem_of_getElem? hat) (Variant.applies_iff.1 happlies)

end KindEntry

namespace Deck
variable {d : Deck} {t : Trace} {key : EntryKey}

def heading (d : Deck) : Option String → String
  | some kind => if kind ∈ d.errors.keys then kind else EntryKey.fallbackName
  | none => EntryKey.fallbackName

theorem name_keyFor (d : Deck) (kind : Option String) : (d.keyFor kind).name = d.heading kind := by
  cases kind with
  | none => rfl
  | some kind =>
    simp only [keyFor, EntryKey.resolve, heading, hasKind, OrderedMap.contains_iff]
    split <;> rfl

theorem heading_mem_or (d : Deck) (kind : Option String) :
    d.heading kind ∈ d.errors.keys ∨ d.heading kind = EntryKey.fallbackName := by
  cases kind with
  | none => exact .inr rfl
  | some kind =>
    rw [heading]
    split
    · next hmem => exact .inl hmem
    · exact .inr rfl

theorem entry?_keyFor (d : Deck) (kind : Option String) :
    d.entry? (d.keyFor kind) = d.errors.get? (d.heading kind) := by
  simp only [name_keyFor, entry?]

def Finds (d : Deck) (t : Trace) (index : Nat) (v : Variant) : Prop :=
  ∃ entry, d.errors.get? (d.heading t.kind) = some entry ∧ entry.First t index v

def FindsNone (d : Deck) (t : Trace) : Prop :=
  ∀ entry, d.errors.get? (d.heading t.kind) = some entry → ∀ v ∈ entry.variants, ¬v.Admits t

theorem Finds.not_findsNone {index : Nat} {v : Variant} (h : d.Finds t index v) :
    ¬d.FindsNone t := by
  obtain ⟨entry, he, hf⟩ := h
  exact fun hnone => hnone entry he v (List.mem_of_getElem? hf.getElem?) hf.admits

theorem select_eq_matched_iff {index : Nat} {v : Variant} :
    d.select t = .matched key index v ↔ d.keyFor t.kind = key ∧ d.Finds t index v := by
  simp only [select, entry?_keyFor, Finds]
  cases d.errors.get? (d.heading t.kind) with
  | none => simp
  | some entry =>
    cases hf : entry.firstFor t with
    | none =>
      have hno : ¬entry.First t index v := by
        rw [← KindEntry.firstFor_eq_some_iff, hf]
        simp
      simp [hf, hno]
    | some found =>
      obtain ⟨w, i⟩ := found
      have hw : entry.First t i w := KindEntry.firstFor_eq_some_iff.1 hf
      have hiff : i = index ∧ w = v ↔ entry.First t index v :=
        ⟨fun ⟨hi, hwv⟩ => hi ▸ hwv ▸ hw, hw.unique⟩
      simp [hf, ← hiff]

/-- What is selected stands in the deck. -/
theorem exists_mem_of_select {index : Nat} {v : Variant} (h : d.select t = .matched key index v) :
    ∃ entry ∈ d.errors.entries, v ∈ entry.2.variants := by
  obtain ⟨-, entry, he, hfirst⟩ := select_eq_matched_iff.1 h
  exact ⟨_, d.errors.get?_eq_some_iff.1 he, List.mem_of_getElem? hfirst.getElem?⟩

theorem select_eq_noEntry_iff :
    d.select t = .noEntry key ↔ d.keyFor t.kind = key ∧
      d.errors.get? (d.heading t.kind) = none := by
  simp only [select, entry?_keyFor]
  cases d.errors.get? (d.heading t.kind) with
  | none => simp
  | some entry => cases hf : entry.firstFor t <;> simp [hf]

theorem select_eq_noMatch_iff :
    d.select t = .noMatch key ↔ d.keyFor t.kind = key ∧
      ∃ entry, d.errors.get? (d.heading t.kind) = some entry ∧
        ∀ v ∈ entry.variants, ¬v.Admits t := by
  simp only [select, entry?_keyFor, ← KindEntry.firstFor_eq_none_iff]
  cases d.errors.get? (d.heading t.kind) with
  | none => simp
  | some entry => cases hf : entry.firstFor t <;> simp [hf]

/-- Every trace finds a first variant or none at all. -/
theorem finds_or_findsNone (d : Deck) (t : Trace) :
    (∃ index v, d.Finds t index v) ∨ d.FindsNone t := by
  cases hs : d.select t with
  | matched key index v => exact .inl ⟨index, v, (select_eq_matched_iff.1 hs).2⟩
  | noEntry key =>
    have hno := (select_eq_noEntry_iff.1 hs).2
    exact .inr fun entry he => absurd (hno.symm.trans he) (by simp)
  | noMatch key =>
    obtain ⟨-, entry, he, hnone⟩ := select_eq_noMatch_iff.1 hs
    exact .inr fun entry' he' => Option.some.inj (he.symm.trans he') ▸ hnone

theorem select_ne_matched_of_findsNone (h : d.FindsNone t) (key : EntryKey) (index : Nat)
    (v : Variant) : d.select t ≠ .matched key index v :=
  fun hs => (select_eq_matched_iff.1 hs).2.not_findsNone h

end Deck
end ErrorGuide
