import ErrorGuide.Deck.Glossary
import ErrorGuide.Proofs.Deck.Lint
import Mathlib.Data.List.Count

/-! Patterns that do not compile. They match nothing and replace nothing, so a deck does the same
without them, but for a filter that asks for a match and has no other pattern: it never passes. The
problems of a deck name each of them, once for each place where it stands. -/

namespace ErrorGuide
open Pattern

namespace Pattern
variable {pattern : String}

def compiles (pattern : String) : Bool := (compile pattern).isOk

theorem matchesIn_of_not_compiles (h : ¬compiles pattern = true) (text : String) :
    matchesIn pattern text = false := by
  unfold compiles at h
  unfold matchesIn
  cases hp : compile pattern with
  | error f => rfl
  | ok p =>
    rw [hp] at h
    exact absurd rfl h

theorem compiles_iff : compiles pattern = true ↔ faultOf pattern = none := by
  rw [compiles, faultOf]
  cases compile pattern with
  | error f => simp [Except.isOk, Except.toBool]
  | ok p => simp [Except.isOk, Except.toBool]

end Pattern

/-! Filters and rules without such patterns. -/

def wellFormed (patterns : List String) : List String := patterns.filter compiles

theorem anyMatches_wellFormed (patterns : List String) (text : String) :
    anyMatches (wellFormed patterns) text = anyMatches patterns text := by
  rw [anyMatches, anyMatches, wellFormed, List.any_filter]
  congr 1
  funext p
  by_cases hp : compiles p = true
  · rw [hp, Bool.true_and]
  · rw [matchesIn_of_not_compiles hp, Bool.and_false]

/-- A filter that asks for a match stays as it is, unless nothing is left of it. -/
theorem isEmpty_or_anyMatches_wellFormed {patterns : List String}
    (h : patterns ≠ [] → wellFormed patterns ≠ []) (text : String) :
    ((wellFormed patterns).isEmpty || anyMatches (wellFormed patterns) text) =
      (patterns.isEmpty || anyMatches patterns text) := by
  by_cases hempty : patterns = []
  · rw [hempty]
    rfl
  · rw [anyMatches_wellFormed, List.isEmpty_eq_false_iff.2 hempty,
      List.isEmpty_eq_false_iff.2 (h hempty)]

theorem isEmpty_or_anyMatches_of_malformed {patterns : List String} (hne : patterns ≠ [])
    (h : wellFormed patterns = []) (text : String) :
    (patterns.isEmpty || anyMatches patterns text) = false := by
  rw [← anyMatches_wellFormed, h, List.isEmpty_eq_false_iff.2 hne]
  rfl

namespace Condition
variable (c : Condition) (message code : String)

theorem holds_wellFormed_vetoes :
    { c with notMessage := wellFormed c.notMessage, notCode := wellFormed c.notCode }.holds
      message code = c.holds message code := by
  simp only [holds, anyMatches_wellFormed]

theorem holds_wellFormed_matchMessage (h : c.matchMessage ≠ [] → wellFormed c.matchMessage ≠ []) :
    { c with matchMessage := wellFormed c.matchMessage }.holds message code =
      c.holds message code := by
  simp only [holds, isEmpty_or_anyMatches_wellFormed h]

theorem holds_wellFormed_matchCode (h : c.matchCode ≠ [] → wellFormed c.matchCode ≠ []) :
    { c with matchCode := wellFormed c.matchCode }.holds message code = c.holds message code := by
  simp only [holds, isEmpty_or_anyMatches_wellFormed h]

def Dead : Prop :=
  c.matchMessage ≠ [] ∧ wellFormed c.matchMessage = [] ∨
    c.matchCode ≠ [] ∧ wellFormed c.matchCode = []

variable {c} in
theorem Dead.holds (h : c.Dead) : c.holds message code = false := by
  rw [Condition.holds]
  obtain ⟨hne, hnone⟩ | ⟨hne, hnone⟩ := h
  · rw [isEmpty_or_anyMatches_of_malformed hne hnone]
    rfl
  · rw [isEmpty_or_anyMatches_of_malformed hne hnone, Bool.and_false, Bool.false_and]

end Condition

theorem replaceTerm_of_not_compiles {rule : String × String} (h : ¬compiles rule.1 = true)
    (text : String) : replaceTerm text rule = text := by
  unfold compiles at h
  unfold replaceTerm
  cases hp : compile rule.1 with
  | error f => rfl
  | ok p =>
    rw [hp] at h
    exact absurd rfl h

def Rules.wellFormed (rules : Rules) : Rules where
  entries := rules.entries.filter fun rule => compiles rule.1
  distinct := rules.distinct.sublist (List.filter_sublist.map _)

theorem Rules.substitute_wellFormed (rules : Rules) (text : String) :
    rules.wellFormed.substitute text = rules.substitute text := by
  unfold substitute wellFormed
  dsimp only
  generalize rules.entries = entries
  induction entries generalizing text with
  | nil => rfl
  | cons rule rest ih =>
    by_cases hp : compiles rule.1 = true
    · rw [List.filter_cons, if_pos hp, List.foldl_cons, List.foldl_cons, ih]
    · rw [List.filter_cons, if_neg hp, List.foldl_cons, replaceTerm_of_not_compiles hp, ih]

/-! How often a problem is reported. Each part of a deck has its own problems, so to count one is to
go down to the part that it is about. -/

theorem count_flatMap_eq_zero {α β : Type} [BEq α] [LawfulBEq α] {f : β → List α} {x : α}
    {entries : List β} (h : ∀ e ∈ entries, x ∉ f e) : (entries.flatMap f).count x = 0 := by
  refine List.count_eq_zero_of_not_mem fun hx => ?_
  obtain ⟨e, he, hxe⟩ := List.mem_flatMap.1 hx
  exact h e he hxe

/-- Of the lists that are joined, only that of one entry can hold `x`. -/
theorem count_flatMap_of_mem {α β κ : Type} [DecidableEq α] {key : β → κ} {entries : List β}
    {f : β → List α} {x : α} {e : β} (hdistinct : (entries.map key).Nodup) (he : e ∈ entries)
    (hown : ∀ e' ∈ entries, x ∈ f e' → key e' = key e) :
    (entries.flatMap f).count x = (f e).count x := by
  induction entries with
  | nil => cases he
  | cons e' rest ih =>
    obtain ⟨hnew, hrest⟩ := List.nodup_cons.1 hdistinct
    obtain ⟨hown', howns⟩ := List.forall_mem_cons.1 hown
    rw [List.flatMap_cons, List.count_append]
    rcases List.mem_cons.1 he with rfl | hmem
    · have hnone : ∀ e'' ∈ rest, x ∉ f e'' :=
        fun e'' he'' hx => hnew (howns e'' he'' hx ▸ List.mem_map_of_mem he'')
      rw [count_flatMap_eq_zero hnone, Nat.add_zero]
    · have hnone : x ∉ f e' := fun hx => hnew (hown' hx ▸ List.mem_map_of_mem hmem)
      rw [List.count_eq_zero_of_not_mem hnone, Nat.zero_add, ih hrest hmem howns]

def Condition.patternsOf (c : Condition) : Filter → List String
  | .matchMessage => c.matchMessage
  | .notMessage => c.notMessage
  | .matchCode => c.matchCode
  | .notCode => c.notCode

theorem Condition.count_patterns (c : Condition) (filter : Filter) (pattern : String) :
    c.patterns.count (filter, pattern) = (c.patternsOf filter).count pattern := by
  have hmap (filter' : Filter) (ps : List String) :
      (ps.map (filter', ·)).count (filter, pattern) =
        if filter' = filter then ps.count pattern else 0 := by
    split
    · next heq =>
      subst heq
      exact List.count_map_of_injective ps _ (fun _ _ h => (Prod.mk.inj h).2) pattern
    · next hne =>
      refine List.count_eq_zero_of_not_mem fun hmem => hne ?_
      obtain ⟨p, -, hp⟩ := List.mem_map.1 hmem
      exact (Prod.mk.inj hp).1
  rw [patterns, List.count_append, List.count_append, List.count_append, hmap, hmap, hmap, hmap]
  cases filter <;> simp [patternsOf]

/-- Of the places where patterns stand, each with one that does not compile is reported, with the
fault. -/
theorem count_filterMap_faultOf {α κ : Type} [BEq α] [LawfulBEq α] [BEq κ] [LawfulBEq κ]
    (pattern : κ → String) (report : κ → Fault → α)
    (hinj : ∀ k k' f f', report k f = report k' f' → k = k' ∧ f = f') (places : List κ) (k : κ)
    (fault : Fault) :
    (places.filterMap fun k => (faultOf (pattern k)).map (report k)).count (report k fault) =
      if faultOf (pattern k) = some fault then places.count k else 0 := by
  rw [List.count_filterMap]
  split
  · next hfault =>
    refine List.countP_congr fun k' _ => ?_
    rw [beq_iff_eq, beq_iff_eq, Option.map_eq_some_iff]
    constructor
    · rintro ⟨fault', -, hreport⟩
      exact (hinj _ _ _ _ hreport).1
    · rintro rfl
      exact ⟨fault, hfault, rfl⟩
  · next hno =>
    refine List.countP_eq_zero.2 fun k' _ hreported => hno ?_
    obtain ⟨fault', hfault', hreport⟩ := Option.map_eq_some_iff.1 (beq_iff_eq.1 hreported)
    obtain ⟨rfl, rfl⟩ := hinj _ _ _ _ hreport
    exact hfault'

section Counting
variable (kind : String) (index : Nat) (filter : Filter) (pattern : String) (fault : Fault)

def Variant.patternsOf (v : Variant) (filter : Filter) : List String :=
  v.condition.elim [] (·.patternsOf filter)

theorem Variant.count_lints (v : Variant) (later : Nat) :
    (v.lints kind index later).count (.badPattern kind index filter pattern fault) =
      if faultOf pattern = some fault then (v.patternsOf filter).count pattern else 0 := by
  have htitle : Lint.badPattern kind index filter pattern fault ∉
      if Text.isBlankText v.title then [Lint.noTitle kind index] else [] := by
    split <;> simp
  have hshadowing : Lint.badPattern kind index filter pattern fault ∉
      if v.isUnconditional && 0 < later then [Lint.shadowing kind index later] else [] := by
    split <;> simp
  have hpatterns : ((v.condition.map (·.patterns)).getD []).count (filter, pattern) =
      (v.patternsOf filter).count pattern := by
    rw [patternsOf]
    cases v.condition with
    | none => rfl
    | some c => exact c.count_patterns filter pattern
  rw [lints, List.count_append, List.count_append, List.count_eq_zero_of_not_mem htitle,
    List.count_eq_zero_of_not_mem hshadowing, Nat.zero_add, ← hpatterns]
  exact count_filterMap_faultOf Prod.snd
    (fun place f => Lint.badPattern kind index place.1 place.2 f)
    (by simp +contextual [Prod.ext_iff]) _ (filter, pattern) fault

def KindEntry.patternsAt (entry : KindEntry) (index : Nat) (filter : Filter) : List String :=
  entry.variants[index]?.elim [] (·.patternsOf filter)

theorem KindEntry.count_lints (entry : KindEntry) :
    (entry.lints kind).count (.badPattern kind index filter pattern fault) =
      if faultOf pattern = some fault then (entry.patternsAt index filter).count pattern else 0 := by
  have hempty : Lint.badPattern kind index filter pattern fault ∉
      if entry.variants = [] then [Lint.noVariants kind] else [] := by
    split <;> simp
  rw [lints, List.count_append, List.count_eq_zero_of_not_mem hempty, Nat.zero_add, patternsAt]
  have hown (v : Variant) (i later : Nat)
      (h : .badPattern kind index filter pattern fault ∈ v.lints kind i later) : i = index := by
    simp only [Variant.mem_lints_iff, reduceCtorEq, and_false, false_or, Lint.badPattern.injEq] at h
    obtain ⟨c, -, filter', pattern', -, fault', -, -, rfl, -⟩ := h
    rfl
  cases hv : entry.variants[index]? with
  | none =>
    rw [count_flatMap_eq_zero]
    · simp
    · rintro ⟨v, i⟩ hvi hlint
      obtain rfl := hown v i _ hlint
      rw [List.mk_mem_zipIdx_iff_getElem?.1 hvi] at hv
      cases hv
  | some v =>
    have hmem : (v, index) ∈ entry.variants.zipIdx := List.mk_mem_zipIdx_iff_getElem?.2 hv
    have hdistinct : (entry.variants.zipIdx.map Prod.snd).Nodup := by
      rw [List.zipIdx_map_snd]
      exact List.nodup_range'
    rw [count_flatMap_of_mem hdistinct hmem fun e _ he => hown e.1 e.2 _ he]
    exact v.count_lints kind index filter pattern fault _

theorem KindEntry.kind_of_badPattern_mem {entry : KindEntry} {kind' : String}
    (h : .badPattern kind index filter pattern fault ∈ entry.lints kind') : kind' = kind := by
  simp only [mem_lints_iff, Variant.mem_lints_iff, reduceCtorEq, and_false, false_or,
    Lint.badPattern.injEq] at h
  obtain ⟨v, i, -, c, -, filter', pattern', -, fault', -, rfl, -⟩ := h
  rfl

def Deck.patternsAt (d : Deck) (kind : String) (index : Nat) (filter : Filter) : List String :=
  (d.errors.get? kind).elim [] (·.patternsAt index filter)

theorem Deck.count_badPattern (d : Deck) :
    d.lints.count (.badPattern kind index filter pattern fault) =
      if faultOf pattern = some fault then (d.patternsAt kind index filter).count pattern
      else 0 := by
  have hlanguage : Lint.badPattern kind index filter pattern fault ∉
      if Text.isBlankText d.edition.language then [Lint.noLanguage] else [] := by
    split <;> simp
  have hfallback : Lint.badPattern kind index filter pattern fault ∉
      if d.hasKind EntryKey.fallbackName then [] else [Lint.noFallback] := by
    split <;> simp
  have hterms (e : String × Rules) :
      Lint.badPattern kind index filter pattern fault ∉ e.2.lints e.1 := by
    simp [Rules.mem_lints_iff]
  rw [lints, List.count_append, List.count_append, List.count_append,
    List.count_eq_zero_of_not_mem hlanguage, List.count_eq_zero_of_not_mem hfallback,
    count_flatMap_eq_zero fun e _ => hterms e, Nat.add_zero, Nat.zero_add, patternsAt]
  cases he : d.errors.get? kind with
  | none =>
    rw [count_flatMap_eq_zero]
    · simp
    · rintro ⟨kind', entry⟩ hentry hlint
      obtain rfl := KindEntry.kind_of_badPattern_mem kind index filter pattern fault hlint
      rw [d.errors.get?_eq_some_iff.2 hentry] at he
      cases he
  | some entry =>
    have hmem : (kind, entry) ∈ d.errors.entries := d.errors.get?_eq_some_iff.1 he
    rw [count_flatMap_of_mem d.errors.distinct hmem fun e _ he =>
      KindEntry.kind_of_badPattern_mem kind index filter pattern fault he]
    exact entry.count_lints kind index filter pattern fault

end Counting

section Counting
variable (audience term : String) (fault : Fault)

theorem Rules.count_lints (rules : Rules) :
    (rules.lints audience).count (.badTerm audience term fault) =
      if faultOf term = some fault then rules.keys.count term else 0 := by
  have hkeys : rules.lints audience =
      rules.keys.filterMap fun term => (faultOf term).map (.badTerm audience term) := by
    rw [lints, OrderedMap.keys, List.filterMap_map]
    rfl
  rw [hkeys]
  exact count_filterMap_faultOf id (Lint.badTerm audience) (by simp) rules.keys term fault

theorem Rules.audience_of_badTerm_mem {rules : Rules} {audience' : String}
    (h : .badTerm audience term fault ∈ rules.lints audience') : audience' = audience := by
  obtain ⟨term', -, fault', -, heq⟩ := Rules.mem_lints_iff.1 h
  exact (Lint.badTerm.inj heq).1

def Deck.termsOf (d : Deck) (audience : String) : List String :=
  (d.glossary.get? audience).elim [] (·.keys)

theorem Deck.count_badTerm (d : Deck) :
    d.lints.count (.badTerm audience term fault) =
      if faultOf term = some fault then (d.termsOf audience).count term else 0 := by
  have hlanguage : Lint.badTerm audience term fault ∉
      if Text.isBlankText d.edition.language then [Lint.noLanguage] else [] := by
    split <;> simp
  have hfallback : Lint.badTerm audience term fault ∉
      if d.hasKind EntryKey.fallbackName then [] else [Lint.noFallback] := by
    split <;> simp
  have hpatterns (e : String × KindEntry) : Lint.badTerm audience term fault ∉ e.2.lints e.1 := by
    simp [KindEntry.mem_lints_iff, Variant.mem_lints_iff]
  rw [lints, List.count_append, List.count_append, List.count_append,
    List.count_eq_zero_of_not_mem hlanguage, List.count_eq_zero_of_not_mem hfallback,
    count_flatMap_eq_zero fun e _ => hpatterns e, Nat.zero_add, termsOf]
  cases hr : d.glossary.get? audience with
  | none =>
    rw [count_flatMap_eq_zero]
    · simp
    · rintro ⟨audience', rules⟩ hrules hlint
      obtain rfl := Rules.audience_of_badTerm_mem audience term fault hlint
      rw [d.glossary.get?_eq_some_iff.2 hrules] at hr
      cases hr
  | some rules =>
    have hmem : (audience, rules) ∈ d.glossary.entries := d.glossary.get?_eq_some_iff.1 hr
    rw [count_flatMap_of_mem d.glossary.distinct hmem fun e _ he =>
      Rules.audience_of_badTerm_mem audience term fault he]
    exact rules.count_lints audience term fault

end Counting

/-- What is reported as an error whenever it stands somewhere does not stand where all problems are
warnings. -/
theorem compiles_of_warnings {lints : List Lint} {pattern : String} {n : Nat}
    (report : Fault → Lint) (hlevel : ∀ fault, (report fault).level = .error)
    (hcount : ∀ fault, lints.count (report fault) = if faultOf pattern = some fault then n else 0)
    (hwarnings : ∀ l ∈ lints, l.level = .warning) (hn : 0 < n) : compiles pattern = true := by
  rw [compiles_iff]
  cases hfault : faultOf pattern with
  | none => rfl
  | some fault =>
    have hreported : 0 < lints.count (report fault) := by
      rw [hcount, if_pos hfault]
      exact hn
    have hlint := hwarnings _ (List.count_pos_iff.1 hreported)
    rw [hlevel] at hlint
    cases hlint

/-- Patterns that do not compile change nothing, except that a filter that asks for a match passes
never if it has no other pattern. Terms that do not compile change nothing at all. The problems of a
deck name each such pattern and term with its fault, as often as it stands where they say and nowhere
else; a deck without errors among its problems has none to pass over. -/
theorem malformed_exact :
    (∀ (c : Condition) message code,
      { c with notMessage := wellFormed c.notMessage, notCode := wellFormed c.notCode }.holds
        message code = c.holds message code) ∧
    (∀ (c : Condition) message code, (c.matchMessage ≠ [] → wellFormed c.matchMessage ≠ []) →
      { c with matchMessage := wellFormed c.matchMessage }.holds message code =
        c.holds message code) ∧
    (∀ (c : Condition) message code, (c.matchCode ≠ [] → wellFormed c.matchCode ≠ []) →
      { c with matchCode := wellFormed c.matchCode }.holds message code =
        c.holds message code) ∧
    (∀ c : Condition, c.Dead → ∀ message code, c.holds message code = false) ∧
    (∀ (rules : Rules) text, rules.wellFormed.substitute text = rules.substitute text) ∧
    ∀ d : Deck,
      (∀ kind index filter pattern fault,
        d.lints.count (.badPattern kind index filter pattern fault) =
          if faultOf pattern = some fault then (d.patternsAt kind index filter).count pattern
          else 0) ∧
      (∀ audience term fault, d.lints.count (.badTerm audience term fault) =
        if faultOf term = some fault then (d.termsOf audience).count term else 0) ∧
      ((∀ l ∈ d.lints, l.level = .warning) →
        (∀ kind index filter, ∀ p ∈ d.patternsAt kind index filter, compiles p = true) ∧
        ∀ audience, ∀ term ∈ d.termsOf audience, compiles term = true) := by
  refine ⟨Condition.holds_wellFormed_vetoes, Condition.holds_wellFormed_matchMessage,
    Condition.holds_wellFormed_matchCode, fun c h message code => h.holds message code,
    Rules.substitute_wellFormed, fun d => ⟨?_, ?_, ?_⟩⟩
  · exact fun kind index filter pattern fault => d.count_badPattern kind index filter pattern fault
  · exact fun audience term fault => d.count_badTerm audience term fault
  · intro hwarnings
    constructor
    · exact fun kind index filter p hp => compiles_of_warnings _ (fun _ => rfl)
        (d.count_badPattern kind index filter p) hwarnings (List.count_pos_iff.2 hp)
    · exact fun audience term hterm => compiles_of_warnings _ (fun _ => rfl)
        (d.count_badTerm audience term) hwarnings (List.count_pos_iff.2 hterm)

/-- A group that is not closed does not compile: as a veto it is passed over, as the only match it is
fatal. -/
theorem malformed_exact_sample :
    (∀ message code, { notMessage := ["("] : Condition }.holds message code =
      ({} : Condition).holds message code) ∧
    ∀ message code, { matchMessage := ["("] : Condition }.holds message code = false := by
  obtain ⟨hvetoes, -, -, hdead, -⟩ := malformed_exact
  have hgroup : wellFormed ["("] = [] := by decide +kernel
  constructor
  · intro message code
    rw [← hvetoes, hgroup]
    rfl
  · exact fun message code => hdead _ (.inl ⟨List.cons_ne_nil _ _, hgroup⟩) message code

end ErrorGuide
