import ErrorGuide.Deck.Locale

/-! The search for a deck by locale. The candidates are the requested locale, its base language and
the default, each once. A source is asked for them in order up to the first usable deck; what is
absent is passed over in silence, what is broken is passed over and reported. -/

namespace ErrorGuide
open Text

namespace Locale
variable {locale base base' : String}

structure IsBase (base locale : String) : Prop where
  nonempty : base ≠ ""
  noHyphen : '-' ∉ base.toList
  hyphen : ∃ rest, locale.toList = base.toList ++ '-' :: rest

/-- The candidates for a requested locale, said without computing them: trimmed and unless empty it
comes first, its base language next, and the default last. -/
structure CandidatesFor (locale : String) (cs : List String) : Prop where
  nodup : cs.Nodup
  first : trim locale ≠ "" → cs[0]? = some (trim locale)
  next : ∀ base, IsBase base (trim locale) → cs[1]? = some base
  last : cs.getLast? = some "en"
  only : ∀ c ∈ cs, c = trim locale ∧ c ≠ "" ∨ IsBase c (trim locale) ∨ c = "en"

theorem takeWhile_ne_of_hyphen {before rest : List Char} (h : '-' ∉ before) :
    (before ++ '-' :: rest).takeWhile (· ≠ '-') = before := by
  have hall : ∀ c ∈ before, decide (c ≠ '-') = true := by
    intro c hc
    exact decide_eq_true fun hhyphen => h (hhyphen ▸ hc)
  rw [List.takeWhile_append_of_pos hall, List.takeWhile_cons_of_neg (by decide), List.append_nil]

theorem base?_of_isBase (h : IsBase base locale) : base? locale = some base := by
  obtain ⟨rest, hrest⟩ := h.hyphen
  have htake : locale.toList.takeWhile (· ≠ '-') = base.toList := by
    rw [hrest, takeWhile_ne_of_hyphen h.noHyphen]
  have hne : base.toList ≠ [] := fun hnil => h.nonempty (String.toList_eq_nil_iff.1 hnil)
  have hlt : base.toList.length < locale.toList.length := by simp [hrest]
  simp only [base?, htake, hlt, hne, ne_eq, not_false_eq_true, and_self, if_true,
    String.ofList_toList]

theorem isBase_of_base? (h : base? locale = some base) : IsBase base locale := by
  simp only [base?] at h
  split at h
  · next hcond =>
    obtain ⟨hlt, hne⟩ := hcond
    obtain rfl := Option.some.inj h
    refine ⟨?_, ?_, ?_⟩
    · intro hempty
      exact hne (by simpa using congrArg String.toList hempty)
    · rw [String.toList_ofList]
      intro hmem
      simpa using List.all_eq_true.1 List.all_takeWhile _ hmem
    · rw [String.toList_ofList]
      -- Something is left of the locale, and it starts with the hyphen that the base stops at.
      have hsplit := List.takeWhile_append_dropWhile (p := (· ≠ '-')) (l := locale.toList)
      cases hdrop : locale.toList.dropWhile (· ≠ '-') with
      | nil =>
        rw [hdrop, List.append_nil] at hsplit
        exact absurd hlt (by rw [hsplit]; exact Nat.lt_irrefl _)
      | cons c rest =>
        have hc := List.head?_dropWhile_not (· ≠ '-') locale.toList
        rw [hdrop] at hc
        obtain rfl : c = '-' := by simpa using hc
        exact ⟨rest, by rw [← hdrop, hsplit]⟩
  · cases h

theorem base?_eq_some_iff : base? locale = some base ↔ IsBase base locale :=
  ⟨isBase_of_base?, base?_of_isBase⟩

theorem IsBase.unique (h : IsBase base locale) (h' : IsBase base' locale) : base = base' :=
  Option.some.inj ((base?_of_isBase h).symm.trans (base?_of_isBase h'))

theorem IsBase.hyphen_mem (h : IsBase base locale) : '-' ∈ locale.toList := by
  obtain ⟨rest, hrest⟩ := h.hyphen
  simp [hrest]

theorem IsBase.length_lt (h : IsBase base locale) :
    base.toList.length < locale.toList.length := by
  obtain ⟨rest, hrest⟩ := h.hyphen
  simp [hrest]

/-- A locale with a base differs from every text without a hyphen. -/
theorem IsBase.ne_of_noHyphen {s : String} (h : IsBase base locale) (hs : '-' ∉ s.toList) :
    locale ≠ s := fun heq => hs (heq ▸ h.hyphen_mem)

/-! The default is added unless it is the request itself or its base, and no locale is either both
or its own base, so there are five cases. -/

theorem candidates_of_empty (h : trim locale = "") : candidates locale = ["en"] := by
  simp [candidates, requested, h, default]

theorem candidates_of_no_base (hne : trim locale ≠ "") (hnone : base? (trim locale) = none) :
    candidates locale = if trim locale = "en" then ["en"] else [trim locale, "en"] := by
  by_cases hen : trim locale = "en"
  · have hbase : base? "en" = none := hen ▸ hnone
    simp [candidates, requested, hen, hbase, default]
  · simp [candidates, requested, hne, hnone, hen, Ne.symm hen, default]

theorem candidates_of_base (h : IsBase base (trim locale)) :
    candidates locale = if base = "en" then [trim locale, "en"] else [trim locale, base, "en"] := by
  have hne : trim locale ≠ "" := h.ne_of_noHyphen (by simp)
  have hen : "en" ≠ trim locale := (h.ne_of_noHyphen (by decide)).symm
  by_cases hbase : base = "en"
  · subst hbase
    simp [candidates, requested, hne, base?_of_isBase h, default]
  · simp [candidates, requested, hne, base?_of_isBase h, hbase, Ne.symm hbase, hen, default]

theorem candidatesFor_candidates (locale : String) :
    CandidatesFor locale (candidates locale) := by
  by_cases hempty : trim locale = ""
  · have hno (base : String) : ¬IsBase base (trim locale) :=
      fun h => h.ne_of_noHyphen (by simp) hempty
    rw [candidates_of_empty hempty]
    exact ⟨by simp, fun h => absurd hempty h, fun base h => absurd h (hno base), rfl, by simp⟩
  · cases hbase : base? (trim locale) with
    | none =>
      have hno (base : String) : ¬IsBase base (trim locale) := by
        simp [← base?_eq_some_iff, hbase]
      rw [candidates_of_no_base hempty hbase]
      split
      · next hen => exact ⟨by simp, by simp [hen], fun base h => absurd h (hno base), rfl, by simp⟩
      · next hen =>
        exact ⟨by simp [hen], by simp, fun base h => absurd h (hno base), rfl, by simp [hempty]⟩
    | some base =>
      have h : IsBase base (trim locale) := base?_eq_some_iff.1 hbase
      have hne : trim locale ≠ base := h.ne_of_noHyphen h.noHyphen
      have hen : trim locale ≠ "en" := h.ne_of_noHyphen (by decide)
      have hnext (base' : String) (h' : IsBase base' (trim locale)) : base = base' := h.unique h'
      rw [candidates_of_base h]
      split
      · next hdefault =>
        subst hdefault
        exact ⟨by simp [hne], by simp, by simpa using hnext, rfl, by simp [hempty]⟩
      · next hdefault =>
        exact ⟨by simp [hdefault, hne, hen], by simp, by simpa using hnext, rfl,
          by simp [hempty, h]⟩

end Locale

inductive Offer where
  | usable (d : Deck)
  | absent
  | broken (fault : String)

namespace Offer

/-- What an answer of a source comes to: a text that is no deck is as broken as one that cannot be
fetched. -/
def ofAnswer : Except Failure (Option String) → Offer
  | .error f => .broken f.oneLine
  | .ok none => .absent
  | .ok (some text) => match Deck.ofText text with
    | .ok d => .usable d
    | .error cause => .broken (deckFailure cause).oneLine

theorem ofAnswer_eq_usable_iff {answer : Except Failure (Option String)} {d : Deck} :
    ofAnswer answer = .usable d ↔
      ∃ text, answer = .ok (some text) ∧ Deck.ofText text = .ok d := by
  cases answer with
  | error f => simp [ofAnswer]
  | ok text? =>
    cases text? with
    | none => simp [ofAnswer]
    | some text => cases hd : Deck.ofText text <;> simp [ofAnswer, hd]

def Vain (o : Offer) : Prop := ∀ d, o ≠ .usable d

def report (locale : String) : Offer → List (String × String)
  | .usable _ => []
  | .absent => []
  | .broken fault => [(locale, fault)]

end Offer

def recorded (answer : String → Except Failure (Option String)) (locale : String) :
    StateM (List String) (Except Failure (Option String)) := do
  modify (· ++ [locale])
  return answer locale

section Searching
variable (answer : String → Except Failure (Option String)) (locale : String)
  (locales log : List String)

def offer : Offer := .ofAnswer (answer locale)

/-- A step of the search: a usable deck ends it, and after anything else it goes on. -/
theorem run_searchDecks_cons :
    (searchDecks (recorded answer) (locale :: locales)).run log =
      match offer answer locale with
      | .usable d => (⟨[locale], .ok ⟨locale, d⟩⟩, log ++ [locale])
      | o =>
        let (search, log) := (searchDecks (recorded answer) locales).run (log ++ [locale])
        (⟨locale :: search.asked, search.outcome.mapError (o.report locale ++ ·)⟩, log) := by
  have hrun : (recorded answer locale).run log = pure (answer locale, log ++ [locale]) := rfl
  rw [searchDecks, StateT.run_bind, hrun, pure_bind, offer]
  cases answer locale with
  | error f => rfl
  | ok text? =>
    cases text? with
    | none => rfl
    | some text =>
      simp only [Offer.ofAnswer]
      cases Deck.ofText text with
      | error cause => rfl
      | ok d => rfl

/-- A search that keeps no record finds what the one that keeps it finds. -/
theorem searchDecks_eq_run :
    searchDecks (m := Id) answer locales = ((searchDecks (recorded answer) locales).run log).1 := by
  induction locales generalizing log with
  | nil => rfl
  | cons locale locales ih =>
    rw [run_searchDecks_cons, searchDecks, offer, ih (log ++ [locale])]
    dsimp only [bind, pure]
    cases answer locale with
    | error f => rfl
    | ok text? =>
      cases text? with
      | none => rfl
      | some text =>
        simp only [Offer.ofAnswer]
        cases Deck.ofText text with
        | error cause => rfl
        | ok d => rfl

/-- A whole search either comes to the first usable deck, and asks for nothing after it, or asks for
every locale and finds none. -/
theorem run_searchDecks :
    (∃ before locale after d, locales = before ++ locale :: after ∧
      (∀ l ∈ before, (offer answer l).Vain) ∧ offer answer locale = .usable d ∧
      (searchDecks (recorded answer) locales).run log =
        (⟨before ++ [locale], .ok ⟨locale, d⟩⟩, log ++ (before ++ [locale]))) ∨
    (∀ l ∈ locales, (offer answer l).Vain) ∧
      (searchDecks (recorded answer) locales).run log =
        (⟨locales, .error (locales.flatMap fun l => (offer answer l).report l)⟩, log ++ locales) := by
  induction locales generalizing log with
  | nil => exact .inr ⟨by simp, by rw [List.append_nil]; rfl⟩
  | cons locale locales ih =>
    have hstep := run_searchDecks_cons answer locale locales log
    by_cases husable : ∃ d, offer answer locale = .usable d
    · obtain ⟨d, hd⟩ := husable
      rw [hd] at hstep
      exact .inl ⟨[], locale, locales, d, rfl, by simp, hd, hstep⟩
    · have hvain : (offer answer locale).Vain := not_exists.1 husable
      have hgo : (searchDecks (recorded answer) (locale :: locales)).run log =
          let (search, log) := (searchDecks (recorded answer) locales).run (log ++ [locale])
          (⟨locale :: search.asked,
            search.outcome.mapError ((offer answer locale).report locale ++ ·)⟩, log) := by
        rw [hstep]
        cases ho : offer answer locale with
        | usable d => exact absurd ho (hvain d)
        | absent => rfl
        | broken fault => rfl
      obtain ⟨before, found, after, d, rfl, hbefore, hd, hrun⟩ | ⟨hall, hrun⟩ :=
        ih (log ++ [locale])
      · refine .inl ⟨locale :: before, found, after, d, rfl,
          List.forall_mem_cons.2 ⟨hvain, hbefore⟩, hd, ?_⟩
        rw [hgo, hrun, List.append_assoc]
        rfl
      · refine .inr ⟨List.forall_mem_cons.2 ⟨hvain, hall⟩, ?_⟩
        rw [hgo, hrun, List.append_assoc]
        rfl

/-- What a source that answers from a table is asked for, and what comes of it. -/
theorem searchDecks_tries :
    ∃ search, (searchDecks (recorded answer) locales).run [] = (search, search.asked) ∧
      search.asked <+: locales ∧
      (search.outcome.isOk = true ↔ ∃ l ∈ locales, ∃ d, offer answer l = .usable d) ∧
      (∀ found, search.outcome = .ok found → ∃ before, search.asked = before ++ [found.locale] ∧
        (∀ l ∈ before, (offer answer l).Vain) ∧ offer answer found.locale = .usable found.deck) ∧
      ∀ faults, search.outcome = .error faults → search.asked = locales ∧
        faults = locales.flatMap fun l => (offer answer l).report l := by
  obtain ⟨before, found, after, d, rfl, hbefore, hd, hrun⟩ | ⟨hall, hrun⟩ :=
    run_searchDecks answer locales []
  · rw [List.nil_append] at hrun
    refine ⟨_, hrun, ⟨after, by simp⟩, ?_, ?_, ?_⟩
    · exact iff_of_true rfl ⟨found, by simp, d, hd⟩
    · intro _ hfound
      obtain rfl := Except.ok.inj hfound
      exact ⟨before, rfl, hbefore, hd⟩
    · intro faults hfaults
      cases hfaults
  · rw [List.nil_append] at hrun
    refine ⟨_, hrun, List.prefix_refl locales, ?_, ?_, ?_⟩
    · refine iff_of_false Bool.false_ne_true ?_
      rintro ⟨l, hl, d, hd⟩
      exact hall l hl d hd
    · intro found hfound
      cases hfound
    · intro _ hfaults
      exact ⟨rfl, (Except.error.inj hfaults).symm⟩

end Searching

/-- The text of a failure names the candidates, and behind them the faults if there are any. -/
theorem NoDeck.message_eq (n : NoDeck) :
    n.message = "no copy deck found for " ++ join ", " n.candidates ++
      if n.faults = [] then ""
      else " (" ++ join "; " (n.faults.map fun (c, fault) => c ++ ": " ++ fault) ++ ")" := by
  obtain ⟨candidates, faults⟩ := n
  cases faults with
  | nil => rfl
  | cons fault faults => rfl

/-- A source that answers from a table is asked for some first candidates, for each once and in
order. A deck is found just if there is a usable one, and then it is that of the first candidate with
one, which is the last that was asked for. Otherwise all candidates were asked for; the failure names
all of them, and after them, in order, those that were broken with their faults. -/
theorem loadForLocale_tries (answer : String → Except Failure (Option String)) (locale : String) :
    Locale.CandidatesFor locale (Locale.candidates locale) ∧
    ∃ asked result,
      (loadForLocale (recorded answer) locale).run [] = ((asked, result), asked) ∧
      asked <+: Locale.candidates locale ∧
      (result.isOk = true ↔ ∃ c ∈ Locale.candidates locale, ∃ d, offer answer c = .usable d) ∧
      (∀ found, result = .ok found → ∃ before, asked = before ++ [found.locale] ∧
        (∀ c ∈ before, (offer answer c).Vain) ∧ offer answer found.locale = .usable found.deck) ∧
      ∀ failure, result = .error failure → asked = Locale.candidates locale ∧
        failure.candidates = Locale.candidates locale ∧
        failure.faults = (Locale.candidates locale).flatMap (fun c => (offer answer c).report c) ∧
        failure.message = "no copy deck found for " ++ join ", " (Locale.candidates locale) ++
          if failure.faults = [] then ""
          else " (" ++ join "; " (failure.faults.map fun (c, fault) => c ++ ": " ++ fault) ++
            ")" := by
  refine ⟨Locale.candidatesFor_candidates locale, ?_⟩
  rw [loadForLocale, StateT.run_bind]
  -- How the candidates come about plays no part from here on.
  generalize Locale.candidates locale = candidates
  obtain ⟨⟨asked, outcome⟩, hrun, hprefix, hok, hfound, hfaults⟩ :=
    searchDecks_tries answer candidates
  rw [hrun]
  cases outcome with
  | ok found =>
    refine ⟨asked, .ok found, rfl, hprefix, hok, ?_, ?_⟩
    · intro _ h
      exact hfound _ (congrArg _ (Except.ok.inj h))
    · intro failure h
      cases h
  | error faults =>
    refine ⟨asked, .error ⟨candidates, faults⟩, rfl, hprefix, hok, ?_, ?_⟩
    · intro found h
      cases h
    · intro _ h
      obtain rfl := Except.error.inj h
      obtain ⟨hasked, rfl⟩ := hfaults faults rfl
      exact ⟨hasked, rfl, rfl, NoDeck.message_eq _⟩

end ErrorGuide
