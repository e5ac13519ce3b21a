import ErrorGuide.Command.Run
import ErrorGuide.Proofs.Command.Coverage
import ErrorGuide.Proofs.Deck.Locale
import ErrorGuide.Proofs.Text.Trimmed

/-! The warning that another deck than the requested one is used. A deck of a directory is that of the
first locale tried that has a usable one. The warning is given when that is not the first one tried at
all; but it is given also when the request is not written as it is tried. -/

namespace ErrorGuide
open Text

namespace Locale
variable {locale c : String}

structure IsTidy (locale : String) : Prop where
  trimmed : Trimmed locale.toList
  nonempty : locale ≠ ""

theorem IsTidy.head?_candidates (h : IsTidy locale) :
    (candidates locale).head? = some locale := by
  have htrim := trim_eq_self_iff.2 h.trimmed
  have hfirst := (candidatesFor_candidates locale).first (htrim.symm ▸ h.nonempty)
  rw [List.head?_eq_getElem?, hfirst, htrim]

theorem isTidy_default : IsTidy "en" := ⟨trim_eq_self_iff.1 rfl, by decide⟩

/-- Of a request with white space around it neither the trimmed form nor its base is the request. -/
theorem isTidy_of_mem_candidates (h : locale ∈ candidates locale) : IsTidy locale := by
  rcases (candidatesFor_candidates locale).only locale h with ⟨htrim, hne⟩ | hbase | rfl
  · exact ⟨trim_eq_self_iff.1 htrim.symm, hne⟩
  · have hlt := hbase.length_lt
    have hle := length_trim_le locale
    omega
  · exact isTidy_default

/-- The locale of a deck is the requested one just if it was the first one tried and the request is
tried as it is written. -/
theorem eq_request_iff (hc : c ∈ candidates locale) :
    c = locale ↔ (candidates locale).head? = some c ∧ IsTidy locale := by
  constructor
  · rintro rfl
    have htidy := isTidy_of_mem_candidates hc
    exact ⟨htidy.head?_candidates, htidy⟩
  · intro ⟨hhead, htidy⟩
    rw [htidy.head?_candidates] at hhead
    exact (Option.some.inj hhead).symm

end Locale

section Directory
variable (files : FileReader Id) (root : String)

def FileReader.HasDeck (locale : String) (d : Deck) : Prop :=
  ∃ text, (files.read (deckPath root locale)).run = .ok text ∧ Deck.ofText text = .ok d

structure IsFirstDeck (locales : List String) (found : LoadedDeck) : Prop where
  hasDeck : files.HasDeck root found.locale found.deck
  first : ∃ before after, locales = before ++ found.locale :: after ∧
    ∀ c ∈ before, ∀ d, ¬files.HasDeck root c d

variable {files root} {locale : String} {locales : List String} {d : Deck} {found : LoadedDeck}

theorem IsFirstDeck.mem (h : IsFirstDeck files root locales found) : found.locale ∈ locales := by
  obtain ⟨before, after, rfl, -⟩ := h.first
  simp

/-- The deck is not that of the first locale just if that one has no usable deck. -/
theorem IsFirstDeck.head?_ne_iff (h : IsFirstDeck files root locales found) :
    locales.head? ≠ some found.locale ↔ ∀ c ∈ locales.head?, ∀ d, ¬files.HasDeck root c d := by
  obtain ⟨before, after, rfl, hbefore⟩ := h.first
  cases before with
  | nil => simpa using ⟨_, h.hasDeck⟩
  | cons c before =>
    have hnone := hbefore c List.mem_cons_self
    have hne : c ≠ found.locale := fun hc => hnone found.deck (hc ▸ h.hasDeck)
    simpa [hne] using hnone

theorem fetchDeck_eq_ok_some_iff {text : String} :
    (fetchDeck files root locale).run = .ok (some text) ↔
      (files.read (deckPath root locale)).run = .ok text := by
  rw [fetchDeck, Id.run_bind]
  cases (files.read (deckPath root locale)).run with
  | ok text' => simp
  | error f => cases f <;> simp

theorem offer_fetchDeck_eq_usable_iff :
    offer (fetchDeck files root) locale = .usable d ↔ files.HasDeck root locale d := by
  simp only [FileReader.HasDeck, ← fetchDeck_eq_ok_some_iff]
  exact Offer.ofAnswer_eq_usable_iff

/-- The search ends at the first usable deck, or there is none. -/
theorem searchDecks_finds (files : FileReader Id) (root : String) (locales : List String) :
    (∃ found, (searchDecks (m := Id) (fetchDeck files root) locales).outcome = .ok found ∧
      IsFirstDeck files root locales found) ∨
    (∃ faults, (searchDecks (m := Id) (fetchDeck files root) locales).outcome = .error faults) ∧
      ∀ c ∈ locales, ∀ d, ¬files.HasDeck root c d := by
  have hvain (c : String) (h : (offer (fetchDeck files root) c).Vain) (d : Deck) :
      ¬files.HasDeck root c d := fun hd => h d (offer_fetchDeck_eq_usable_iff.2 hd)
  rw [searchDecks_eq_run (fetchDeck files root) locales []]
  obtain ⟨before, c, after, d, hlocales, hbefore, hd, hrun⟩ | ⟨hall, hrun⟩ :=
    run_searchDecks (fetchDeck files root) locales []
  · refine .inl ⟨⟨c, d⟩, by rw [hrun], offer_fetchDeck_eq_usable_iff.1 hd, before, after, hlocales, ?_⟩
    exact fun b hb => hvain b (hbefore b hb)
  · exact .inr ⟨⟨_, by rw [hrun]⟩, fun c hc => hvain c (hall c hc)⟩

theorem run_loadDeck_tree (files : FileReader Id) (root locale : String) :
    (loadDeck files (.tree root locale)).run =
      ((searchDecks (m := Id) (fetchDeck files root) (Locale.candidates locale)).outcome.mapError
        fun faults => Failure.mk ("load copy deck from " ++ root)
          [NoDeck.message ⟨Locale.candidates locale, faults⟩]).map
        fun found => ⟨found, found.locale ≠ locale⟩ := by
  rw [loadDeck, loadForLocale]
  generalize searchDecks (m := Id) (fetchDeck files root) (Locale.candidates locale) = search
  obtain ⟨asked, outcome⟩ := search
  cases outcome with
  | ok found => rfl
  | error faults => rfl

theorem exists_loadDeck_iff : (∃ l, (loadDeck files (.tree root locale)).run = .ok l) ↔
    ∃ c ∈ Locale.candidates locale, ∃ d, files.HasDeck root c d := by
  rw [run_loadDeck_tree]
  obtain ⟨found, hfound, hfirst⟩ | ⟨⟨faults, hfaults⟩, hnone⟩ :=
    searchDecks_finds files root (Locale.candidates locale)
  · rw [hfound]
    exact iff_of_true ⟨_, rfl⟩ ⟨_, hfirst.mem, _, hfirst.hasDeck⟩
  · rw [hfaults]
    refine iff_of_false ?_ ?_
    · intro ⟨l, hl⟩
      cases hl
    · intro ⟨c, hc, d, hd⟩
      exact hnone c hc d hd

/-- A deck that is loaded is that of the first candidate with a usable one, and it is taken for another
than the requested one just if its locale is not written as the request. -/
theorem of_loadDeck_tree {l : Loading} (h : (loadDeck files (.tree root locale)).run = .ok l) :
    IsFirstDeck files root (Locale.candidates locale) l.loaded ∧
      (l.isOther = true ↔ l.loaded.locale ≠ locale) := by
  rw [run_loadDeck_tree] at h
  obtain ⟨found, hfound, hfirst⟩ | ⟨⟨faults, hfaults⟩, -⟩ :=
    searchDecks_finds files root (Locale.candidates locale)
  · rw [hfound] at h
    obtain rfl := Except.ok.inj h
    exact ⟨hfirst, decide_eq_true_iff⟩
  · rw [hfaults] at h
    cases h

end Directory

namespace Command
variable {files : FileReader Id} {place : DeckPlace} {o : ExplainOptions} {root locale : String}
  {l : Loading}

theorem otherDeck_tree_ne_nil_iff : otherDeck (.tree root locale) l ≠ [] ↔ l.isOther = true := by
  rw [otherDeck]
  split <;> simp_all

/-- The command warns of no more than what it found when it loaded its deck. -/
theorem warnings_explain {given : Materials} (h : (gather files place o).run = .ok given) :
    (loadDeck files place).run = .ok given.loading ∧
      (explain files place o).warnings = otherDeck place given.loading := by
  constructor
  · rw [gather] at h
    obtain ⟨format, -, h⟩ := run_bind_eq_ok.1 h
    obtain ⟨error, -, h⟩ := run_bind_eq_ok.1 h
    obtain ⟨code, -, h⟩ := run_bind_eq_ok.1 h
    obtain ⟨loading, hloading, h⟩ := run_bind_eq_ok.1 h
    obtain rfl := Except.ok.inj h
    exact hloading
  · rw [explain, h]
    dsimp only [bind, pure]
    split <;> rfl

/-- In files that do not change, a deck of a directory is loaded just if some candidate for the request
has a usable one, and it is that of the first such candidate. The command warns whenever this is not the
first candidate of all, that is, whenever that one has no usable deck. Beyond that it warns of a request
that is not tried as it is written, whatever deck is loaded, and never else. -/
theorem warns_exact (files : FileReader Id) (root locale : String) :
    ((∃ l, (loadDeck files (.tree root locale)).run = .ok l) ↔
      ∃ c ∈ Locale.candidates locale, ∃ d, files.HasDeck root c d) ∧
    ∀ l, (loadDeck files (.tree root locale)).run = .ok l →
      IsFirstDeck files root (Locale.candidates locale) l.loaded ∧
      ((Locale.candidates locale).head? ≠ some l.loaded.locale ↔
        ∀ c ∈ (Locale.candidates locale).head?, ∀ d, ¬files.HasDeck root c d) ∧
      (otherDeck (.tree root locale) l ≠ [] ↔
        (Locale.candidates locale).head? ≠ some l.loaded.locale ∨ ¬Locale.IsTidy locale) ∧
      ∀ o given, (gather files (.tree root locale) o).run = .ok given →
        (explain files (.tree root locale) o).warnings = otherDeck (.tree root locale) l := by
  refine ⟨exists_loadDeck_iff, fun l hl => ?_⟩
  obtain ⟨hfirst, hother⟩ := of_loadDeck_tree hl
  refine ⟨hfirst, hfirst.head?_ne_iff, ?_, fun o given hgiven => ?_⟩
  · rw [otherDeck_tree_ne_nil_iff, hother, Ne, Locale.eq_request_iff hfirst.mem, not_and_or]
  · obtain ⟨hloading, hwarnings⟩ := warnings_explain hgiven
    rw [hl] at hloading
    rw [hwarnings, Except.ok.inj hloading]

def treeFiles (t : FileTree) : FileReader Id where
  read := t.read
  readInput := .ok ""

def englishOnly : FileReader Id :=
  treeFiles [("decks", .directory [("en", .directory (Tasks.written Deck.sparse))])]

theorem hasDeck_englishOnly : englishOnly.HasDeck "decks" "en" Deck.sparse :=
  ⟨_, rfl, Tasks.ofText_written Tasks.legible_one⟩

theorem exists_gather_englishOnly (locale : String) (h : "en" ∈ Locale.candidates locale) :
    ∃ l, (loadDeck englishOnly (.tree "decks" locale)).run = .ok l ∧
      (gather englishOnly (.tree "decks" locale) {}).run = .ok ⟨.text, "", none, l⟩ := by
  obtain ⟨l, hl⟩ := exists_loadDeck_iff.2 ⟨"en", h, _, hasDeck_englishOnly⟩
  refine ⟨l, hl, ?_⟩
  rw [gather]
  refine run_bind_eq_ok.2 ⟨.text, rfl, run_bind_eq_ok.2 ⟨"", rfl, ?_⟩⟩
  exact run_bind_eq_ok.2 ⟨none, rfl, run_bind_eq_ok.2 ⟨l, hl, rfl⟩⟩

theorem candidates_padded : Locale.candidates " en " = ["en"] := by decide

theorem not_isTidy_padded : ¬Locale.IsTidy " en " := by
  intro h
  exact absurd (h.trimmed.head ' ' rfl) (by decide)

/-- The same deck is loaded for both requests, but there is a warning for the one with blanks around
it. -/
theorem warns_exact_padded :
    (explain englishOnly (.tree "decks" "en") {}).warnings = [] ∧
    (explain englishOnly (.tree "decks" " en ") {}).warnings ≠ [] ∧
    ∃ l, (loadDeck englishOnly (.tree "decks" " en ")).run = .ok l ∧
      IsFirstDeck englishOnly "decks" ["en"] l.loaded := by
  obtain ⟨l, hl, hgather⟩ := exists_gather_englishOnly "en" (by decide)
  obtain ⟨l', hl', hgather'⟩ := exists_gather_englishOnly " en " (by decide)
  refine ⟨?_, ?_, l', hl', ?_⟩
  · obtain ⟨hfirst, -, hwarns, hexplain⟩ := (warns_exact englishOnly "decks" "en").2 l hl
    have hlocale : l.loaded.locale = "en" := List.mem_singleton.1 hfirst.mem
    rw [hexplain {} _ hgather]
    by_contra hne
    rcases hwarns.1 hne with hother | huntidy
    · exact hother (by rw [hlocale]; decide)
    · exact huntidy Locale.isTidy_default
  · obtain ⟨-, -, hwarns, hexplain⟩ := (warns_exact englishOnly "decks" " en ").2 l' hl'
    rw [hexplain {} _ hgather']
    exact hwarns.2 (.inr not_isTidy_padded)
  · exact candidates_padded ▸ ((warns_exact englishOnly "decks" " en ").2 l' hl').1

/-- There is a warning though the first candidate for the request was loaded. -/
theorem not_forall_warns_truly :
    ¬∀ (files : FileReader Id) (root locale : String) (l : Loading),
      (loadDeck files (.tree root locale)).run = .ok l →
        (otherDeck (.tree root locale) l ≠ [] ↔
          (Locale.candidates locale).head? ≠ some l.loaded.locale) := by
  intro h
  obtain ⟨l, hl, -⟩ := exists_gather_englishOnly " en " (by decide)
  obtain ⟨hfirst, hother⟩ := of_loadDeck_tree hl
  have hlocale : l.loaded.locale = "en" := List.mem_singleton.1 (candidates_padded ▸ hfirst.mem)
  have hwarns : otherDeck (.tree "decks" " en ") l ≠ [] :=
    otherDeck_tree_ne_nil_iff.2 (hother.2 (by rw [hlocale]; decide))
  exact (h _ _ _ l hl).1 hwarns (by rw [hlocale]; decide)

end Command

end ErrorGuide
