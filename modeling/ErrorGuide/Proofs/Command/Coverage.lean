import ErrorGuide.Proofs.Command.Collection
import ErrorGuide.Proofs.Deck.Malformed
import ErrorGuide.Proofs.Deck.Schema

/-! Checking a collection of decks. -/

namespace ErrorGuide.Command.Tasks
open Json
variable {wording : Pattern.Wording} {t collection : FileTree} {locale : String}

/-- In order, names are the same however they came. -/
theorem sorted_eq_of_perm {names names' : List String} (h : names.Perm names') :
    (names.mergeSort fun a b => decide (a ≤ b)) = names'.mergeSort fun a b => decide (a ≤ b) := by
  have hsorted (names : List String) : (names.mergeSort fun a b => decide (a ≤ b)).Pairwise
      fun a b => decide (a ≤ b) = true := by
    refine @List.pairwise_mergeSort String (fun a b => decide (a ≤ b)) (fun a b c hab hbc => ?_)
      (fun a b => ?_) names
    · exact decide_eq_true (String.le_trans (of_decide_eq_true hab) (of_decide_eq_true hbc))
    · simpa using String.le_total a b
  refine List.Perm.eq_of_pairwise (fun a b _ _ hab hba => ?_) (hsorted names) (hsorted names') ?_
  · exact String.le_antisymm (of_decide_eq_true hab) (of_decide_eq_true hba)
  · exact (List.mergeSort_perm _ _).trans (h.trans (List.mergeSort_perm _ _).symm)

/-! Sound collections. -/

def Passes (locale : String) (text : Option String) : Prop :=
  ∃ s j d, text = some s ∧ Json.ofText s = .ok j ∧ Schema.deck.ValidAsPublished j ∧
    Deck.ofText s = .ok d ∧ d.edition.language = locale ∧ ∀ l ∈ d.lints, l.level ≠ .error

def IsDeckOf (collection : FileTree) (locale : String) (d : Deck) : Prop :=
  ∃ s, HasDeck collection locale (some s) ∧ Deck.ofText s = .ok d

structure Sound (collection : FileTree) : Prop where
  exists_deck : ∃ locale text, HasDeck collection locale text
  passes : ∀ locale text, HasDeck collection locale text → Passes locale text
  english : ∃ english, IsDeckOf collection "en" english ∧
    ∀ locale d, IsDeckOf collection locale d → ∀ kind ∈ d.errors.keys, kind ∈ english.errors.keys

theorem deckProblems_eq_nil {d : Deck} : deckProblems wording locale d = [] ↔
    d.edition.language = locale ∧ ∀ l ∈ d.lints, l.level ≠ .error := by
  simp [deckProblems, Lint.isError]

theorem problems_examine_eq_nil {s : String} {j : Json} : (examine wording locale s j).problems = [] ↔
    Schema.deck.ValidAsPublished j ∧ ∃ d, Deck.ofText s = .ok d ∧ d.edition.language = locale ∧
      ∀ l ∈ d.lints, l.level ≠ .error := by
  rw [Schema.validAsPublished_deck, Schema.accepts_iff, examine]
  cases Deck.ofText s with
  | error cause => simp
  | ok d => simp [deckProblems_eq_nil, List.replicate_eq_nil_iff]

theorem foreignKinds_eq_nil {english d : Deck} : foreignKinds english locale d = [] ↔
    ∀ kind ∈ d.errors.keys, kind ∈ english.errors.keys := by
  simp [foreignKinds, Deck.hasKind, OrderedMap.contains_iff]

theorem problems_eq_nil {es : List Examined} : problems es = [] ↔
    (∀ e ∈ es, e.problems = []) ∧ ∃ english, (readable es).lookup "en" = some english ∧
      ∀ p ∈ readable es, ∀ kind ∈ p.2.errors.keys, kind ∈ english.errors.keys := by
  rw [problems]
  have hdefault : Locale.default = "en" := rfl
  cases h : (readable es).lookup Locale.default with
  | none => simp [← hdefault, h]
  | some english => simp [← hdefault, h, foreignKinds_eq_nil]

theorem exitCode_verdict {es : List Examined} : (verdict es).exitCode = 0 ↔ problems es = [] := by
  rw [verdict]
  cases problems es <;> simp [failing, Outcome.ofFailure]

theorem exitCode_coverage (input : String) : (coverage wording input t).1.exitCode = 0 ↔
    ∃ es, allExamined wording t = .ok es ∧ problems es = [] := by
  rw [coverage_eq]
  cases allExamined wording t with
  | error f => simp [failing, Outcome.ofFailure]
  | ok es => simp [exitCode_verdict]

theorem isDeckOf_inj (hl : Listing collection) {d d' : Deck} (h : IsDeckOf collection locale d)
    (h' : IsDeckOf collection locale d') : d = d' := by
  obtain ⟨s, hs, hd⟩ := h
  obtain ⟨s', hs', hd'⟩ := h'
  cases hasDeck_inj hl hs hs'
  exact Except.ok.inj (hd.symm.trans hd')

theorem mem_readable (hl : Listing collection) {es : List Examined} {d : Deck}
    (hall : ∀ locale text, HasDeck collection locale text → ∃ e, Examines wording collection locale e)
    (hmem : ∀ e, e ∈ es ↔ ∃ locale, Examines wording collection locale e) :
    (locale, d) ∈ readable es ↔ IsDeckOf collection locale d := by
  have hdeck {s : String} {j : Json} (locale : String) :
      (examine wording locale s j).deck = some d ↔ Deck.ofText s = .ok d := by
    rw [examine]
    cases Deck.ofText s <;> simp
  simp only [readable, List.mem_filterMap, hmem, Option.map_eq_some_iff, Prod.mk.injEq]
  constructor
  · rintro ⟨e, ⟨locale', s, j, hs, -, rfl⟩, d', hd, rfl, rfl⟩
    exact ⟨s, hs, (hdeck locale').1 hd⟩
  · rintro ⟨s, hs, hd⟩
    obtain ⟨e, s', j, hs', hj, rfl⟩ := hall locale _ hs
    cases hasDeck_inj hl hs hs'
    exact ⟨_, ⟨locale, s, j, hs, hj, rfl⟩, d, (hdeck locale).2 hd, rfl, rfl⟩

theorem mem_of_lookup {α : Type} {k : String} {v : α} {es : List (String × α)}
    (h : es.lookup k = some v) : (k, v) ∈ es := by
  obtain ⟨before, after, rfl, -⟩ := List.lookup_eq_some_iff.1 h
  simp

/-- The check succeeds just on sound collections. -/
theorem exitCode_coverage_iff_sound (input : String)
    (hfind : t.find deckDirectory = .ok (.directory collection)) (hl : Listing collection) :
    (coverage wording input t).1.exitCode = 0 ↔ Sound collection := by
  rw [exitCode_coverage]
  constructor
  · rintro ⟨es, hes, hproblems⟩
    obtain ⟨hsome, hall⟩ := (exists_allExamined hfind hl).1 ⟨es, hes⟩
    have hmem := mem_allExamined hfind hl hes
    obtain ⟨hfine, english, henglish, hkinds⟩ := problems_eq_nil.1 hproblems
    refine ⟨hsome, fun locale text h => ?_, english, ?_, fun locale d hd => ?_⟩
    · obtain ⟨e, s, j, hs, hj, rfl⟩ := hall locale text h
      have hexamined := (hmem _).2 ⟨locale, s, j, hs, hj, rfl⟩
      obtain ⟨hvalid, d, hd, hlanguage, hlints⟩ := problems_examine_eq_nil.1 (hfine _ hexamined)
      exact ⟨s, j, d, hasDeck_inj hl h hs, hj, hvalid, hd, hlanguage, hlints⟩
    · exact (mem_readable hl hall hmem).1 (mem_of_lookup henglish)
    · exact hkinds _ ((mem_readable hl hall hmem).2 hd)
  · rintro ⟨hsome, hpasses, english, henglish, hkinds⟩
    have hall : ∀ locale text, HasDeck collection locale text →
        ∃ e, Examines wording collection locale e := by
      intro locale text h
      obtain ⟨s, j, d, rfl, hj, -⟩ := hpasses locale text h
      exact ⟨_, s, j, h, hj, rfl⟩
    obtain ⟨es, hes⟩ := (exists_allExamined hfind hl).2 ⟨hsome, hall⟩
    have hmem := mem_allExamined hfind hl hes
    refine ⟨es, hes, problems_eq_nil.2 ⟨fun e he => ?_, english, ?_, ?_⟩⟩
    · obtain ⟨locale, s, j, hs, hj, rfl⟩ := (hmem e).1 he
      obtain ⟨s', j', d, hs', hj', hvalid, hd⟩ := hpasses locale _ hs
      cases hs'
      cases hj.symm.trans hj'
      exact problems_examine_eq_nil.2 ⟨hvalid, d, hd⟩
    · have hen := (mem_readable hl hall hmem).2 henglish
      -- The lookup stops at the first deck of the locale; there is only one.
      cases hlookup : (readable es).lookup "en" with
      | none =>
        have hne : ("en" != "en") = true := List.lookup_eq_none_iff.1 hlookup _ hen
        exact absurd hne (by decide)
      | some english' =>
        have hen' := (mem_readable hl hall hmem).1 (mem_of_lookup hlookup)
        rw [isDeckOf_inj hl hen' henglish]
    · rintro ⟨locale, d⟩ hd
      exact hkinds locale d ((mem_readable hl hall hmem).1 hd)

theorem exists_collection_of_exitCode {input : String} (h : (coverage wording input t).1.exitCode = 0) :
    ∃ collection, t.find deckDirectory = .ok (.directory collection) := by
  obtain ⟨es, hes, -⟩ := (exitCode_coverage input).1 h
  rw [allExamined, collected, FileTree.list] at hes
  cases hfind : t.find deckDirectory with
  | error f =>
    rw [hfind] at hes
    cases hes
  | ok node =>
    cases node with
    | file text =>
      rw [hfind] at hes
      cases hes
    | directory collection => exact ⟨collection, rfl⟩

/-! The order in which a directory is listed. -/

section Order
variable {t' collection' : FileTree}
  (hfind : t.find deckDirectory = .ok (.directory collection))
  (hfind' : t'.find deckDirectory = .ok (.directory collection'))
  (hl : Listing collection) (hperm : collection'.Perm collection)
include hfind hfind' hl hperm

theorem find_deckPath_perm (hn : IsFileName locale) :
    t'.find (deckPath deckDirectory locale) = t.find (deckPath deckDirectory locale) := by
  have hdistinct : (collection'.map (·.1)).Nodup := (hperm.map _).nodup_iff.2 hl.distinct
  have hlookup : collection'.lookup locale = collection.lookup locale := by
    ext node
    rw [lookup_eq_some_iff_mem hdistinct, lookup_eq_some_iff_mem hl.distinct, hperm.mem_iff]
  rw [find_deckPath hfind hn, find_deckPath hfind' hn, hlookup]

/-- The decks come in the order of their locales. -/
theorem locales_perm : locales t' (collection'.map (·.1)) = locales t (collection.map (·.1)) := by
  have hnames : (collection'.map (·.1)).Perm (collection.map (·.1)) := hperm.map _
  have hfilter : ((collection'.map (·.1)).filter fun name =>
      t'.isFile (deckPath deckDirectory name)) = (collection'.map (·.1)).filter fun name =>
        t.isFile (deckPath deckDirectory name) := by
    refine List.filter_congr fun name hname => ?_
    have hn := hl.isFileName name (hnames.mem_iff.1 hname)
    rw [FileTree.isFile, FileTree.isFile, find_deckPath_perm hfind hfind' hl hperm hn]
  rw [locales, locales, hfilter]
  exact sorted_eq_of_perm (hnames.filter _)

theorem allExamined_perm : allExamined wording t' = allExamined wording t := by
  have hexamined (locale : String) (h : locale ∈ locales t (collection.map (·.1))) :
      examined wording t' (locale, deckPath deckDirectory locale) =
        examined wording t (locale, deckPath deckDirectory locale) := by
    have hn := isFileName_of_mem_locales hfind hl h
    rw [examined, examined, FileTree.read, FileTree.read,
      find_deckPath_perm hfind hfind' hl hperm hn]
  rw [allExamined, allExamined, collected_eq hfind, collected_eq hfind',
    locales_perm hfind hfind' hl hperm, ok_bind, ok_bind,
    mapM_congr (List.forall_mem_map.2 hexamined)]

theorem coverage_perm (input : String) : (coverage wording input t').1 = (coverage wording input t).1 := by
  rw [coverage_eq, coverage_eq, allExamined_perm hfind hfind' hl hperm]

end Order

/-! What a sound collection is good for. -/

theorem keyFor_eq_kind {d : Deck} {kind : Option String} {name : String} :
    d.keyFor kind = .kind name ↔ kind = some name ∧ name ∈ d.errors.keys := by
  cases kind with
  | none => simp [Deck.keyFor, EntryKey.resolve]
  | some kind =>
    simp only [Deck.keyFor, EntryKey.resolve, Deck.hasKind, OrderedMap.contains_iff,
      Option.some.injEq]
    split
    · next h =>
      rw [EntryKey.kind.injEq]
      exact ⟨fun hkind => ⟨hkind, hkind ▸ h⟩, And.left⟩
    · next h =>
      simp only [reduceCtorEq, false_iff]
      rintro ⟨rfl, hname⟩
      exact h hname

/-- A deck without errors among its problems has no pattern and no term to pass over. -/
theorem compiles_of_lints {d : Deck} (h : ∀ l ∈ d.lints, l.level ≠ .error) :
    (∀ kind index filter, ∀ p ∈ d.patternsAt kind index filter, Pattern.compiles p = true) ∧
      ∀ audience, ∀ term ∈ d.termsOf audience, Pattern.compiles term = true := by
  have hwarnings : ∀ l ∈ d.lints, l.level = .warning := by
    intro l hl
    cases hlevel : l.level with
    | error => exact absurd hlevel (h l hl)
    | warning => rfl
  refine ⟨fun kind index filter p hp => ?_, fun audience term hterm => ?_⟩
  · exact compiles_of_warnings _ (fun _ => rfl) (d.count_badPattern kind index filter p) hwarnings
      (List.count_pos_iff.2 hp)
  · exact compiles_of_warnings _ (fun _ => rfl) (d.count_badTerm audience term) hwarnings
      (List.count_pos_iff.2 hterm)

/-- The check of the decks below a directory succeeds just if they are sound, and leaves the files
as they are. The order in which the directory is listed counts for nothing. After a success, what a
trace finds under its own kind in some deck it finds under that kind in the English one, and no deck
has a pattern or a term that would be passed over. -/
theorem coverage_exact (wording : Pattern.Wording) (input : String) (t : FileTree)
    (hl : ∀ collection, t.find deckDirectory = .ok (.directory collection) → Listing collection) :
    (coverage wording input t).2 = t ∧
    ((coverage wording input t).1.exitCode = 0 ↔
      ∃ collection, t.find deckDirectory = .ok (.directory collection) ∧ Sound collection) ∧
    (∀ t' collection collection', t.find deckDirectory = .ok (.directory collection) →
      t'.find deckDirectory = .ok (.directory collection') → collection'.Perm collection →
        (coverage wording input t').1 = (coverage wording input t).1) ∧
    ((coverage wording input t).1.exitCode = 0 → ∃ collection english,
      t.find deckDirectory = .ok (.directory collection) ∧ IsDeckOf collection "en" english ∧
      ∀ locale d, IsDeckOf collection locale d →
        (∀ (error : Trace) kind, d.keyFor error.kind = .kind kind →
          english.keyFor error.kind = .kind kind) ∧
        (∀ kind index filter, ∀ p ∈ d.patternsAt kind index filter, Pattern.compiles p = true) ∧
        ∀ audience, ∀ term ∈ d.termsOf audience, Pattern.compiles term = true) := by
  have hsound : (coverage wording input t).1.exitCode = 0 → ∃ collection,
      t.find deckDirectory = .ok (.directory collection) ∧ Sound collection := by
    intro h
    obtain ⟨collection, hfind⟩ := exists_collection_of_exitCode h
    exact ⟨collection, hfind, (exitCode_coverage_iff_sound input hfind (hl _ hfind)).1 h⟩
  refine ⟨by rw [coverage_eq], ⟨hsound, ?_⟩, ?_, fun h => ?_⟩
  · rintro ⟨collection, hfind, h⟩
    exact (exitCode_coverage_iff_sound input hfind (hl _ hfind)).2 h
  · intro t' collection collection' hfind hfind' hperm
    exact coverage_perm hfind hfind' (hl _ hfind) hperm input
  · obtain ⟨collection, hfind, -, hpasses, english, henglish, hkinds⟩ := hsound h
    refine ⟨collection, english, hfind, henglish, fun locale d hd => ?_⟩
    refine ⟨fun error kind hkey => ?_, ?_⟩
    · obtain ⟨hkind, hmem⟩ := keyFor_eq_kind.1 hkey
      exact keyFor_eq_kind.2 ⟨hkind, hkinds locale d hd kind hmem⟩
    · obtain ⟨s, hs, hd⟩ := hd
      obtain ⟨s', j, d', hs', -, -, hd', -, hlints⟩ := hpasses locale _ hs
      cases hs'
      cases hd.symm.trans hd'
      exact compiles_of_lints hlints

def french : Deck where
  edition := ⟨"fr", .ofNat false 1⟩
  errors := ⟨[("NameError", ⟨[{ title := "Nom inconnu", summary := "s" }]⟩)], by decide⟩

def written (d : Deck) : FileTree := [(deckFileName, .file (some d.encode.toCompact))]

/-- A collection that is not listed in order, with a directory that has no deck. -/
def sampleCollection : FileTree := [
  ("fr", .directory (written french)), ("drafts", .directory []),
  ("en", .directory (written Deck.sparse))]

def placed (collection : FileTree) : FileTree := [
  ("crates", .directory [("pfem-test-util", .directory [])]),
  ("tests", .directory [("fixtures", .directory [("copydecks", .directory collection)])])]

theorem find_placed (collection : FileTree) :
    (placed collection).find deckDirectory = .ok (.directory collection) := by
  rfl

theorem hasDeck_sampleCollection {text : Option String} : HasDeck sampleCollection locale text ↔
    (locale = "fr" ∧ text = some french.encode.toCompact) ∨
      (locale = "en" ∧ text = some Deck.sparse.encode.toCompact) := by
  simp [HasDeck, sampleCollection, written, or_and_right, exists_or, eq_comm]

theorem legible_one : (Json.Number.real (.ofNat false 1)).Legible := by
  have hprint : toCompact (.num (.real (.ofNat false 1))) = "1.0" := by decide +kernel
  refine legible_of_ofText ?_
  rw [hprint]
  rfl

theorem ofText_written {d : Deck} (h : (Json.Number.real d.edition.version).Legible) :
    Deck.ofText d.encode.toCompact = .ok d :=
  d.ofText_of_mem_texts h List.mem_cons_self

/-- A deck that is written passes under its own language, if it has no errors. -/
theorem passes_written {d : Deck} (h : (Json.Number.real d.edition.version).Legible)
    (hvalid : Schema.deck.ValidAsPublished (sorted d.encode))
    (hlints : ∀ l ∈ d.lints, l.level ≠ .error) :
    Passes d.edition.language (some d.encode.toCompact) := by
  have hreadable := d.readable_encode h
  have hjson : Json.ofText d.encode.toCompact = .ok (sorted d.encode) :=
    ofText_of_readText (readText_toCompact hreadable.legible)
      (Nat.lt_of_le_of_lt hreadable.nesting_le (by decide))
  exact ⟨_, _, _, rfl, hjson, hvalid, ofText_written h, rfl, hlints⟩

theorem isDeckOf_sampleCollection {d : Deck} : IsDeckOf sampleCollection locale d ↔
    (locale = "fr" ∧ d = french) ∨ (locale = "en" ∧ d = Deck.sparse) := by
  have hfrench : Deck.ofText french.encode.toCompact = .ok french := ofText_written legible_one
  have henglish : Deck.ofText Deck.sparse.encode.toCompact = .ok Deck.sparse :=
    ofText_written legible_one
  simp only [IsDeckOf, hasDeck_sampleCollection, Option.some.injEq]
  constructor
  · intro h
    obtain ⟨s, ⟨rfl, rfl⟩ | ⟨rfl, rfl⟩, hd⟩ := h
    · exact .inl ⟨rfl, Except.ok.inj (hd.symm.trans hfrench)⟩
    · exact .inr ⟨rfl, Except.ok.inj (hd.symm.trans henglish)⟩
  · intro h
    obtain ⟨rfl, rfl⟩ | ⟨rfl, rfl⟩ := h
    · exact ⟨_, .inl ⟨rfl, rfl⟩, hfrench⟩
    · exact ⟨_, .inr ⟨rfl, rfl⟩, henglish⟩

theorem sound_sampleCollection : Sound sampleCollection := by
  have hsome := hasDeck_sampleCollection.2 (.inr ⟨rfl, rfl⟩)
  refine ⟨⟨_, _, hsome⟩, fun locale text h => ?_, Deck.sparse, ?_, ?_⟩
  · obtain ⟨rfl, rfl⟩ | ⟨rfl, rfl⟩ := hasDeck_sampleCollection.1 h
    · exact passes_written (d := french) legible_one (Schema.validAsPublished_deck.2 rfl) (by decide)
    · exact passes_written (d := Deck.sparse) legible_one (Schema.validAsPublished_deck.2 rfl)
        (by decide)
  · exact isDeckOf_sampleCollection.2 (.inr ⟨rfl, rfl⟩)
  · intro locale d hd kind hkind
    obtain ⟨-, rfl⟩ | ⟨-, rfl⟩ := isDeckOf_sampleCollection.1 hd
    · obtain rfl : kind = "NameError" := List.mem_singleton.1 hkind
      decide
    · exact hkind

theorem listing_sampleCollection : Listing sampleCollection := by
  refine ⟨by decide, fun name hname => ?_⟩
  simp only [sampleCollection, List.map_cons, List.map_nil, List.mem_cons, List.not_mem_nil,
    or_false] at hname
  obtain rfl | rfl | rfl := hname <;>
    exact ⟨by decide, by decide, by decide, by decide, by decide⟩

def bareWording : Pattern.Wording := fun _ fault => fault.message

/-- The check succeeds on the collection, and leaves the same behind when it is listed the other way
round. -/
theorem coverage_sampleCollection :
    (coverage bareWording "" (placed sampleCollection)).1.exitCode = 0 ∧
      (coverage bareWording "" (placed sampleCollection.reverse)).1 =
        (coverage bareWording "" (placed sampleCollection)).1 := by
  have hlisting : ∀ collection, (placed sampleCollection).find deckDirectory =
      .ok (.directory collection) → Listing collection := by
    intro collection h
    cases (find_placed sampleCollection).symm.trans h
    exact listing_sampleCollection
  obtain ⟨-, hsound, hperm, -⟩ :=
    coverage_exact bareWording "" (placed sampleCollection) hlisting
  exact ⟨hsound.2 ⟨_, find_placed _, sound_sampleCollection⟩,
    hperm _ _ _ (find_placed _) (find_placed _) (List.reverse_perm _)⟩

end ErrorGuide.Command.Tasks
