import ErrorGuide.Command.Tasks
import ErrorGuide.Proofs.Data.Result
import ErrorGuide.Proofs.Files.Reading
import ErrorGuide.Proofs.Files.Tree

/-! Examining a collection of decks. -/

namespace ErrorGuide.Command.Tasks
open Json

/-! What there is to examine. -/

section Evaluation
variable (wording : Pattern.Wording) (input : String) (t : FileTree)

def locales (names : List String) : List String :=
  (names.filter fun name => t.isFile (deckPath deckDirectory name)).mergeSort
    fun a b => decide (a ≤ b)

def collected : Except Failure (List (String × String)) := do
  let names ← (t.list deckDirectory).mapError (·.during "Failed to list fixture decks")
  return (locales t names).map fun name => (name, deckPath deckDirectory name)

def examined (deck : String × String) : Except Failure Examined := do
  let text ← (t.read deck.2).mapError (·.during ("Failed to read " ++ deck.2))
  let j ← (Json.ofText text).mapError fun f =>
    Failure.mk ("Failed to parse " ++ deck.2 ++ " as JSON") [f.message]
  return examine wording deck.1 text j

def allExamined : Except Failure (List Examined) := do
  let decks ← collected t
  if decks.isEmpty then throw ⟨"no fixture decks under " ++ deckDirectory, []⟩
  decks.mapM (examined wording t)

theorem gives_collect : Gives t (collect (FileTree.store input)) (collected t) := by
  refine gives_bind rfl fun names => ?_
  have hpresent := filterM_eq (t := t) (p := fun name => t.isFile (deckPath deckDirectory name))
    (q := fun name => (FileTree.store input).isFile (deckPath deckDirectory name))
    (fun name => rfl) names
  exact gives_bind (gives_lift hpresent) fun present => gives_pure _

theorem gives_examineAll :
    Gives t (examineAll wording (FileTree.store input)) (allExamined wording t) := by
  refine gives_bind (gives_collect input t) fun decks => ?_
  split
  · rfl
  · exact gives_mapM fun deck => gives_bind rfl fun text => gives_bind rfl fun j => gives_pure _

def coverage : Outcome × FileTree :=
  (run wording (FileTree.store input) ["deck-coverage"]).run t

theorem run_deckCoverage {m : Type → Type} [Monad m] (files : FileStore m) :
    run wording files ["deck-coverage"] = deckCoverage wording files := by
  simp [run]

theorem coverage_eq : coverage wording input t =
    (match allExamined wording t with
      | .error f => failing f [] []
      | .ok examined => verdict examined, t) := by
  have hall : (examineAll wording (FileTree.store input)).run t = (allExamined wording t, t) :=
    gives_examineAll wording input t
  have hrun : (deckCoverage wording (FileTree.store input)).run t =
      StateT.run (match ((examineAll wording (FileTree.store input)).run t).1 with
        | .error f => return failing f [] []
        | .ok examined => return verdict examined)
      ((examineAll wording (FileTree.store input)).run t).2 := rfl
  rw [coverage, run_deckCoverage, hrun, hall]
  cases allExamined wording t <;> rfl

end Evaluation

/-! The decks of a collection. -/

section Collections
variable {wording : Pattern.Wording} {t collection : FileTree} {locale : String}
  {text : Option String}

/-- The collection has a deck of the locale, with this text; `none` if its bytes are no text. -/
def HasDeck (collection : FileTree) (locale : String) (text : Option String) : Prop :=
  ∃ entries, (locale, .directory entries) ∈ collection ∧
    entries.lookup deckFileName = some (.file text)

structure Listing (entries : FileTree) : Prop where
  distinct : (entries.map (·.1)).Nodup
  isFileName : ∀ name ∈ entries.map (·.1), IsFileName name

theorem isOpenPath_deckDirectory : IsOpenPath deckDirectory :=
  ⟨by decide, by decide, by decide⟩

theorem isFileName_deckFileName : IsFileName deckFileName :=
  ⟨by decide, by decide, by decide, by decide, by decide⟩

theorem find_deckPath (hfind : t.find deckDirectory = .ok (.directory collection))
    (hn : IsFileName locale) :
    t.find (deckPath deckDirectory locale) =
      match collection.lookup locale with
      | none => .error .notFound
      | some (.file _) => .error .notDirectory
      | some (.directory entries) => match entries.lookup deckFileName with
        | none => .error .notFound
        | some node => .ok node := by
  have hopen := isOpenPath_joinPath isOpenPath_deckDirectory hn
  rw [deckPath, t.find_joinPath hopen isFileName_deckFileName,
    t.find_joinPath isOpenPath_deckDirectory hn, hfind]
  dsimp only
  cases collection.lookup locale with
  | none => rfl
  | some node => cases node <;> rfl

theorem find_deckPath_eq_file (hfind : t.find deckDirectory = .ok (.directory collection))
    (hl : Listing collection) (hn : IsFileName locale) :
    t.find (deckPath deckDirectory locale) = .ok (.file text) ↔ HasDeck collection locale text := by
  simp only [HasDeck, ← lookup_eq_some_iff_mem hl.distinct, find_deckPath hfind hn]
  cases collection.lookup locale with
  | none => simp
  | some node =>
    cases node with
    | file text => simp
    | directory entries =>
      cases h : entries.lookup deckFileName <;> simp [h]

theorem mem_locales (hfind : t.find deckDirectory = .ok (.directory collection))
    (hl : Listing collection) :
    locale ∈ locales t (collection.map (·.1)) ↔ ∃ text, HasDeck collection locale text := by
  have hmem {text} (h : HasDeck collection locale text) : locale ∈ collection.map (·.1) := by
    obtain ⟨entries, hentries, -⟩ := h
    exact List.mem_map_of_mem hentries
  have hfile (hn : IsFileName locale) : t.isFile (deckPath deckDirectory locale) = true ↔
      ∃ text, HasDeck collection locale text := by
    simp only [← find_deckPath_eq_file hfind hl hn, FileTree.isFile]
    cases t.find (deckPath deckDirectory locale) with
    | error f => simp
    | ok node => cases node <;> simp
  rw [locales, List.mem_mergeSort, List.mem_filter]
  constructor
  · rintro ⟨hname, hisFile⟩
    exact (hfile (hl.isFileName _ hname)).1 hisFile
  · rintro ⟨text, h⟩
    exact ⟨hmem h, (hfile (hl.isFileName _ (hmem h))).2 ⟨text, h⟩⟩

theorem hasDeck_inj (hl : Listing collection) {text' : Option String}
    (h : HasDeck collection locale text) (h' : HasDeck collection locale text') : text = text' := by
  obtain ⟨entries, hentries, htext⟩ := h
  obtain ⟨entries', hentries', htext'⟩ := h'
  rw [← lookup_eq_some_iff_mem hl.distinct] at hentries hentries'
  cases hentries.symm.trans hentries'
  cases htext.symm.trans htext'
  rfl

def Examines (wording : Pattern.Wording) (collection : FileTree) (locale : String)
    (e : Examined) : Prop :=
  ∃ s j, HasDeck collection locale (some s) ∧ ofText s = .ok j ∧ e = examine wording locale s j

theorem examined_eq_ok (hfind : t.find deckDirectory = .ok (.directory collection))
    (hl : Listing collection) (hn : IsFileName locale) {e : Examined} :
    examined wording t (locale, deckPath deckDirectory locale) = .ok e ↔
      Examines wording collection locale e := by
  have hread {s : String} : t.read (deckPath deckDirectory locale) = .ok s ↔
      HasDeck collection locale (some s) := by
    rw [← find_deckPath_eq_file hfind hl hn, FileTree.read]
    cases t.find (deckPath deckDirectory locale) with
    | error f => simp
    | ok node =>
      cases node with
      | file text => cases text <;> simp
      | directory entries => simp
  simp only [examined, bind_eq_ok, mapError_eq_ok, hread, pure_eq_ok, Examines, Except.ok.injEq]
  simp [eq_comm]

theorem collected_eq (hfind : t.find deckDirectory = .ok (.directory collection)) :
    collected t = .ok ((locales t (collection.map (·.1))).map fun locale =>
      (locale, deckPath deckDirectory locale)) := by
  have hlist : t.list deckDirectory = .ok (collection.map (·.1)) := by
    rw [FileTree.list, hfind]
  rw [collected, hlist]
  rfl

theorem allExamined_eq_ok (hfind : t.find deckDirectory = .ok (.directory collection))
    {es : List Examined} : allExamined wording t = .ok es ↔
      locales t (collection.map (·.1)) ≠ [] ∧ ((locales t (collection.map (·.1))).map fun locale =>
        (locale, deckPath deckDirectory locale)).mapM (examined wording t) = .ok es := by
  rw [allExamined, collected_eq hfind, ok_bind]
  cases locales t (collection.map (·.1)) with
  | nil => simp [bind, Except.bind, throw, throwThe, MonadExceptOf.throw]
  | cons locale rest => simp

section Spec
variable (hfind : t.find deckDirectory = .ok (.directory collection)) (hl : Listing collection)
include hfind hl

theorem isFileName_of_mem_locales (h : locale ∈ locales t (collection.map (·.1))) :
    IsFileName locale := by
  obtain ⟨text, entries, hentries, -⟩ := (mem_locales hfind hl).1 h
  exact hl.isFileName _ (List.mem_map_of_mem hentries)

/-- All decks can be examined just if there are some and each is a JSON text. -/
theorem exists_allExamined : (∃ es, allExamined wording t = .ok es) ↔
    (∃ locale text, HasDeck collection locale text) ∧
      ∀ locale text, HasDeck collection locale text → ∃ e, Examines wording collection locale e := by
  have heach : (∀ locale ∈ locales t (collection.map (·.1)), ∃ e,
      examined wording t (locale, deckPath deckDirectory locale) = .ok e) ↔
        ∀ locale text, HasDeck collection locale text → ∃ e, Examines wording collection locale e := by
    simp only [mem_locales hfind hl, forall_exists_index]
    refine forall₃_congr fun locale text h => exists_congr fun e => examined_eq_ok hfind hl ?_
    exact isFileName_of_mem_locales hfind hl ((mem_locales hfind hl).2 ⟨text, h⟩)
  have hsome : locales t (collection.map (·.1)) ≠ [] ↔
      ∃ locale text, HasDeck collection locale text := by
    simp only [← mem_locales hfind hl]
    exact ⟨List.exists_mem_of_ne_nil _, fun ⟨_, h⟩ => List.ne_nil_of_mem h⟩
  simp only [allExamined_eq_ok hfind, exists_and_left, exists_mapM_ok, List.forall_mem_map, heach,
    hsome]

theorem mem_allExamined {es : List Examined} (h : allExamined wording t = .ok es) (e : Examined) :
    e ∈ es ↔ ∃ locale, Examines wording collection locale e := by
  obtain ⟨-, h⟩ := (allExamined_eq_ok hfind).1 h
  rw [mem_of_mapM h]
  constructor
  · rintro ⟨deck, hdeck, he⟩
    obtain ⟨locale, hlocale, rfl⟩ := List.mem_map.1 hdeck
    exact ⟨locale, (examined_eq_ok hfind hl (isFileName_of_mem_locales hfind hl hlocale)).1 he⟩
  · rintro ⟨locale, he⟩
    have hlocale : locale ∈ locales t (collection.map (·.1)) := by
      obtain ⟨s, j, hs, -⟩ := he
      exact (mem_locales hfind hl).2 ⟨_, hs⟩
    exact ⟨_, List.mem_map_of_mem hlocale,
      (examined_eq_ok hfind hl (isFileName_of_mem_locales hfind hl hlocale)).2 he⟩

end Spec

end Collections

end ErrorGuide.Command.Tasks
