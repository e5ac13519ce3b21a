import ErrorGuide.Command.Run
import ErrorGuide.Proofs.Data.Result
import ErrorGuide.Proofs.Deck.Malformed
import ErrorGuide.Proofs.Text.Bytes

/-! The check of a deck. It reports the problems of the deck and no others, sorted, with their numbers,
and fails just if the deck is broken. -/

namespace ErrorGuide
open Text

/-! The order of the problems. -/

namespace Lint

theorem le_iff {a b : Lint} : le a b = true ↔
    (a.level = .error ∧ b.level = .warning) ∨ (a.level = b.level ∧ a.path ≤ b.path) := by
  rw [le, isError]
  cases ha : a.level <;> cases hb : b.level <;> simp

theorem le_trans (a b c : Lint) (hab : le a b = true) (hbc : le b c = true) : le a c = true := by
  rw [le_iff] at *
  rcases hab with ⟨ha, hb⟩ | ⟨hlevel, hpath⟩
  · rcases hbc with ⟨hb', -⟩ | ⟨hlevel', -⟩
    · rw [hb] at hb'
      cases hb'
    · exact .inl ⟨ha, hlevel' ▸ hb⟩
  · rcases hbc with ⟨hb, hc⟩ | ⟨hlevel', hpath'⟩
    · exact .inl ⟨hlevel ▸ hb, hc⟩
    · exact .inr ⟨hlevel.trans hlevel', String.le_trans hpath hpath'⟩

theorem le_total (a b : Lint) : (le a b || le b a) = true := by
  rw [Bool.or_eq_true, le_iff, le_iff]
  cases ha : a.level <;> cases hb : b.level <;> simp [String.le_total]

/-- The problems `sorted` are `lints` with the errors first and the paths in the order of their
bytes. Where level and path are the same, they are in the order of `lints`. -/
structure Sorts (lints sorted : List Lint) : Prop where
  perm : sorted.Perm lints
  levels : sorted.Pairwise fun a b => a.level = .warning → b.level = .warning
  paths : ∀ level, ((sorted.filter (·.level = level)).map (bytes ·.path)).Pairwise (· ≤ ·)
  stable : ∀ level path, sorted.filter (fun l => l.level = level ∧ l.path = path) =
    lints.filter fun l => l.level = level ∧ l.path = path

/-- Sorting leaves what is in order as it is, wherever it stands. -/
theorem filter_mergeSort {lints : List Lint} {p : Lint → Bool}
    (h : (lints.filter p).Pairwise (le · ·)) :
    (lints.mergeSort le).filter p = lints.filter p := by
  have hsub : (lints.filter p).Sublist (lints.mergeSort le) :=
    List.sublist_mergeSort le_trans le_total h List.filter_sublist
  have hsub' := hsub.filter p
  rw [List.filter_filter] at hsub'
  simp only [Bool.and_self] at hsub'
  exact (hsub'.eq_of_length ((List.mergeSort_perm lints le).filter p).length_eq.symm).symm

theorem sorts_mergeSort (lints : List Lint) : Sorts lints (lints.mergeSort le) := by
  have hsorted : (lints.mergeSort le).Pairwise (le · ·) :=
    List.pairwise_mergeSort le_trans le_total lints
  refine ⟨List.mergeSort_perm lints le, hsorted.imp ?_, fun level => ?_, fun level path => ?_⟩
  · intro a b hle ha
    rcases le_iff.1 hle with ⟨ha', -⟩ | ⟨hlevel, -⟩
    · rw [ha'] at ha
      cases ha
    · exact hlevel ▸ ha
  · rw [List.pairwise_map]
    refine (hsorted.filter _).imp_of_mem ?_
    intro a b ha hb hle
    have ha' : a.level = level := of_decide_eq_true (List.mem_filter.1 ha).2
    have hb' : b.level = level := of_decide_eq_true (List.mem_filter.1 hb).2
    rcases le_iff.1 hle with ⟨herror, hwarning⟩ | ⟨-, hpath⟩
    · rw [← ha', herror, hwarning] at hb'
      cases hb'
    · exact bytes_le_iff.2 hpath
  · refine filter_mergeSort (List.pairwise_of_forall_mem_list ?_)
    intro a ha b hb
    obtain ⟨hlevel, hpath⟩ := of_decide_eq_true (List.mem_filter.1 ha).2
    obtain ⟨hlevel', hpath'⟩ := of_decide_eq_true (List.mem_filter.1 hb).2
    refine le_iff.2 (.inr ⟨hlevel.trans hlevel'.symm, ?_⟩)
    rw [hpath, hpath']

end Lint

/-! The report. -/

namespace Lint
variable {lints : List Lint}

def count (level : Level) (lints : List Lint) : Nat := lints.countP (·.level = level)

theorem count_error_add_count_warning (lints : List Lint) :
    count .error lints + count .warning lints = lints.length := by
  rw [List.length_eq_countP_add_countP (·.level = .error), count, count]
  congr 1
  refine List.countP_congr fun l _ => ?_
  cases l.level <;> decide

/-- The report has the text of every problem, an empty line, and a last one that counts the errors
and the warnings. -/
structure IsReport (wording : Pattern.Wording) (lints : List Lint) (last out : String) : Prop where
  texts : out = concat (lints.map fun l =>
    "[" ++ l.level.name ++ "] " ++ l.path ++ ": " ++ l.message wording ++ "\n") ++ "\n" ++ last ++
      "\n"
  unbroken : '\n' ∉ last.toList
  counts : last =
    number (count .error lints) ++ " error(s), " ++ number (count .warning lints) ++ " warning(s)"
  total : count .error lints + count .warning lints = lints.length

theorem newline_not_mem_number (n : Nat) : '\n' ∉ (number n).toList := by
  intro h
  rw [number, String.toList_ofList] at h
  exact absurd (isAsciiDigit_of_mem_decimal _ h) (by decide)

theorem isReport_report (wording : Pattern.Wording) (h : lints ≠ []) :
    ∃ last, IsReport wording lints last (report wording lints) := by
  have htotal := count_error_add_count_warning lints
  have herrors : (lints.filter isError).length = count .error lints :=
    List.countP_eq_length_filter.symm
  have hwarnings : lints.length - count .error lints = count .warning lints := by omega
  refine ⟨_, ?_, ?_, rfl, htotal⟩
  · simp [report, text, h, herrors, hwarnings, String.append_assoc]
  · simp [newline_not_mem_number]

end Lint

/-! What makes a check fail. -/

def Variant.Broken (v : Variant) : Prop :=
  isBlankText v.title = true ∨
    ∃ filter, ∃ pattern ∈ v.patternsOf filter, ¬Pattern.compiles pattern = true

def Deck.Broken (d : Deck) : Prop :=
  isBlankText d.edition.language = true ∨
    (∃ kind entry, (kind, entry) ∈ d.errors.entries ∧ ∃ v ∈ entry.variants, v.Broken) ∨
    ∃ audience rules, (audience, rules) ∈ d.glossary.entries ∧
      ∃ term ∈ rules.keys, ¬Pattern.compiles term = true

theorem not_compiles_iff {pattern : String} :
    ¬Pattern.compiles pattern = true ↔ ∃ fault, faultOf pattern = some fault := by
  rw [Pattern.compiles_iff, ← ne_eq, Option.ne_none_iff_exists']

theorem Condition.mem_patterns_iff {c : Condition} {filter : Filter} {pattern : String} :
    (filter, pattern) ∈ c.patterns ↔ pattern ∈ c.patternsOf filter := by
  rw [← List.count_pos_iff, c.count_patterns, List.count_pos_iff]

theorem Variant.mem_patternsOf_iff {v : Variant} {filter : Filter} {pattern : String} :
    pattern ∈ v.patternsOf filter ↔ ∃ c ∈ v.condition, (filter, pattern) ∈ c.patterns := by
  simp only [Condition.mem_patterns_iff, patternsOf]
  cases v.condition <;> simp

theorem Variant.exists_error_iff {v : Variant} {kind : String} {index later : Nat} :
    (∃ l ∈ v.lints kind index later, l.level = .error) ↔ v.Broken := by
  constructor
  · intro h
    obtain ⟨l, hl, hlevel⟩ := h
    rcases mem_lints_iff.1 hl with ⟨ht, -⟩ | ⟨-, hs⟩ | ⟨c, hc, filter, pattern, hp, fault, hf, -⟩
    · exact .inl ht
    · rw [hs] at hlevel
      cases hlevel
    · have hmem : pattern ∈ v.patternsOf filter := mem_patternsOf_iff.2 ⟨c, hc, hp⟩
      exact .inr ⟨filter, pattern, hmem, not_compiles_iff.2 ⟨fault, hf⟩⟩
  · intro h
    rcases h with ht | ⟨filter, pattern, hp, hno⟩
    · exact ⟨_, mem_lints_iff.2 (.inl ⟨ht, rfl⟩), rfl⟩
    · obtain ⟨c, hc, hmem⟩ := mem_patternsOf_iff.1 hp
      obtain ⟨fault, hf⟩ := not_compiles_iff.1 hno
      exact ⟨_, mem_lints_iff.2 (.inr (.inr ⟨c, hc, filter, pattern, hmem, fault, hf, rfl⟩)), rfl⟩

theorem KindEntry.exists_error_iff {entry : KindEntry} {kind : String} :
    (∃ l ∈ entry.lints kind, l.level = .error) ↔ ∃ v ∈ entry.variants, v.Broken := by
  constructor
  · intro h
    obtain ⟨l, hl, hlevel⟩ := h
    rcases mem_lints_iff.1 hl with ⟨-, hn⟩ | ⟨v, index, hv, hl⟩
    · rw [hn] at hlevel
      cases hlevel
    · exact ⟨v, List.mem_of_getElem? hv, Variant.exists_error_iff.1 ⟨l, hl, hlevel⟩⟩
  · intro h
    obtain ⟨v, hmem, hv⟩ := h
    obtain ⟨index, hindex⟩ := List.mem_iff_getElem?.1 hmem
    obtain ⟨l, hl, hlevel⟩ := Variant.exists_error_iff.2 hv
    exact ⟨l, mem_lints_iff.2 (.inr ⟨v, index, hindex, hl⟩), hlevel⟩

theorem Rules.exists_error_iff {rules : Rules} {audience : String} :
    (∃ l ∈ rules.lints audience, l.level = .error) ↔
      ∃ term ∈ rules.keys, ¬Pattern.compiles term = true := by
  simp only [not_compiles_iff]
  constructor
  · intro h
    obtain ⟨l, hl, -⟩ := h
    obtain ⟨term, hterm, fault, hf, -⟩ := mem_lints_iff.1 hl
    exact ⟨term, hterm, fault, hf⟩
  · intro h
    obtain ⟨term, hterm, fault, hf⟩ := h
    exact ⟨_, mem_lints_iff.2 ⟨term, hterm, fault, hf, rfl⟩, rfl⟩

namespace Deck
variable {d : Deck}

theorem exists_error_iff : (∃ l ∈ d.lints, l.level = .error) ↔ d.Broken := by
  simp only [Broken, ← OrderedMap.get?_eq_some_iff]
  constructor
  · intro h
    obtain ⟨l, hl, hlevel⟩ := h
    rcases mem_lints_iff.1 hl with ⟨hlanguage, -⟩ | ⟨-, hn⟩ | ⟨kind, entry, he, hl⟩ |
      ⟨audience, rules, hr, hl⟩
    · exact .inl hlanguage
    · rw [hn] at hlevel
      cases hlevel
    · exact .inr (.inl ⟨kind, entry, he, KindEntry.exists_error_iff.1 ⟨l, hl, hlevel⟩⟩)
    · exact .inr (.inr ⟨audience, rules, hr, Rules.exists_error_iff.1 ⟨l, hl, hlevel⟩⟩)
  · intro h
    rcases h with hlanguage | ⟨kind, entry, he, hv⟩ | ⟨audience, rules, hr, hterm⟩
    · exact ⟨_, mem_lints_iff.2 (.inl ⟨hlanguage, rfl⟩), rfl⟩
    · obtain ⟨l, hl, hlevel⟩ := KindEntry.exists_error_iff.2 hv
      exact ⟨l, mem_lints_iff.2 (.inr (.inr (.inl ⟨kind, entry, he, hl⟩))), hlevel⟩
    · obtain ⟨l, hl, hlevel⟩ := Rules.exists_error_iff.2 hterm
      exact ⟨l, mem_lints_iff.2 (.inr (.inr (.inr ⟨audience, rules, hr, hl⟩))), hlevel⟩

theorem sorts_check : Lint.Sorts d.lints d.check := Lint.sorts_mergeSort d.lints

theorem anyError_check : Lint.anyError d.check = true ↔ d.Broken := by
  rw [← exists_error_iff, Lint.anyError, List.any_eq_true]
  simp only [sorts_check.perm.mem_iff, Lint.isError, decide_eq_true_iff]

theorem exitCode_check_eq_one : Lint.exitCode d.check = 1 ↔ d.Broken := by
  rw [← anyError_check, Lint.exitCode]
  split <;> simp_all

theorem exitCode_check_eq_zero : Lint.exitCode d.check = 0 ↔ ¬d.Broken := by
  rw [← anyError_check, Lint.exitCode]
  split <;> simp_all

end Deck

namespace Command
variable {m : Type → Type} [Monad m] [LawfulMonad m] (files : FileReader m) (path : String)
  {text : String} {d : Deck}

theorem run_lintFile (hread : files.read path = pure (.ok text)) (hd : Deck.ofText text = .ok d) :
    (lintFile files path).run = pure (.ok d.check) := by
  have hfile : (readFile files path).run = pure (.ok text) := by
    rw [readFile, hread]
    simp [ExceptT.run, ExceptT.mk, Except.mapError]
  rw [lintFile, ExceptT.run_bind, hfile, pure_bind]
  simp only [hd]
  rfl

/-- The check of a deck reports the problems of the deck, each as often as the deck has it: the errors
before the warnings, on each level by the bytes of their paths, and what has the same path as it was
found. The last line of the report counts the errors and the warnings. The check fails just if the
deck is broken, whatever warnings there are, and however faults are worded. -/
theorem checkDeck_exact (wording : Pattern.Wording) (hread : files.read path = pure (.ok text))
    (hd : Deck.ofText text = .ok d) :
    checkDeck wording files path =
        pure { stdout := Lint.report wording d.check, exitCode := Lint.exitCode d.check } ∧
      Lint.Sorts d.lints d.check ∧
      (d.check ≠ [] → ∃ last, Lint.IsReport wording d.check last (Lint.report wording d.check)) ∧
      (Lint.exitCode d.check = 1 ↔ d.Broken) ∧
      (Lint.exitCode d.check = 0 ↔ ¬d.Broken) := by
  refine ⟨?_, Deck.sorts_check, Lint.isReport_report wording, Deck.exitCode_check_eq_one,
    Deck.exitCode_check_eq_zero⟩
  rw [checkDeck, run_lintFile files path hread hd, pure_bind]

def shoddy : Deck where
  edition := ⟨"en", .ofNat false 1⟩
  glossary := ⟨[("kid", ⟨[("(oops", "x")], by decide⟩)], by decide⟩
  errors := ⟨[("NameError", ⟨[{ title := " ", summary := "s" }]⟩)], by decide⟩

def shoddyText : String :=
  "\x7b\"meta\":\x7b\"language\":\"en\",\"version\":1\x7d," ++
    "\"glossary\":\x7b\"kid\":\x7b\"(oops\":\"x\"\x7d\x7d," ++
    "\"errors\":\x7b\"NameError\":\x7b\"variants\":[\x7b\"title\":\" \"," ++
    "\"summary\":\"s\"\x7d]\x7d\x7d\x7d"

theorem ofText_shoddyText : Deck.ofText shoddyText = .ok shoddy :=
  Json.eq_ok_of_toOption (by decide +kernel)

def shoddyFiles : FileReader Id where
  read := fun _ => .ok shoddyText
  readInput := .ok ""

theorem broken_shoddy : shoddy.Broken :=
  .inr (.inl ⟨"NameError", _, List.mem_cons_self, _, List.mem_cons_self, .inl (by decide)⟩)

/-- The report of a fault at the start of a pattern of one line. -/
def wordingAtStart : Pattern.Wording := fun pattern fault =>
  "regex parse error:\n    " ++ pattern ++ "\n    ^\nerror: " ++ fault.message

theorem checkDeck_exact_shoddy :
    (checkDeck wordingAtStart shoddyFiles "deck.json").exitCode = 1 ∧
      Lint.Sorts shoddy.lints shoddy.check ∧ ∃ last, Lint.IsReport wordingAtStart shoddy.check last
        (checkDeck wordingAtStart shoddyFiles "deck.json").stdout := by
  obtain ⟨houtcome, hsorts, hreport, hfails, -⟩ :=
    checkDeck_exact shoddyFiles "deck.json" wordingAtStart rfl ofText_shoddyText
  obtain ⟨l, hl, -⟩ := Deck.exists_error_iff.2 broken_shoddy
  have hne : shoddy.check ≠ [] := List.ne_nil_of_mem (hsorts.perm.mem_iff.2 hl)
  rw [houtcome]
  exact ⟨hfails.2 broken_shoddy, hsorts, hreport hne⟩

end Command
end ErrorGuide
