import ErrorGuide.Deck.Lint
import ErrorGuide.Proofs.Deck.Selection
import ErrorGuide.Proofs.Text.Decimal

/-! What the warnings about a deck mean for selection. A variant is reported to shadow others exactly
if it keeps them from being selected by standing before them without a filter, and the lack of a
catch-all exactly if some trace finds no entry. -/

namespace ErrorGuide

def Variant.Unfiltered (v : Variant) : Prop :=
  ∀ c ∈ v.condition,
    c.matchMessage = [] ∧ c.notMessage = [] ∧ c.matchCode = [] ∧ c.notCode = []

theorem Variant.isUnconditional_iff {v : Variant} :
    v.isUnconditional = true ↔ v.Unfiltered := by
  rw [isUnconditional, Unfiltered]
  cases v.condition with
  | none => simp
  | some c => simp [Condition.isEmpty, and_assoc]

theorem Variant.Unfiltered.admits {v : Variant} (h : v.Unfiltered) (t : Trace) : v.Admits t := by
  intro c hc
  obtain ⟨hm, hnm, hcode, hnc⟩ := h c hc
  exact ⟨.inl hm, by simp [hnm], .inl hcode, by simp [hnc]⟩

/-! Where problems come from, from a variant up to the deck. -/

theorem Variant.mem_lints_iff {v : Variant} {kind : String} {index later : Nat} {l : Lint} :
    l ∈ v.lints kind index later ↔
      (Text.isBlankText v.title = true ∧ l = .noTitle kind index) ∨
      ((v.Unfiltered ∧ 0 < later) ∧ l = .shadowing kind index later) ∨
      ∃ c ∈ v.condition, ∃ filter pattern, (filter, pattern) ∈ c.patterns ∧
        ∃ fault, faultOf pattern = some fault ∧
          .badPattern kind index filter pattern fault = l := by
  simp only [lints, List.mem_append, List.mem_ite_nil_right, List.mem_singleton, or_assoc,
    Bool.and_eq_true, decide_eq_true_eq, isUnconditional_iff]
  cases v.condition with
  | none => simp
  | some c => simp [List.mem_filterMap, Option.map_eq_some_iff]

theorem KindEntry.mem_lints_iff {entry : KindEntry} {kind : String} {l : Lint} :
    l ∈ entry.lints kind ↔ (entry.variants = [] ∧ l = .noVariants kind) ∨
      ∃ (v : Variant) (index : Nat), entry.variants[index]? = some v ∧
        l ∈ v.lints kind index (entry.variants.length - 1 - index) := by
  simp only [lints, List.mem_append, List.mem_ite_nil_right, List.mem_singleton,
    List.mem_flatMap, Prod.exists, List.mk_mem_zipIdx_iff_getElem?]

theorem Rules.mem_lints_iff {rules : Rules} {audience : String} {l : Lint} :
    l ∈ rules.lints audience ↔ ∃ term ∈ rules.keys, ∃ fault, faultOf term = some fault ∧
      .badTerm audience term fault = l := by
  simp [lints, List.mem_filterMap, Option.map_eq_some_iff, OrderedMap.keys]

theorem Deck.mem_lints_iff {d : Deck} {l : Lint} :
    l ∈ d.lints ↔
      (Text.isBlankText d.edition.language = true ∧ l = .noLanguage) ∨
      (d.errors.get? EntryKey.fallbackName = none ∧ l = .noFallback) ∨
      (∃ kind entry, d.errors.get? kind = some entry ∧ l ∈ entry.lints kind) ∨
      ∃ audience rules, d.glossary.get? audience = some rules ∧ l ∈ rules.lints audience := by
  simp only [lints, List.mem_append, List.mem_ite_nil_right, List.mem_ite_nil_left,
    List.mem_singleton, or_assoc, List.mem_flatMap, Prod.exists, OrderedMap.get?_eq_some_iff,
    OrderedMap.get?_eq_none_iff, hasKind, OrderedMap.contains_iff]

/-! The three warnings that are about selection. -/

namespace Deck
variable {d : Deck}

theorem shadowing_mem_lints {kind : String} {index later : Nat} :
    .shadowing kind index later ∈ d.lints ↔ ∃ entry, d.errors.get? kind = some entry ∧
      ∃ v, entry.variants[index]? = some v ∧ v.Unfiltered ∧ 0 < later ∧
        entry.variants.length = index + 1 + later := by
  simp only [mem_lints_iff, reduceCtorEq, and_false, KindEntry.mem_lints_iff,
    Variant.mem_lints_iff, Lint.shadowing.injEq, exists_false, or_false, false_or,
    Rules.mem_lints_iff]
  constructor
  · rintro ⟨kind', entry, he, v, index', hv, ⟨hun, hpos⟩, rfl, rfl, rfl⟩
    exact ⟨entry, he, v, hv, hun, hpos, by omega⟩
  · rintro ⟨entry, he, v, hv, hun, hpos, hlen⟩
    exact ⟨kind, entry, he, v, index, hv, ⟨hun, by omega⟩, rfl, rfl, by omega⟩

theorem noVariants_mem_lints {kind : String} :
    .noVariants kind ∈ d.lints ↔
      ∃ entry, d.errors.get? kind = some entry ∧ entry.variants = [] := by
  simp only [mem_lints_iff, reduceCtorEq, and_false, KindEntry.mem_lints_iff,
    Lint.noVariants.injEq, Variant.mem_lints_iff, exists_false, or_self, or_false,
    Rules.mem_lints_iff, false_or]
  constructor
  · rintro ⟨kind', entry, he, hempty, rfl⟩
    exact ⟨entry, he, hempty⟩
  · rintro ⟨entry, he, hempty⟩
    exact ⟨kind, entry, he, hempty, rfl⟩

theorem noFallback_mem_lints :
    .noFallback ∈ d.lints ↔ d.errors.get? EntryKey.fallbackName = none := by
  simp [mem_lints_iff, KindEntry.mem_lints_iff, Variant.mem_lints_iff, Rules.mem_lints_iff]

/-- What stands behind a variant without a filter is never selected. -/
theorem le_of_select_of_unfiltered {t : Trace} {key : EntryKey} {entry : KindEntry} {i j : Nat}
    {v w : Variant} (he : d.errors.get? key.name = some entry) (hv : entry.variants[i]? = some v)
    (hun : v.Unfiltered) (hs : d.select t = .matched key j w) : j ≤ i := by
  obtain ⟨rfl, entry', he', hfirst⟩ := select_eq_matched_iff.1 hs
  rw [name_keyFor, he'] at he
  obtain rfl := Option.some.inj he
  rcases Nat.lt_or_ge i j with hij | hji
  · exact absurd (hun.admits t) (hfirst.earlier i hij v hv)
  · exact hji

/-- Some trace finds no entry exactly if there is no catch-all: one without a kind looks for it. -/
theorem exists_select_eq_noEntry_iff :
    (∃ t key, d.select t = .noEntry key) ↔ d.errors.get? EntryKey.fallbackName = none := by
  constructor
  · rintro ⟨t, key, hs⟩
    have hno := (select_eq_noEntry_iff.1 hs).2
    rcases d.heading_mem_or t.kind with hmem | hother
    · exact absurd hmem (d.errors.get?_eq_none_iff.1 hno)
    · rwa [hother] at hno
  · intro hno
    exact ⟨Trace.ofRaw "", .fallback, select_eq_noEntry_iff.2 ⟨rfl, hno⟩⟩

/-- An entry without variants matches nothing. -/
theorem select_eq_noMatch_of_empty {t : Trace} {entry : KindEntry}
    (he : d.errors.get? (d.keyFor t.kind).name = some entry) (hempty : entry.variants = []) :
    d.select t = .noMatch (d.keyFor t.kind) := by
  rw [name_keyFor] at he
  exact select_eq_noMatch_iff.2 ⟨rfl, entry, he, by simp [hempty]⟩

end Deck
/-! The texts of warnings tell them apart. -/

namespace Lint
open Text

/-- The last occurrence of a character parts a text in one way. -/
theorem append_cons_inj_right {a : Char} {xs xs' ys ys' : List Char} (hy : a ∉ ys) (hy' : a ∉ ys')
    (h : xs ++ a :: ys = xs' ++ a :: ys') : xs = xs' ∧ ys = ys' := by
  rcases List.append_eq_append_iff.1 h with ⟨mid, rfl, hmid⟩ | ⟨mid, rfl, hmid⟩
  · cases mid with
    | nil => simpa using hmid
    | cons c mid => exact absurd (by simp [(List.cons.inj hmid).2]) hy
  · cases mid with
    | nil => simpa [eq_comm] using hmid
    | cons c mid => exact absurd (by simp [(List.cons.inj hmid).2]) hy'

theorem number_injective {m n : Nat} (h : number m = number n) : m = n :=
  decimal_injective (String.ofList_injective h)

theorem variantPath_injective {k k' : String} {i i' : Nat}
    (h : variantPath k i = variantPath k' i') : k = k' ∧ i = i' := by
  simp only [variantPath, String.append_left_inj] at h
  -- The index has no bracket in it, so the last bracket is the one before it.
  have hbracket (n : Nat) : '[' ∉ decimal n := fun hm =>
    absurd (isAsciiDigit_of_mem_decimal _ hm) (by decide)
  have hlast (k : String) (n : Nat) : ("errors." ++ k ++ ".variants[" ++ number n).toList =
      ("errors." ++ k ++ ".variants").toList ++ '[' :: decimal n := by
    simp [number]
  have hl := congrArg String.toList h
  rw [hlast, hlast] at hl
  obtain ⟨hpath, hindex⟩ := append_cons_inj_right (hbracket i) (hbracket i') hl
  have hk := String.toList_inj.1 hpath
  simp only [String.append_left_inj, String.append_right_inj] at hk
  exact ⟨hk, decimal_injective hindex⟩

variable {wording : Pattern.Wording}

theorem shadowing_message_injective {k k' : String} {i i' n n' : Nat}
    (h : (shadowing k i n).message wording = (shadowing k' i' n').message wording) : n = n' := by
  change "unconditional variant shadows " ++ number n ++ " later variant(s)" =
    "unconditional variant shadows " ++ number n' ++ " later variant(s)" at h
  rw [String.append_left_inj, String.append_right_inj] at h
  exact number_injective h

theorem warning_cases {l : Lint} (h : l.level = .warning) :
    l = .noFallback ∨ (∃ k, l = .noVariants k) ∨ ∃ k i n, l = .shadowing k i n := by
  cases l <;> simp_all [level]

def initial (wording : Pattern.Wording) (l : Lint) : Option Char :=
  (l.message wording).toList.head?

theorem initial_noFallback : noFallback.initial wording = some 'n' := by
  have hn : "no '".toList.head? = some 'n' := rfl
  change ("no '" ++ EntryKey.fallbackName ++ _ : String).toList.head? = _
  rw [String.append_assoc, String.toList_append, List.head?_append, hn]
  rfl

theorem initial_noVariants (k : String) : (noVariants k).initial wording = some 'k' := by
  have hk : "kind has no variants".toList.head? = some 'k' := rfl
  exact hk

theorem initial_shadowing (k : String) (i n : Nat) :
    (shadowing k i n).initial wording = some 'u' := by
  have hu : "unconditional variant shadows ".toList.head? = some 'u' := rfl
  change ("unconditional variant shadows " ++ number n ++ _ : String).toList.head? = _
  rw [String.append_assoc, String.toList_append, List.head?_append, hu]
  rfl

/-- A warning is known by its place and its message. -/
theorem eq_of_warning {l l' : Lint} (hl : l.level = .warning) (hl' : l'.level = .warning)
    (hp : l.path = l'.path) (hm : l.message wording = l'.message wording) : l = l' := by
  have hinitial : l.initial wording = l'.initial wording := congrArg (·.toList.head?) hm
  obtain rfl | ⟨k, rfl⟩ | ⟨k, i, n, rfl⟩ := warning_cases hl <;>
    obtain rfl | ⟨k', rfl⟩ | ⟨k', i', n', rfl⟩ := warning_cases hl' <;>
    simp only [initial_noFallback, initial_noVariants, initial_shadowing, Option.some.injEq,
      Char.reduceEq] at hinitial
  · rfl
  · rw [(String.append_right_inj "errors.").1 hp]
  · obtain ⟨rfl, rfl⟩ := variantPath_injective hp
    rw [shadowing_message_injective hm]

end Lint

namespace Deck
variable {d : Deck} {kind : String} {index later : Nat}
open Lint

/-- Among the problems of the deck is a warning with this place and this message, however the
faults of patterns are worded. -/
def Warns (d : Deck) (path message : String) : Prop :=
  ∃ l ∈ d.lints, l.level = .warning ∧ l.path = path ∧ ∀ wording, l.message wording = message

def WarnsShadowing (d : Deck) (kind : String) (index later : Nat) : Prop :=
  d.Warns ("errors." ++ kind ++ ".variants[" ++ number index ++ "]")
    ("unconditional variant shadows " ++ number later ++ " later variant(s)")

def WarnsNoFallback (d : Deck) : Prop :=
  d.Warns "errors" "no 'Other' entry; unmatched errors will use the built-in fallback copy"

def WarnsNoVariants (d : Deck) (kind : String) : Prop :=
  d.Warns ("errors." ++ kind) "kind has no variants"

theorem warns_iff {l : Lint} {message : String} (h : l.level = .warning)
    (hm : ∀ wording, l.message wording = message) : d.Warns l.path message ↔ l ∈ d.lints := by
  constructor
  · rintro ⟨l', hmem, hl', hp, hm'⟩
    have hsame (wording : Pattern.Wording) : l'.message wording = l.message wording :=
      (hm' _).trans (hm _).symm
    exact eq_of_warning hl' h hp (hsame fun _ fault => fault.message) ▸ hmem
  · intro hmem
    exact ⟨l, hmem, h, rfl, hm⟩

def Shadows (d : Deck) (kind : String) (index later : Nat) : Prop :=
  ∃ entry, d.errors.get? kind = some entry ∧
    ∃ v, entry.variants[index]? = some v ∧ v.Unfiltered ∧ 0 < later ∧
      entry.variants.length = index + 1 + later

theorem warnsShadowing_iff : d.WarnsShadowing kind index later ↔ d.Shadows kind index later :=
  (warns_iff (l := .shadowing kind index later) rfl fun _ => rfl).trans shadowing_mem_lints

theorem warnsNoFallback_iff :
    d.WarnsNoFallback ↔ d.errors.get? EntryKey.fallbackName = none := by
  have hmessage (wording : Pattern.Wording) : noFallback.message wording =
      "no 'Other' entry; unmatched errors will use the built-in fallback copy" := rfl
  exact (warns_iff rfl hmessage).trans noFallback_mem_lints

theorem warnsNoVariants_iff :
    d.WarnsNoVariants kind ↔ ∃ entry, d.errors.get? kind = some entry ∧ entry.variants = [] :=
  (warns_iff (l := .noVariants kind) rfl fun _ => rfl).trans noVariants_mem_lints

end Deck

/-- The warnings are exact. A variant is reported to shadow others just if it has no filter and
others follow, and then none of those is ever selected; where no such warning is given, a variant
without a filter is the last one. The catch-all is reported missing just if some trace finds no
entry, and a kind without variants just if it has none, so that no trace of that kind matches. -/
theorem Deck.warnings_exact (d : Deck) :
    (∀ kind index later, d.WarnsShadowing kind index later ↔ d.Shadows kind index later) ∧
    (∀ kind index later, d.WarnsShadowing kind index later →
      ∀ t key i v, key.name = kind → d.select t = .matched key i v → i ≤ index) ∧
    (∀ kind entry, d.errors.get? kind = some entry →
      (∀ index later, ¬d.WarnsShadowing kind index later) →
      ∀ i v, entry.variants[i]? = some v → v.Unfiltered → entry.variants.length = i + 1) ∧
    (d.WarnsNoFallback ↔ ∃ t key, d.select t = .noEntry key) ∧
    (∀ kind, d.WarnsNoVariants kind ↔
      ∃ entry, d.errors.get? kind = some entry ∧ entry.variants = []) ∧
    ∀ kind, d.WarnsNoVariants kind →
      ∀ t, (d.keyFor t.kind).name = kind → d.select t = .noMatch (d.keyFor t.kind) := by
  refine ⟨fun _ _ _ => warnsShadowing_iff, ?_, ?_, ?_, fun _ => warnsNoVariants_iff, ?_⟩
  · rintro kind index later hw t key i v rfl hs
    obtain ⟨entry, he, u, hu, hun, -, -⟩ := warnsShadowing_iff.1 hw
    exact le_of_select_of_unfiltered he hu hun hs
  · intro kind entry he hno i v hv hun
    have hi : i < entry.variants.length := (List.getElem?_eq_some_iff.1 hv).1
    rcases Nat.eq_or_lt_of_le (Nat.succ_le_of_lt hi) with hlast | hmore
    · exact hlast.symm
    · have hshadows : d.Shadows kind i (entry.variants.length - (i + 1)) :=
        ⟨entry, he, v, hv, hun, by omega, by omega⟩
      exact absurd (warnsShadowing_iff.2 hshadows) (hno i _)
  · exact warnsNoFallback_iff.trans exists_select_eq_noEntry_iff.symm
  · rintro kind hw t rfl
    obtain ⟨entry, he, hempty⟩ := warnsNoVariants_iff.1 hw
    exact select_eq_noMatch_of_empty he hempty

end ErrorGuide
