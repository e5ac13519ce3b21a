import ErrorGuide.Proofs.Text.Scan
import ErrorGuide.Proofs.Unicode.Blank
import ErrorGuide.Trace.Marker
import Mathlib.Data.Option.Basic

/-! The phrases by which families know their error texts, as parts of a text: a word in any case,
the word `Error` where a word ends, and a line number after `on line` where a word starts. -/

namespace ErrorGuide
open Text Unicode

def Mentions (word : String) (cs : List Char) : Prop :=
  ∃ before v rest, cs = before ++ v ++ rest ∧ InAnyCase word.toList v

def EndsInError (cs : List Char) : Prop :=
  ∃ before v rest, cs = before ++ v ++ rest ∧ InAnyCase "Error".toList v ∧
    ∀ c ∈ rest.head?, isWord c = false

structure LinePhrase (onWord gap lineWord gap' number : List Char) : Prop where
  onWord : InAnyCase "on".toList onWord
  gap : IsRun isBlank gap
  lineWord : InAnyCase "line".toList lineWord
  gap' : IsRun isBlank gap'
  number : IsRun isDigit number

def TellsLine (cs : List Char) : Prop :=
  ∃ before onWord gap lineWord gap' number rest,
    cs = before ++ onWord ++ gap ++ lineWord ++ gap' ++ number ++ rest ∧
    (∀ c ∈ before.getLast?, isWord c = false) ∧ LinePhrase onWord gap lineWord gap' number

namespace Marker
variable {before : Option Char} {cs : List Char}

theorem wordMayStart_iff : wordMayStart before = true ↔ ∀ c ∈ before, isWord c = false := by
  cases before <;> simp [wordMayStart]

theorem wordMayEnd_iff : wordMayEnd cs = true ↔ ∀ c ∈ cs.head?, isWord c = false := by
  cases cs <;> simp [wordMayEnd]

theorem isSome_anywhere_iff {w : String} :
    (anywhere w before cs).isSome = true ↔ ∃ v rest, cs = v ++ rest ∧ InAnyCase w.toList v := by
  have hsome : (anywhere w before cs).isSome = (phrase w.toList cs).isSome := by
    cases h : phrase w.toList cs <;> simp [anywhere, h]
  rw [hsome, Option.isSome_iff_exists, exists_comm]
  simp only [phrase_eq_some_iff]

theorem isSome_errorEnding_iff :
    (errorEnding before cs).isSome = true ↔ ∃ v rest, cs = v ++ rest ∧
      InAnyCase "Error".toList v ∧ ∀ c ∈ rest.head?, isWord c = false := by
  simp only [Option.isSome_iff_exists, errorEnding, Option.bind_eq_bind, Option.bind_eq_some_iff,
    Option.guard_eq_some', phrase_eq_some_iff, wordMayEnd_iff]
  constructor
  · rintro ⟨-, rest, ⟨v, rfl, hv⟩, -, hend, -⟩
    exact ⟨v, rest, rfl, hv, hend⟩
  · rintro ⟨v, rest, rfl, hv, hend⟩
    exact ⟨((), rest), rest, ⟨v, rfl, hv⟩, (), hend, rfl⟩

/-- What starts with a word in any case starts with no white space. -/
theorem head_of_inAnyCase {a : Char} {w v : List Char} (ha : isBlank (fold a) = false)
    (hv : InAnyCase (a :: w) v) (rest : List Char) :
    ∀ c ∈ (v ++ rest).head?, isBlank c = false := by
  obtain ⟨b, bs, rfl, hb, -⟩ := List.map_eq_cons_iff.1 hv
  intro c hc
  obtain rfl : b = c := Option.some.inj hc
  exact not_isBlank_of_fold ha hb

theorem head_of_digits {number : List Char} (hn : IsRun isDigit number) (rest : List Char) :
    ∀ c ∈ (number ++ rest).head?, isBlank c = false := by
  intro c hc
  have hdigit := head_of_isRun hn rest c hc
  cases hblank : isBlank c with
  | false => rfl
  | true =>
    rw [not_isDigit_of_isBlank hblank] at hdigit
    cases hdigit

/-- A word with white space around it. The word starts with no white space, so it ends what is before
it. -/
theorem spaced_eq_some_iff {w : String} {rest : List Char}
    (hw : ∃ a tail, w.toList = a :: tail ∧ isBlank (fold a) = false) :
    spaced w cs = some rest ↔ ∃ gap v gap', cs = gap ++ (v ++ (gap' ++ rest)) ∧
      IsRun isBlank gap ∧ InAnyCase w.toList v ∧ IsRun isBlank gap' ∧
      ∀ c ∈ rest.head?, isBlank c = false := by
  simp only [spaced, Option.bind_eq_bind, Option.bind_eq_some_iff, blanks_eq_some_iff,
    phrase_eq_some_iff]
  constructor
  · rintro ⟨-, ⟨gap, rfl, hgap, -⟩, -, ⟨v, rfl, hv⟩, gap', rfl, hgap', hrest⟩
    exact ⟨gap, v, gap', rfl, hgap, hv, hgap', hrest⟩
  · rintro ⟨gap, v, gap', rfl, hgap, hv, hgap', hrest⟩
    obtain ⟨a, tail, hword, ha⟩ := hw
    have hhead := head_of_inAnyCase ha (hword ▸ hv) (gap' ++ rest)
    exact ⟨_, ⟨gap, rfl, hgap, hhead⟩, _, ⟨v, rfl, hv⟩, gap', rfl, hgap', hrest⟩

theorem spaced_line_eq_some_iff {rest : List Char} :
    spaced "line" cs = some rest ↔ ∃ gap v gap', cs = gap ++ (v ++ (gap' ++ rest)) ∧
      IsRun isBlank gap ∧ InAnyCase "line".toList v ∧ IsRun isBlank gap' ∧
      ∀ c ∈ rest.head?, isBlank c = false :=
  spaced_eq_some_iff ⟨'l', "ine".toList, rfl, by decide⟩

theorem isSome_onLine_iff :
    (onLine before cs).isSome = true ↔ (∀ c ∈ before, isWord c = false) ∧
      ∃ onWord gap lineWord gap' number rest,
        cs = onWord ++ (gap ++ (lineWord ++ (gap' ++ (number ++ rest)))) ∧
        LinePhrase onWord gap lineWord gap' number := by
  simp only [Option.isSome_iff_exists, onLine, Option.bind_eq_bind, Option.bind_eq_some_iff,
    Option.guard_eq_some', phrase_eq_some_iff, spaced_line_eq_some_iff, wordMayStart_iff]
  constructor
  · rintro ⟨_, _, hstart, _, ⟨onWord, rfl, hon⟩, _,
      ⟨gap, lineWord, gap', rfl, hgap, hline, hgap', -⟩, ⟨number, rest⟩, hnumber, -⟩
    obtain ⟨rfl, hrun, -⟩ := run_eq_some_iff.1 hnumber
    exact ⟨hstart, onWord, gap, lineWord, gap', number, rest, rfl, hon, hgap, hline, hgap', hrun⟩
  · rintro ⟨hstart, onWord, gap, lineWord, gap', number, rest, rfl, h⟩
    have hdigits := head_of_digits h.number rest
    -- Further digits may follow in `rest`; the scanner takes all of them, whatever the phrase says.
    obtain ⟨taken, hnumber⟩ :=
      Option.isSome_iff_exists.1 (isSome_run_iff.2 ⟨number, rest, rfl, h.number⟩)
    exact ⟨_, (), hstart, _, ⟨onWord, rfl, h.onWord⟩, _,
      ⟨gap, lineWord, gap', rfl, h.gap, h.lineWord, h.gap', hdigits⟩, taken, hnumber, rfl⟩

/-! A text has one of these phrases just if its marker occurs. -/

theorem occurs_anywhere_iff {w : String} : occurs (anywhere w) cs = true ↔ Mentions w cs := by
  simp only [occurs_iff, isSome_anywhere_iff, Mentions, List.append_assoc]
  constructor
  · rintro ⟨before, -, rfl, v, rest, rfl, hv⟩
    exact ⟨before, v, rest, rfl, hv⟩
  · rintro ⟨before, v, rest, rfl, hv⟩
    exact ⟨before, v ++ rest, rfl, v, rest, rfl, hv⟩

theorem occurs_errorEnding_iff : occurs errorEnding cs = true ↔ EndsInError cs := by
  simp only [occurs_iff, isSome_errorEnding_iff, EndsInError, List.append_assoc]
  constructor
  · rintro ⟨before, -, rfl, v, rest, rfl, hv⟩
    exact ⟨before, v, rest, rfl, hv⟩
  · rintro ⟨before, v, rest, rfl, hv⟩
    exact ⟨before, v ++ rest, rfl, v, rest, rfl, hv⟩

theorem occurs_onLine_iff : occurs onLine cs = true ↔ TellsLine cs := by
  simp only [occurs_iff, isSome_onLine_iff, TellsLine, List.append_assoc]
  constructor
  · rintro ⟨before, -, rfl, hstart, onWord, gap, lineWord, gap', number, rest, rfl, h⟩
    exact ⟨before, onWord, gap, lineWord, gap', number, rest, rfl, hstart, h⟩
  · rintro ⟨before, onWord, gap, lineWord, gap', number, rest, rfl, hstart, h⟩
    exact ⟨before, _, rfl, hstart, onWord, gap, lineWord, gap', number, rest, rfl, h⟩

end Marker
end ErrorGuide
