import ErrorGuide.Adapter.Builtin
import ErrorGuide.Proofs.Text.InkedLines
import ErrorGuide.Proofs.Text.Parts
import ErrorGuide.Proofs.Text.Pieces
import ErrorGuide.Proofs.Trace.Marker

/-! The source text that an error text quotes: after the first phrase `on line 1 of name:` the first
line with more in it than white space or carets. -/

namespace ErrorGuide
open Text Unicode

variable {cs s text : List Char}

def IsSourcePhrase (m : List Char) (_ : Unit) (_after : List Char) : Prop :=
  ∃ onWord gap lineWord gap' number ofGap ofWord fileGap file,
    m = onWord ++ (gap ++ (lineWord ++ (gap' ++ (number ++
      (ofGap ++ (ofWord ++ (fileGap ++ (file ++ [':'])))))))) ∧
    LinePhrase onWord gap lineWord gap' number ∧ IsRun isBlank ofGap ∧
    InAnyCase "of".toList ofWord ∧ IsRun isBlank fileGap ∧ IsRun Marker.isFileChar file

namespace Marker

theorem spaced_of_eq_some_iff {rest : List Char} :
    spaced "of" cs = some rest ↔ ∃ gap v gap', cs = gap ++ (v ++ (gap' ++ rest)) ∧
      IsRun isBlank gap ∧ InAnyCase "of".toList v ∧ IsRun isBlank gap' ∧
      ∀ c ∈ rest.head?, isBlank c = false :=
  spaced_eq_some_iff ⟨'o', "f".toList, rfl, by decide⟩

theorem reads_onLineOfThen : Reads onLineOfThen IsSourcePhrase := by
  intro prev cs _ s
  simp only [onLineOfThen, onLineOf, Option.bind_eq_bind, Option.bind_eq_some_iff,
    phrase_eq_some_iff, spaced_line_eq_some_iff, spaced_of_eq_some_iff, exactly_eq_some_iff]
  constructor
  · intro h
    obtain ⟨_, ⟨_, ⟨onWord, rfl, hon⟩, _, ⟨gap, lineWord, gap', rfl, hgap, hline, hgap', -⟩,
      ⟨number, _⟩, hnumber, _, ⟨ofGap, ofWord, fileGap, rfl, hofGap, hof, hfileGap, -⟩,
      ⟨file, rest⟩, hfile, hplace⟩, _, hcolon, hrest⟩ := h
    obtain ⟨rfl, hnumberRun, -⟩ := run_eq_some_iff.1 hnumber
    obtain ⟨rfl, hfileRun, -⟩ := run_eq_some_iff.1 hfile
    obtain ⟨-, rfl⟩ := Prod.mk.inj (Option.some.inj hplace)
    obtain ⟨-, rfl⟩ := Prod.mk.inj (Option.some.inj hrest)
    refine ⟨_, ?_, onWord, gap, lineWord, gap', number, ofGap, ofWord, fileGap, file, rfl,
      ⟨hon, hgap, hline, hgap', hnumberRun⟩, hofGap, hof, hfileGap, hfileRun⟩
    rw [hcolon]
    simp only [List.append_assoc, List.singleton_append]
  · intro h
    obtain ⟨_, rfl, onWord, gap, lineWord, gap', number, ofGap, ofWord, fileGap, file, rfl, hphrase,
      hofGap, hof, hfileGap, hfile⟩ := h
    -- Each run ends where the next part starts: digits at white space, the name at the colon.
    have hnumberRun : run isDigit (number ++ (ofGap ++ (ofWord ++ (fileGap ++ (file ++ ':' :: s))))) =
        some (number, ofGap ++ (ofWord ++ (fileGap ++ (file ++ ':' :: s)))) :=
      run_eq_some_iff.2 ⟨rfl, hphrase.number, fun c hc =>
        not_isDigit_of_isBlank (head_of_isRun hofGap _ c hc)⟩
    have hfileRun : run isFileChar (file ++ ':' :: s) = some (file, ':' :: s) := by
      refine run_eq_some_iff.2 ⟨rfl, hfile, fun c hc => ?_⟩
      obtain rfl := Option.some.inj hc
      decide
    have hname : ∀ c ∈ (file ++ ':' :: s).head?, isBlank c = false := by
      intro c hc
      have hchar := head_of_isRun hfile _ c hc
      rw [isFileChar, Bool.and_eq_true, Bool.not_eq_true'] at hchar
      exact hchar.1
    have hdigits := head_of_digits hphrase.number (ofGap ++ (ofWord ++ (fileGap ++ (file ++ ':' :: s))))
    refine ⟨_, ⟨_, ⟨onWord, ?_, hphrase.onWord⟩, _, ⟨gap, lineWord, gap', rfl, hphrase.gap,
      hphrase.lineWord, hphrase.gap', hdigits⟩, _, hnumberRun, _,
      ⟨ofGap, ofWord, fileGap, rfl, hofGap, hof, hfileGap, hname⟩, _, hfileRun, rfl⟩, _, rfl, rfl⟩
    simp only [List.append_assoc, List.singleton_append]

end Marker

def IsCode (text : List Char) : Prop := text ≠ [] ∧ ∃ c ∈ text, c ≠ '^'

def FirstCode (cs text : List Char) : Prop :=
  ∃ earlier piece later, Pieces cs (earlier ++ piece :: later) ∧ IsTrimOf piece text ∧ IsCode text ∧
    ∀ other ∈ earlier, ∀ trimmed, IsTrimOf other trimmed → ¬IsCode trimmed

/-- The error text quotes a line of code: the first one after the first phrase that source text
follows. -/
def Quotes (raw text : List Char) : Prop :=
  ∃ p m s, FirstPart IsSourcePhrase raw p m () s ∧ FirstCode s text

/-- Trimming takes off what the end of a line may be, so the pieces serve for the lines. -/
theorem find?_lines_eq_some_iff :
    ((lines cs).map (strip isBlank)).find? (fun line => line ≠ [] && !line.all (· = '^')) =
      some text ↔ FirstCode cs text := by
  have hpieces : inkedLines (lines cs) = inkedLines (splitNewlines cs) :=
    inkedLines_terminatedLines (splitNewlines cs)
  have hcode (line : List Char) : (line ≠ [] && !line.all (· = '^')) = true ↔ IsCode line := by
    simp [IsCode]
  rw [find?_map_strip rfl, hpieces, ← find?_map_strip rfl, List.find?_eq_some_iff_append, hcode]
  constructor
  · intro h
    obtain ⟨htext, before, after, hsplit, hbefore⟩ := h
    obtain ⟨earlier, rest, hcs, rfl, hrest⟩ := List.map_eq_append_iff.1 hsplit
    obtain ⟨piece, later, rfl, rfl, -⟩ := List.map_eq_cons_iff.1 hrest
    refine ⟨earlier, piece, later, hcs ▸ pieces_splitNewlines cs, isTrimOf_strip piece, htext, ?_⟩
    intro other hother trimmed htrim hmore
    have hno := hbefore _ (List.mem_map_of_mem hother)
    rw [htrim.strip_eq, (hcode trimmed).2 hmore] at hno
    cases hno
  · intro h
    obtain ⟨earlier, piece, later, hsplit, htrim, htext, hearlier⟩ := h
    refine ⟨htext, earlier.map (strip isBlank), later.map (strip isBlank), ?_, ?_⟩
    · rw [splitNewlines_eq_iff.2 hsplit, List.map_append, List.map_cons, htrim.strip_eq]
    · intro line hline
      obtain ⟨other, hother, rfl⟩ := List.mem_map.1 hline
      rw [Bool.not_eq_true', ← Bool.not_eq_true, hcode]
      exact hearlier other hother _ (isTrimOf_strip other)

theorem Family.snippetLine_eq_some_iff {raw : List Char} {text : String} :
    snippetLine Marker.onLineOfThen raw = some text ↔ Quotes raw text.toList := by
  simp only [snippetLine, Option.bind_eq_bind, Option.bind_eq_some_iff, find?_lines_eq_some_iff]
  constructor
  · intro h
    obtain ⟨found, hfound, line, hline, htext⟩ := h
    obtain rfl := Option.some.inj htext
    obtain ⟨m, hfirst⟩ := Marker.reads_onLineOfThen.firstPart_of_leftmost hfound
    rw [String.toList_ofList]
    exact ⟨_, m, _, hfirst, hline⟩
  · intro h
    obtain ⟨p, m, s, hfirst, hline⟩ := h
    have hfound := Marker.reads_onLineOfThen.leftmost_of_firstPart hfirst
    exact ⟨_, hfound, text.toList, hline, congrArg some String.ofList_toList⟩

/-- What is quoted has no white space at its ends and is one line. -/
theorem Quotes.normal {raw : List Char} (h : Quotes raw text) : Trimmed text ∧ '\n' ∉ text := by
  obtain ⟨p, m, s, -, earlier, piece, later, hpieces, htrim, -⟩ := h
  refine ⟨htrim.trimmed, fun hmem => hpieces.unbroken piece (by simp) ?_⟩
  rw [← htrim.strip_eq] at hmem
  exact mem_of_mem_strip hmem

end ErrorGuide
