import ErrorGuide.Proofs.Text.Parts
import ErrorGuide.Proofs.Trace.Marker

/-! Frames as parts of a text: the word `File`, a name in quotation marks, a line number, and the name
of a function if it follows. -/

namespace ErrorGuide.Marker
open Text Unicode

variable {cs m func s : List Char} {fr : FrameText}

def IsCall (m func s : List Char) : Prop :=
  ∃ gap word gap', m = ',' :: (gap ++ (word ++ (gap' ++ func))) ∧ IsRun isBlank gap ∧
    InAnyCase "in".toList word ∧ IsRun isBlank gap' ∧ IsRun (!isBlank ·) func ∧
    ∀ c ∈ s.head?, isBlank c = true

structure FrameWords (fileWord gap file gap' lineWord gap'' line : List Char) : Prop where
  fileWord : InAnyCase "File".toList fileWord
  gap : IsRun isBlank gap
  file : IsRun (· ≠ '"') file
  gap' : IsRun isBlank gap'
  lineWord : InAnyCase "line".toList lineWord
  gap'' : IsRun isBlank gap''
  line : IsRun isDigit line

def EndsFrame (call : List Char) (s : List Char) : Option (List Char) → Prop
  | some func => IsCall call func s
  | none => call = [] ∧ ∀ m func s', s = m ++ s' → ¬IsCall m func s'

/-- A frame. All digits that follow each other belong to the line number. -/
def IsFrame (m : List Char) (fr : FrameText) (s : List Char) : Prop :=
  ∃ fileWord gap gap' lineWord gap'' call,
    m = fileWord ++ (gap ++ '"' :: (fr.place.file ++ '"' :: ',' ::
      (gap' ++ (lineWord ++ (gap'' ++ (fr.place.line ++ call)))))) ∧
    FrameWords fileWord gap fr.place.file gap' lineWord gap'' fr.place.line ∧
    EndsFrame call s fr.func ∧ ∀ c ∈ (call ++ s).head?, isDigit c = false

theorem spaced_in_eq_some_iff {rest : List Char} :
    spaced "in" cs = some rest ↔ ∃ gap v gap', cs = gap ++ (v ++ (gap' ++ rest)) ∧
      IsRun isBlank gap ∧ InAnyCase "in".toList v ∧ IsRun isBlank gap' ∧
      ∀ c ∈ rest.head?, isBlank c = false :=
  spaced_eq_some_iff ⟨'i', "n".toList, rfl, by decide⟩

theorem frameFunction_eq_some_iff :
    frameFunction cs = some (func, s) ↔ ∃ m, cs = m ++ s ∧ IsCall m func s := by
  simp only [frameFunction, Option.bind_eq_bind, Option.bind_eq_some_iff, exactly_eq_some_iff,
    spaced_in_eq_some_iff, run_eq_some_iff]
  constructor
  · rintro ⟨_, rfl, _, ⟨gap, word, gap', rfl, hgap, hword, hgap', -⟩, rfl, hfunc, hend⟩
    exact ⟨',' :: (gap ++ (word ++ (gap' ++ func))), by simp, gap, word, gap', rfl, hgap, hword,
      hgap', hfunc, fun c hc => by simpa using hend c hc⟩
  · rintro ⟨_, rfl, gap, word, gap', rfl, hgap, hword, hgap', hfunc, hend⟩
    have hhead : ∀ c ∈ (func ++ s).head?, isBlank c = false := fun c hc => by
      simpa using head_of_isRun hfunc s c hc
    exact ⟨gap ++ (word ++ (gap' ++ (func ++ s))), by simp, func ++ s,
      ⟨gap, word, gap', rfl, hgap, hword, hgap', hhead⟩, rfl, hfunc,
      fun c hc => by simpa using hend c hc⟩

theorem frameFunction_eq_none_iff :
    frameFunction cs = none ↔ ∀ m func s, cs = m ++ s → ¬IsCall m func s := by
  rw [Option.eq_none_iff_forall_not_mem]
  constructor
  · intro h m func s hcs hcall
    exact h (func, s) (frameFunction_eq_some_iff.2 ⟨m, hcs, hcall⟩)
  · rintro h ⟨func, s⟩ hread
    obtain ⟨m, hcs, hcall⟩ := frameFunction_eq_some_iff.1 hread
    exact h m func s hcs hcall

def readCall (cs : List Char) : Option (List Char) × List Char :=
  match frameFunction cs with
  | some (func, rest) => (some func, rest)
  | none => (none, cs)

theorem readCall_eq_iff {call? : Option (List Char)} :
    readCall cs = (call?, s) ↔ ∃ call, cs = call ++ s ∧ EndsFrame call s call? := by
  rw [readCall]
  cases hcall : frameFunction cs with
  | none =>
    have hnone := frameFunction_eq_none_iff.1 hcall
    constructor
    · intro h
      obtain ⟨rfl, rfl⟩ := Prod.mk.inj h
      exact ⟨[], rfl, rfl, hnone⟩
    · intro h
      obtain ⟨call, rfl, hends⟩ := h
      cases call? with
      | none =>
        obtain ⟨rfl, -⟩ := hends
        rfl
      | some func => exact absurd hends (hnone call func s rfl)
  | some read =>
    obtain ⟨func, rest⟩ := read
    constructor
    · intro h
      obtain ⟨rfl, rfl⟩ := Prod.mk.inj h
      exact frameFunction_eq_some_iff.1 hcall
    · intro h
      obtain ⟨call, rfl, hends⟩ := h
      cases call? with
      | none =>
        obtain ⟨rfl, hnone⟩ := hends
        cases (frameFunction_eq_none_iff.2 hnone).symm.trans hcall
      | some func' =>
        have hread := frameFunction_eq_some_iff.2 ⟨call, rfl, hends⟩
        obtain ⟨rfl, rfl⟩ := Prod.mk.inj (Option.some.inj (hread.symm.trans hcall))
        rfl

theorem readCall_match (file line cs : List Char) :
    (match frameFunction cs with
      | some (func, cs) => return (FrameText.mk ⟨file, line⟩ (some func), cs)
      | none => return (⟨⟨file, line⟩, none⟩, cs) : Option (FrameText × List Char)) =
      some (⟨⟨file, line⟩, (readCall cs).1⟩, (readCall cs).2) := by
  rw [readCall]
  cases frameFunction cs <;> rfl

theorem reads_frame : Reads frame IsFrame := by
  intro prev cs fr s
  simp only [frame, Option.bind_eq_bind, Option.bind_eq_some_iff, exactly_eq_some_iff,
    phrase_eq_some_iff, blanks_eq_some_iff, spaced_line_eq_some_iff]
  constructor
  · intro h
    obtain ⟨_, ⟨fileWord, rfl, hfileWord⟩, _, ⟨gap, rfl, hgap, -⟩, _, rfl, ⟨file, _⟩, hfile, _, rfl,
      _, rfl, _, ⟨gap', lineWord, gap'', rfl, hgap', hlineWord, hgap'', -⟩, ⟨line, rest⟩, hline,
      hread⟩ := h
    obtain ⟨rfl, hfileRun, -⟩ := run_eq_some_iff.1 hfile
    obtain ⟨rfl, hlineRun, hdigits⟩ := run_eq_some_iff.1 hline
    have hend := (readCall_match file line rest).symm.trans hread
    obtain ⟨rfl, hs⟩ := Prod.mk.inj (Option.some.inj hend)
    have hcall : readCall rest = ((readCall rest).1, s) := by rw [← hs]
    obtain ⟨call, hrest, hends⟩ := readCall_eq_iff.1 hcall
    refine ⟨fileWord ++ (gap ++ '"' :: (file ++ '"' :: ',' ::
      (gap' ++ (lineWord ++ (gap'' ++ (line ++ call)))))), ?_, fileWord, gap, gap', lineWord, gap'',
      call, rfl, ⟨hfileWord, hgap, hfileRun, hgap', hlineWord, hgap'', hlineRun⟩, hends,
      hrest ▸ hdigits⟩
    simp only [List.append_assoc, List.cons_append, ← hrest]
  · intro h
    obtain ⟨_, rfl, fileWord, gap, gap', lineWord, gap'', call, rfl, hwords, hends, hdigits⟩ := h
    obtain ⟨⟨file, line⟩, func⟩ := fr
    have hread := readCall_eq_iff.2 ⟨call, rfl, hends⟩
    have hend := readCall_match file line (call ++ s)
    rw [hread] at hend
    have hfile : run (· ≠ '"') (file ++ '"' :: ',' :: (gap' ++ (lineWord ++ (gap'' ++ (line ++
        (call ++ s)))))) = some (file, _) := run_eq_some_iff.2 ⟨rfl, hwords.file, by simp⟩
    have hline : run isDigit (line ++ (call ++ s)) = some (line, call ++ s) :=
      run_eq_some_iff.2 ⟨rfl, hwords.line, hdigits⟩
    have hnumber : ∀ c ∈ (line ++ (call ++ s)).head?, isBlank c = false :=
      head_of_digits hwords.line _
    refine ⟨_, ⟨fileWord, ?_, hwords.fileWord⟩, _, ⟨gap, rfl, hwords.gap, ?_⟩, _, rfl, _, hfile, _,
      rfl, _, rfl, _, ⟨gap', lineWord, gap'', rfl, hwords.gap', hwords.lineWord,
        hwords.gap'', hnumber⟩, _, hline, hend⟩
    · simp only [List.append_assoc, List.cons_append]
    · intro c hc
      obtain rfl := Option.some.inj hc
      decide

theorem IsFrame.ne_nil (h : IsFrame m fr s) : m ≠ [] := by
  obtain ⟨fileWord, gap, gap', lineWord, gap'', call, rfl, -⟩ := h
  simp

end ErrorGuide.Marker
