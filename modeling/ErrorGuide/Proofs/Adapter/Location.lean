import ErrorGuide.Adapter.Builtin
import ErrorGuide.Proofs.Text.Numeral

/-! Where a trace is located. File and line come from one marker: the last frame if it tells a line
number, otherwise the secondary place of the family, and the last frame again if there is none. -/

namespace ErrorGuide
open Text Unicode

/-- Digits of any script have no sign. -/
theorem unsigned_of_isRun {digits : List Char} (h : IsRun isDigit digits) :
    unsigned digits = digits := by
  apply unsigned_of_head
  intro hplus
  have hdigit : isDigit '+' = true := h.all '+' (List.mem_of_mem_head? hplus)
  exact absurd hdigit (by decide)

def TellsLast {α : Type} (scan : Scanner α) (lines : List (List Char)) (a : α) : Prop :=
  ∃ earlier line later found, lines = earlier ++ line :: later ∧ leftmost scan line = some found ∧
    found.value = a ∧ ∀ after ∈ later, leftmost scan after = none

theorem getLast?_filterMap_of_tellsLast {α : Type} {scan : Scanner α} {lines : List (List Char)}
    {a : α} (h : TellsLast scan lines a) :
    (lines.filterMap fun line => (leftmost scan line).map (·.value)).getLast? = some a := by
  obtain ⟨earlier, line, later, found, rfl, hfound, rfl, hlater⟩ := h
  have hnone : (later.filterMap fun line => (leftmost scan line).map (·.value)) = [] := by
    rw [List.filterMap_eq_nil_iff]
    intro after hafter
    rw [hlater after hafter]
    rfl
  rw [List.filterMap_append, List.filterMap_cons, hfound, Option.map_some, hnone]
  exact List.getLast?_concat

namespace Marker

theorem isRun_line_of_frame {before : Option Char} {cs rest : List Char} {fr : FrameText}
    (h : frame before cs = some (fr, rest)) : IsRun isDigit fr.place.line := by
  simp only [frame, Option.bind_eq_bind, Option.bind_eq_some_iff] at h
  obtain ⟨_, -, _, -, _, -, ⟨file, _⟩, -, _, -, _, -, _, -, ⟨line, _⟩, hline, hframe⟩ := h
  obtain ⟨-, hrun, -⟩ := run_eq_some_iff.1 hline
  have hfr : fr.place.line = line := by
    split at hframe
    · cases hframe
      rfl
    · cases hframe
      rfl
  rw [hfr]
  exact hrun

end Marker

def Scope.text (lines : List (List Char)) (raw : List Char) : Scope → List Char
  | .tail => Trace.tailOf lines
  | .raw => raw

namespace Family

def frameTextsIn (lines : List (List Char)) : List Marker.FrameText :=
  lines.filterMap fun line => (leftmost Marker.frame line).map (·.value)

theorem framesIn_eq (lines : List (List Char)) :
    framesIn lines = (frameTextsIn lines).map (·.frame) := by
  rw [framesIn, frameTextsIn, List.map_filterMap]
  simp only [Option.map_map]
  rfl

theorem isRun_line_of_mem {lines : List (List Char)} {fr : Marker.FrameText}
    (h : fr ∈ frameTextsIn lines) : IsRun isDigit fr.place.line := by
  obtain ⟨line, -, hfr⟩ := List.mem_filterMap.1 h
  obtain ⟨found, hfound, rfl⟩ := Option.map_eq_some_iff.1 hfr
  obtain ⟨rest, -, hreads⟩ := (isLeftmost_of_leftmostFrom hfound).reads
  exact Marker.isRun_line_of_frame hreads

/-- The number of a frame is that of its digits. -/
theorem tellNumber_of_mem {lines : List (List Char)} {fr : Marker.FrameText}
    (h : fr ∈ frameTextsIn lines) : TellNumber fr.place.line fr.frame.line := by
  have hnumber := tellNumber_word32? fr.place.line
  rw [unsigned_of_isRun (isRun_line_of_mem h)] at hnumber
  exact hnumber

variable (f : Family)

def FallsBackTo (lines : List (List Char)) (raw : List Char) (p : Marker.Place) : Prop :=
  ∃ scope scan found, f.fallback = some (scope, scan) ∧
    leftmost scan (scope.text lines raw) = some found ∧ found.value = p

variable {f} {lines : List (List Char)} {raw : List Char}

theorem fallbackPlace_eq_some_iff {p : Marker.Place} :
    f.fallbackPlace lines raw = some p ↔ f.FallsBackTo lines raw p := by
  simp only [fallbackPlace, FallsBackTo, Option.bind_eq_bind, Option.bind_eq_some_iff,
    Option.map_eq_some_iff, Prod.exists]
  refine exists_congr fun scope => exists_congr fun scan => ?_
  cases scope <;> simp only [Scope.text, exists_and_left]

theorem columnIn_of_tellsLast {scan : Scanner (List Char)} {digits : List Char}
    (hscan : f.column = some scan) (h : TellsLast scan lines digits) :
    f.columnIn lines = word32? digits := by
  rw [columnIn, hscan, Option.bind_eq_bind, Option.bind_some, Option.bind_eq_bind,
    getLast?_filterMap_of_tellsLast h, Option.bind_some]

theorem columnIn_eq_none
    (h : ∀ scan ∈ f.column, ∀ line ∈ lines, leftmost scan line = none) :
    f.columnIn lines = none := by
  rw [columnIn]
  cases hscan : f.column with
  | none => rfl
  | some scan =>
    have hnone : (lines.filterMap fun line => (leftmost scan line).map (·.value)) = [] := by
      rw [List.filterMap_eq_nil_iff]
      intro line hline
      rw [h scan hscan line hline]
      rfl
    rw [Option.bind_eq_bind, Option.bind_some, hnone]
    rfl

variable (f lines raw)

inductive Locates (t : Trace) : Prop
  | frame (fr : Frame) (last : t.frames.getLast? = some fr) (told : fr.line.isSome = true)
      (file : t.file = fr.file) (line : t.line = fr.line)
  /-- The secondary place, as the last frame tells no line number. The line is absent if its digits
  tell none either. -/
  | fallback (p : Marker.Place) (untold : ∀ fr ∈ t.frames.getLast?, fr.line = none)
      (found : f.FallsBackTo lines raw p) (file : t.file = some (String.ofList p.file))
      (line : TellNumber (unsigned p.line) t.line)
  | file (fr : Frame) (last : t.frames.getLast? = some fr) (untold : fr.line = none)
      (notFound : ∀ p, ¬f.FallsBackTo lines raw p) (file : t.file = fr.file) (line : t.line = none)
  | nowhere (noFrames : t.frames = []) (notFound : ∀ p, ¬f.FallsBackTo lines raw p)
      (file : t.file = none) (line : t.line = none)

variable {f lines raw}

theorem locates_of_locate {t : Trace}
    (h : locate t.frames.getLast? (f.fallbackPlace lines raw) = (t.file, t.line)) :
    f.Locates lines raw t := by
  have hnotFound (hplace : f.fallbackPlace lines raw = none) (p : Marker.Place) :
      ¬f.FallsBackTo lines raw p := by
    intro hp
    rw [fallbackPlace_eq_some_iff.2 hp] at hplace
    cases hplace
  cases hlast : t.frames.getLast? with
  | none =>
    cases hplace : f.fallbackPlace lines raw with
    | none =>
      rw [hlast, hplace] at h
      obtain ⟨hfile, hline⟩ := Prod.mk.inj h
      exact .nowhere (List.getLast?_eq_none_iff.1 hlast) (hnotFound hplace) hfile.symm hline.symm
    | some p =>
      rw [hlast, hplace] at h
      obtain ⟨hfile, hline⟩ := Prod.mk.inj h
      refine .fallback p (by simp [hlast]) (fallbackPlace_eq_some_iff.1 hplace) hfile.symm ?_
      rw [← hline]
      exact tellNumber_word32? p.line
  | some fr =>
    cases htold : fr.line with
    | some n =>
      simp only [locate, hlast, Option.bind_some, htold] at h
      obtain ⟨hfile, hline⟩ := Prod.mk.inj h
      exact .frame fr hlast (by simp [htold]) hfile.symm (htold ▸ hline.symm)
    | none =>
      cases hplace : f.fallbackPlace lines raw with
      | none =>
        simp only [locate, hlast, Option.bind_some, htold, hplace] at h
        obtain ⟨hfile, hline⟩ := Prod.mk.inj h
        exact .file fr hlast htold (hnotFound hplace) hfile.symm hline.symm
      | some p =>
        simp only [locate, hlast, Option.bind_some, htold, hplace] at h
        obtain ⟨hfile, hline⟩ := Prod.mk.inj h
        refine .fallback p ?_ (fallbackPlace_eq_some_iff.1 hplace) hfile.symm ?_
        · intro fr' hfr'
          obtain rfl := Option.some.inj (hlast.symm.trans hfr')
          exact htold
        · rw [← hline]
          exact tellNumber_word32? p.line

/-- An error text whose last frame has a line number that does not fit, as the last column does. -/
def oversized : String :=
  "File \"a.py\", line 3\ncolumn 7\nFile \"b.py\", line 4294967296\ncolumn 99999999999\n" ++
    "TypeError: bad operand on line 2 of c.py"

/-- File and line of what a family reads come from one marker, and no number wraps around or is kept
from an earlier marker. The frames are those that the lines tell, each with the number of its digits.
The last one is where the trace is located if it has a number; if not, the secondary place is, for
both file and line; and without one the line is absent. The column has the number of the digits that
are told last, and is absent if none are told. Digits have a number if they are ASCII digits of a
value that fits, and none otherwise. A family may let a plus sign stand before them. -/
theorem extract_located {f : Family} {raw : String} {code : Option String} {t : Trace}
    (h : f.extract raw code = some t) :
    f.Locates (Trace.linesOf raw.toList) raw.toList t ∧
    t.frames = (frameTextsIn (Trace.linesOf raw.toList)).map (·.frame) ∧
    (∀ fr ∈ frameTextsIn (Trace.linesOf raw.toList), TellNumber fr.place.line fr.frame.line) ∧
    (∀ scan ∈ f.column, ∀ digits, TellsLast scan (Trace.linesOf raw.toList) digits →
      TellNumber (unsigned digits) t.col) ∧
    ((∀ scan ∈ f.column, ∀ line ∈ Trace.linesOf raw.toList, leftmost scan line = none) →
      t.col = none) := by
  dsimp only [extract] at h
  generalize hlocate : locate (framesIn (Trace.linesOf raw.toList)).getLast?
    (f.fallbackPlace (Trace.linesOf raw.toList) raw.toList) = place at h
  split at h
  · obtain rfl := Option.some.inj h
    refine ⟨locates_of_locate hlocate, framesIn_eq _, fun fr hfr => tellNumber_of_mem hfr, ?_, ?_⟩
    · intro scan hscan digits hdigits
      have hcol := columnIn_of_tellsLast hscan hdigits
      dsimp only
      rw [hcol]
      exact tellNumber_word32? digits
    · exact columnIn_eq_none
  · cases h

/-- A line number and a column that do not fit clear the ones before them, and the place after the
message takes the place of the frame. -/
theorem extract_located_oversized : ∃ t, pyodide.extract oversized none = some t ∧
    t.file = some "c.py" ∧ t.line = some 2 ∧ t.col = none := by
  have hsome : (pyodide.extract oversized none).isSome = true := by decide +kernel
  have hplace : pyodide.fallbackPlace (Trace.linesOf oversized.toList) oversized.toList =
      some ⟨"c.py".toList, "2".toList⟩ := by decide +kernel
  have hlast : ((frameTextsIn (Trace.linesOf oversized.toList)).map (·.frame)).getLast? =
      some ⟨some "b.py", none, none⟩ := by decide +kernel
  have hdigits : TellsLast Marker.column (Trace.linesOf oversized.toList) "99999999999".toList :=
    ⟨(Trace.linesOf oversized.toList).take 3, "column 99999999999".toList,
      (Trace.linesOf oversized.toList).drop 4, ⟨[], "99999999999".toList, []⟩, by decide +kernel⟩
  obtain ⟨t, ht⟩ := Option.isSome_iff_exists.1 hsome
  obtain ⟨hlocates, hframes, -, hcol, -⟩ := extract_located ht
  have hcolumn := hcol Marker.column rfl _ hdigits
  have hnone : t.col = none := hcolumn.none_iff.2 fun hfits => absurd hfits.2 (by decide +kernel)
  rw [← hframes] at hlast
  cases hlocates with
  | frame fr last told file line =>
    obtain rfl := Option.some.inj (hlast.symm.trans last)
    cases told
  | fallback p untold found file line =>
    have hp := fallbackPlace_eq_some_iff.2 found
    obtain rfl := Option.some.inj (hplace.symm.trans hp)
    have htwo : t.line = some 2 :=
      (line.some_iff 2).2 ⟨⟨by decide, List.all_eq_true.1 (by decide)⟩, by decide +kernel⟩
    exact ⟨t, ht, file, htwo, hnone⟩
  | file fr last untold notFound file line =>
    exact absurd (fallbackPlace_eq_some_iff.1 hplace) (notFound _)
  | nowhere noFrames notFound file line =>
    exact absurd (fallbackPlace_eq_some_iff.1 hplace) (notFound _)

end Family
end ErrorGuide
