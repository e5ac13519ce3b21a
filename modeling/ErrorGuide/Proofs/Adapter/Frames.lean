import ErrorGuide.Proofs.Adapter.Dispatch
import ErrorGuide.Proofs.Trace.Frame
import Mathlib.Data.List.Forall2

/-! Which frames a trace has. Of every line the first frame is listed, and a further one in the same
line is passed over: it is neither listed nor where the trace is located. -/

namespace ErrorGuide
open Text

/-- The frames of the trace are those that are written, and it is located at the last of them, if this
one tells a line number. -/
structure Trace.ListsAll (t : Trace) (written : List Marker.FrameText) : Prop where
  frames : t.frames = written.map (·.frame)
  located : ∀ last ∈ written.getLast?, last.frame.line.isSome = true →
    t.file = last.frame.file ∧ t.line = last.frame.line

namespace Family
variable {f : Family} {raw : String} {code : Option String} {t : Trace}
  {lines : List (List Char)} {written : List (List Marker.FrameText)}

abbrev WrittenIn (lines : List (List Char)) (written : List (List Marker.FrameText)) : Prop :=
  List.Forall₂ (Parts Marker.IsFrame) lines written

theorem exists_writtenIn (lines : List (List Char)) : ∃ written, WrittenIn lines written := by
  induction lines with
  | nil => exact ⟨[], .nil⟩
  | cons line lines ih =>
    obtain ⟨frames, hframes⟩ :=
      Marker.reads_frame.exists_parts (fun _ _ _ hframe => hframe.ne_nil) line
    obtain ⟨written, hwritten⟩ := ih
    exact ⟨frames :: written, .cons hframes hwritten⟩

theorem framesIn_of_writtenIn (h : WrittenIn lines written) :
    framesIn lines = (written.filterMap List.head?).map (·.frame) := by
  induction h with
  | nil => rfl
  | cons hline hlines ih =>
    rw [framesIn] at ih
    rw [framesIn, List.filterMap_cons, List.filterMap_cons, Marker.reads_frame.head?_of_parts hline]
    cases hfound : leftmost Marker.frame _ with
    | none => exact ih
    | some found => exact congrArg _ ih

section Lists
variable {α : Type} {lists : List (List α)}

/-- The lists are made of what they start with and of the rest. -/
theorem length_flatten_eq (lists : List (List α)) :
    lists.flatten.length =
      (lists.filterMap List.head?).length + (lists.flatMap List.tail).length := by
  induction lists with
  | nil => rfl
  | cons first lists ih =>
    cases first with
    | nil => exact ih
    | cons a first =>
      rw [List.flatten_cons, List.length_append, ih, List.filterMap_cons, List.flatMap_cons,
        List.length_append, List.head?_cons, List.tail_cons, List.length_cons, List.length_cons]
      omega

theorem filterMap_head?_eq_flatten
    (h : ∀ list ∈ lists, list.length ≤ 1) : lists.filterMap List.head? = lists.flatten := by
  induction lists with
  | nil => rfl
  | cons first lists ih =>
    obtain ⟨hfirst, hlists⟩ := List.forall_mem_cons.1 h
    rw [List.filterMap_cons, List.flatten_cons, ih hlists]
    match first, hfirst with
    | [], _ => rfl
    | [a], _ => rfl

theorem length_le_one_of_length_flatten
    (h : lists.flatten.length = (lists.filterMap List.head?).length) :
    ∀ list ∈ lists, list.length ≤ 1 := by
  intro list hlist
  have hrest : lists.flatMap List.tail = [] := by
    apply List.eq_nil_of_length_eq_zero
    have hsum := length_flatten_eq lists
    omega
  have htail := List.flatMap_eq_nil_iff.1 hrest list hlist
  have hlength := congrArg List.length htail
  rw [List.length_tail, List.length_nil] at hlength
  omega

end Lists

theorem located_of_locate {last : Frame} {place : Option Marker.Place}
    (hlast : last ∈ t.frames.getLast?) (htold : last.line.isSome = true)
    (h : locate t.frames.getLast? place = (t.file, t.line)) :
    t.file = last.file ∧ t.line = last.line := by
  obtain ⟨n, hn⟩ := Option.isSome_iff_exists.1 htold
  simp only [locate, Option.mem_def.1 hlast, Option.bind_some, hn] at h
  obtain ⟨hfile, hline⟩ := Prod.mk.inj h
  exact ⟨hfile.symm, hline.symm.trans hn.symm⟩

/-- A line with two frames has one that is not listed. -/
theorem listsAll_iff (h : f.extract raw code = some t)
    (hwritten : WrittenIn (Trace.linesOf raw.toList) written) :
    t.ListsAll written.flatten ↔ ∀ line ∈ written, line.length ≤ 1 := by
  have htold := extracted_of_extract h
  have hframes : t.frames = (written.filterMap List.head?).map (·.frame) := by
    rw [← htold.frames, framesIn_of_writtenIn hwritten]
  constructor
  · intro hall
    have hlength := congrArg List.length (hall.frames.symm.trans hframes)
    rw [List.length_map, List.length_map] at hlength
    exact length_le_one_of_length_flatten hlength
  · intro hone
    rw [filterMap_head?_eq_flatten hone] at hframes
    refine ⟨hframes, ?_⟩
    intro last hlast hline
    refine located_of_locate ?_ hline htold.located
    rw [hframes, List.getLast?_map, Option.mem_def.1 hlast]
    rfl

/-- The frames of what a family reads are the first frames of the lines, in their order, and it is
located at the last one of these if this one tells a line number. So it lists all the frames of the
lines, and is located at the last of all, just if no line has two. -/
theorem extract_frames {f : Family} {raw : String} {code : Option String} {t : Trace}
    (h : f.extract raw code = some t) :
    (∃ written, WrittenIn (Trace.linesOf raw.toList) written) ∧
    ∀ written, WrittenIn (Trace.linesOf raw.toList) written →
      t.frames = (written.filterMap List.head?).map (·.frame) ∧
      (∀ last ∈ t.frames.getLast?, last.line.isSome = true →
        t.file = last.file ∧ t.line = last.line) ∧
      (t.ListsAll written.flatten ↔ ∀ line ∈ written, line.length ≤ 1) := by
  have htold := extracted_of_extract h
  refine ⟨exists_writtenIn _, fun written hwritten => ⟨?_, ?_, listsAll_iff h hwritten⟩⟩
  · rw [← htold.frames, framesIn_of_writtenIn hwritten]
  · exact fun last hlast hline => located_of_locate hlast hline htold.located

/-! A traceback whose lines have become one. -/

def flattenedCalls : String := "File \"a.py\", line 1, in <module> File \"b.py\", line 2, in f"

def flattened : String := flattenedCalls ++ "\nNameError: x"

def outerFrame : Marker.FrameText := ⟨⟨"a.py".toList, "1".toList⟩, some "<module>".toList⟩

def innerFrame : Marker.FrameText := ⟨⟨"b.py".toList, "2".toList⟩, some "f".toList⟩

theorem writtenIn_flattened :
    WrittenIn (Trace.linesOf flattened.toList) [[outerFrame, innerFrame], []] := by
  have hlines : Trace.linesOf flattened.toList =
      [flattenedCalls.toList, "NameError: x".toList] := by decide +kernel
  have houter : leftmost Marker.frame flattenedCalls.toList =
      some ⟨[], outerFrame, " File \"b.py\", line 2, in f".toList⟩ := rfl
  have hinner : leftmost Marker.frame " File \"b.py\", line 2, in f".toList =
      some ⟨[' '], innerFrame, []⟩ := rfl
  have hnone : leftmost Marker.frame [] = none := rfl
  have htail : leftmost Marker.frame "NameError: x".toList = none := rfl
  have hreads := Marker.reads_frame
  rw [hlines]
  refine .cons (hreads.parts_of_some houter ?_) (.cons (hreads.parts_of_none htail) .nil)
  exact hreads.parts_of_some hinner (hreads.parts_of_none hnone)

theorem exists_extract_flattened : ∃ t, skulpt.extract flattened none = some t :=
  Option.isSome_iff_exists.1 (by decide +kernel)

/-- Of two frames in one line the first is listed, and it is where the trace is located. -/
theorem extract_frames_flattened : ∃ t, skulpt.extract flattened none = some t ∧
    t.frames = [outerFrame.frame] ∧ t.file = some "a.py" ∧ t.line = some 1 := by
  obtain ⟨t, ht⟩ := exists_extract_flattened
  obtain ⟨-, hwritten⟩ := extract_frames ht
  obtain ⟨hframes, hlocated, -⟩ := hwritten _ writtenIn_flattened
  obtain ⟨hfile, hline⟩ := hlocated outerFrame.frame (by rw [hframes]; rfl) (by decide)
  exact ⟨t, ht, hframes, hfile, hline.trans (by decide)⟩

/-- The second of two frames in one line is not listed. -/
theorem not_forall_listsAll :
    ¬∀ (f : Family) (raw : String) (code : Option String) (t : Trace)
      (written : List (List Marker.FrameText)), f.extract raw code = some t →
      WrittenIn (Trace.linesOf raw.toList) written → t.ListsAll written.flatten := by
  intro h
  obtain ⟨t, ht⟩ := exists_extract_flattened
  have hone := (listsAll_iff ht writtenIn_flattened).1 (h _ _ _ _ _ ht writtenIn_flattened)
  exact absurd (hone _ List.mem_cons_self) (by decide)

end Family
end ErrorGuide
