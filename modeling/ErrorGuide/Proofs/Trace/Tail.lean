import ErrorGuide.Proofs.Text.Scan
import ErrorGuide.Proofs.Text.Trimmed
import ErrorGuide.Proofs.Unicode.Blank
import ErrorGuide.Trace.Tail

/-! What the last line of an error text tells. A kind and a message that a line tells make a line
again, with one blank after the colon, and this line tells the same. -/

namespace ErrorGuide.Trace
open Text Unicode

variable {raw text tail line kind message : List Char}

/-- The line is a kind, a colon and a message, perhaps with white space on both sides of the colon.
The kind is a word that is longer than its ending. -/
structure TellsKind (line kind message : List Char) : Prop where
  split : ∃ gap gap', line = kind ++ (gap ++ ':' :: (gap' ++ message)) ∧
    (∀ c ∈ gap, isBlank c = true) ∧ ∀ c ∈ gap', isBlank c = true
  word : ∀ c ∈ kind, isWord c = true
  ending : kindEnding <:+ kind
  longer : kindEnding.length < kind.length
  message : ∀ c ∈ message.head?, isBlank c = false

theorem isKind_iff : isKind kind = true ↔ kindEnding <:+ kind ∧ kindEnding.length < kind.length := by
  rw [isKind, Bool.and_eq_true, List.isSuffixOf_iff_suffix, decide_eq_true_eq]

theorem tellsKind_of_kindAndMessage? (h : kindAndMessage? line = some (kind, message)) :
    TellsKind line kind message := by
  rw [kindAndMessage?] at h
  split at h
  · next rest hcolon =>
    split at h
    · next hkind =>
      obtain ⟨rfl, rfl⟩ := Prod.mk.inj (Option.some.inj h)
      obtain ⟨hending, hlonger⟩ := isKind_iff.1 hkind
      refine ⟨⟨(line.dropWhile isWord).takeWhile isBlank, rest.takeWhile isBlank, ?_, ?_, ?_⟩, ?_,
        hending, hlonger, ?_⟩
      · rw [List.takeWhile_append_dropWhile, ← hcolon, List.takeWhile_append_dropWhile,
          List.takeWhile_append_dropWhile]
      · exact List.all_eq_true.1 List.all_takeWhile
      · exact List.all_eq_true.1 List.all_takeWhile
      · exact List.all_eq_true.1 List.all_takeWhile
      · intro c hc
        have hnot := List.head?_dropWhile_not isBlank rest
        rwa [Option.mem_def.1 hc] at hnot
    · cases h
  · cases h

/-- The word ends where white space or the colon follows, as neither stands in a word. -/
theorem TellsKind.kindAndMessage?_eq (h : TellsKind line kind message) :
    kindAndMessage? line = some (kind, message) := by
  obtain ⟨gap, gap', rfl, hgap, hgap'⟩ := h.split
  have hend : ∀ c ∈ (gap ++ ':' :: (gap' ++ message)).head?, isWord c = false := by
    intro c hc
    cases gap with
    | nil =>
      obtain rfl := Option.some.inj hc
      rfl
    | cons b gap =>
      obtain rfl := Option.some.inj hc
      exact not_isWord_of_isBlank (hgap b List.mem_cons_self)
  obtain ⟨hkind, hrest⟩ := takeWhile_append_of_head h.word hend
  have hcolon : ∀ c ∈ (':' :: (gap' ++ message)).head?, isBlank c = false := by
    intro c hc
    obtain rfl := Option.some.inj hc
    rfl
  obtain ⟨-, hgapped⟩ := takeWhile_append_of_head hgap hcolon
  obtain ⟨-, hmessage⟩ := takeWhile_append_of_head hgap' h.message
  simp only [kindAndMessage?, hkind, hrest, hgapped, hmessage]
  exact if_pos (isKind_iff.2 ⟨h.ending, h.longer⟩)

theorem kindAndMessage?_eq_some_iff :
    kindAndMessage? line = some (kind, message) ↔ TellsKind line kind message :=
  ⟨tellsKind_of_kindAndMessage?, TellsKind.kindAndMessage?_eq⟩

theorem kindAndMessage?_eq_none_iff :
    kindAndMessage? line = none ↔ ∀ kind message, ¬TellsKind line kind message := by
  rw [Option.eq_none_iff_forall_not_mem, Prod.forall]
  exact forall_congr' fun _ => forall_congr' fun _ => not_congr kindAndMessage?_eq_some_iff

theorem readTail_eq_iff {kind message : String} :
    readTail line = ⟨some kind, message⟩ ↔ TellsKind line kind.toList message.toList := by
  rw [← kindAndMessage?_eq_some_iff, readTail]
  cases kindAndMessage? line with
  | none => simp
  | some told =>
    obtain ⟨kind', message'⟩ := told
    simp [← String.toList_inj]

theorem kind_readTail_eq_none_iff :
    (readTail line).kind = none ↔ ∀ kind message, ¬TellsKind line kind message := by
  rw [← kindAndMessage?_eq_none_iff, readTail]
  cases kindAndMessage? line with
  | none => simp
  | some told => simp

theorem readTail_of_kind_eq_none (h : (readTail line).kind = none) :
    readTail line = ⟨none, String.ofList line⟩ := by
  rw [kind_readTail_eq_none_iff, ← kindAndMessage?_eq_none_iff] at h
  rw [readTail, h]

theorem TellsKind.kind_ne_nil (h : TellsKind line kind message) : kind ≠ [] :=
  List.ne_nil_of_length_pos (Nat.lt_of_le_of_lt (Nat.zero_le _) h.longer)

theorem TellsKind.head (h : TellsKind line kind message) : ∀ c ∈ line.head?, isBlank c = false := by
  obtain ⟨gap, gap', rfl, -, -⟩ := h.split
  intro c hc
  have hword := head_of_isRun ⟨h.kind_ne_nil, h.word⟩ _ c hc
  cases hblank : isBlank c with
  | false => rfl
  | true =>
    rw [not_isWord_of_isBlank hblank] at hword
    cases hword

/-! The last line of a text. -/

def IsTail (raw tail : List Char) : Prop :=
  ∃ text, IsTrimOf raw text ∧ IsLastLine text tail

/-- The last line is not empty, so it is the last one that is not. -/
theorem IsTail.tailOf_eq (h : IsTail raw tail) : tailOf (linesOf raw) = tail := by
  obtain ⟨text, htrim, hlast⟩ := h
  rw [linesOf, htrim.strip_eq]
  by_cases htail : tail = []
  · subst htail
    rw [hlast.eq_nil_of_trimmed htrim.trimmed]
    rfl
  · obtain ⟨earlier, hlines⟩ := hlast.exists_lines_eq htail
    rw [hlines, List.filter_append, List.filter_singleton]
    simp [tailOf, htail]

theorem isTail_tailOf (raw : List Char) : IsTail raw (tailOf (linesOf raw)) := by
  obtain ⟨tail, hlast⟩ := exists_isLastLine (strip isBlank raw)
  have htail : IsTail raw tail := ⟨_, isTrimOf_strip raw, hlast⟩
  rwa [htail.tailOf_eq]

theorem IsTail.unbroken (h : IsTail raw tail) : '\n' ∉ tail := by
  obtain ⟨_, -, hlast⟩ := h
  exact hlast.unbroken

theorem IsTail.last (h : IsTail raw tail) : ∀ c ∈ tail.getLast?, isBlank c = false := by
  obtain ⟨text, htrim, hlast⟩ := h
  obtain ⟨before, rfl, -⟩ := hlast.split
  intro c hc
  refine htrim.trimmed.last c ?_
  rw [List.getLast?_append, Option.mem_def.1 hc]
  rfl

theorem isTail_of_trimmed (htext : Trimmed text) (hunbroken : '\n' ∉ text) (trail : List Char)
    (htrail : ∀ c ∈ trail, isBlank c = true) : IsTail (text ++ trail) text :=
  ⟨text, ⟨⟨[], trail, rfl, by simp, htrail⟩, htext⟩, ⟨[], rfl, by simp⟩, hunbroken⟩

/-- A message with a kind has no white space around it and is one line. -/
theorem TellsKind.message_normal (h : TellsKind tail kind message)
    (htail : IsTail raw tail) : Trimmed message ∧ '\n' ∉ message := by
  obtain ⟨gap, gap', rfl, -, -⟩ := h.split
  refine ⟨⟨h.message, fun c hc => htail.last c ?_⟩, fun hmem => htail.unbroken (by simp [hmem])⟩
  simp [List.getLast?_append, List.getLast?_cons, Option.mem_def.1 hc]

/-- A kind and a message make a line that tells them again. If the message is empty the line ends in
white space, which trimming takes off. -/
theorem TellsKind.again (h : TellsKind line kind message) (htrim : Trimmed message)
    (hunbroken : '\n' ∉ message) :
    ∃ tail, IsTail (kind ++ (':' :: ' ' :: message)) tail ∧ TellsKind tail kind message := by
  have hspace : ∀ c ∈ [' '], isBlank c = true := List.all_eq_true.1 rfl
  have hkind : '\n' ∉ kind := by
    intro hmem
    exact absurd (h.word _ hmem) (by decide)
  by_cases hmessage : message = []
  · subst hmessage
    have hagain : TellsKind (kind ++ [':']) kind [] :=
      ⟨⟨[], [], rfl, by simp, by simp⟩, h.word, h.ending, h.longer, h.message⟩
    refine ⟨kind ++ [':'], ?_, hagain⟩
    have hline : Trimmed (kind ++ [':']) := by
      refine ⟨hagain.head, fun c hc => ?_⟩
      rw [List.getLast?_concat] at hc
      obtain rfl := Option.some.inj hc
      rfl
    have htail := isTail_of_trimmed hline (by simpa using hkind) [' '] hspace
    rwa [List.append_assoc] at htail
  · have hagain : TellsKind (kind ++ (':' :: ' ' :: message)) kind message :=
      ⟨⟨[], [' '], rfl, by simp, hspace⟩, h.word, h.ending, h.longer, h.message⟩
    refine ⟨_, ?_, hagain⟩
    have hline : Trimmed (kind ++ (':' :: ' ' :: message)) := by
      refine ⟨hagain.head, fun c hc => htrim.last c ?_⟩
      obtain ⟨before, d, rfl⟩ := List.eq_nil_or_concat message |>.resolve_left hmessage
      simpa [List.getLast?_append, List.getLast?_cons] using hc
    have htail := isTail_of_trimmed hline (by simp [hkind, hunbroken]) [] (by simp)
    rwa [List.append_nil] at htail

end ErrorGuide.Trace
