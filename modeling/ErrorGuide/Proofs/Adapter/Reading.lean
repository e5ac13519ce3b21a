import ErrorGuide.Proofs.Adapter.Dispatch
import ErrorGuide.Proofs.Trace.Tail
import ErrorGuide.Report.Format

/-! What a text is read as, by whichever family. The kind and the message come from the last line
alone, so all readings agree on them. The line that shows them in a fragment is read as the same. -/

namespace ErrorGuide
open Text

variable {raw : String} {code : Option String} {t t' : Trace} {tail : List Char}

namespace Trace

inductive IsReading (raw : String) : Trace → Prop
  | family {f : Family} {code : Option String} {t : Trace} (h : f.extract raw code = some t) :
      IsReading raw t
  | generic : IsReading raw (generic raw)

/-- The kind and the message of the trace are those that the line tells. Without a kind the message is
the line as it is; with one it has no white space around it and is one line. -/
structure TellsTail (t : Trace) (tail : List Char) : Prop where
  told : ∀ kind message, t.kind = some kind ∧ t.message = message ↔
    TellsKind tail kind.toList message.toList
  untold : t.kind = none ↔ ∀ kind message, ¬TellsKind tail kind message
  verbatim : t.kind = none → t.message.toList = tail
  normal : t.kind.isSome = true → Trimmed t.message.toList ∧ '\n' ∉ t.message.toList

theorem IsReading.readTail_eq (h : IsReading raw t) :
    readTail (tailOf (linesOf raw.toList)) = ⟨t.kind, t.message⟩ := by
  cases h with
  | family h => exact (Family.extracted_of_extract h).tail
  | generic => dsimp only [Trace.generic]

theorem IsReading.agree (h : IsReading raw t) (h' : IsReading raw t') :
    t.kind = t'.kind ∧ t.message = t'.message :=
  Tail.mk.inj (h.readTail_eq.symm.trans h'.readTail_eq)

section Tail
variable (h : IsReading raw t) (htail : IsTail raw.toList tail)
include h htail

theorem IsReading.readTail_tail : readTail tail = ⟨t.kind, t.message⟩ := by
  rw [← htail.tailOf_eq, h.readTail_eq]

theorem IsReading.told_iff (kind message : String) :
    t.kind = some kind ∧ t.message = message ↔ TellsKind tail kind.toList message.toList := by
  rw [← readTail_eq_iff, h.readTail_tail htail, Tail.mk.injEq]

theorem IsReading.tellsTail : t.TellsTail tail where
  told := h.told_iff htail
  untold := by rw [← kind_readTail_eq_none_iff, h.readTail_tail htail]
  verbatim hnone := by
    have hread := h.readTail_tail htail
    rw [readTail_of_kind_eq_none (hread ▸ hnone)] at hread
    rw [← (Tail.mk.inj hread).2, String.toList_ofList]
  normal hsome := by
    obtain ⟨kind, hkind⟩ := Option.isSome_iff_exists.1 hsome
    exact ((h.told_iff htail kind _).1 ⟨hkind, rfl⟩).message_normal htail

end Tail

/-- The line of a kind and a message is read as this kind and this message. -/
theorem IsReading.again {kind : String} (h : IsReading raw t) (hkind : t.kind = some kind)
    (h' : IsReading (kind ++ ": " ++ t.message) t') :
    t'.kind = some kind ∧ t'.message = t.message := by
  have htail := isTail_tailOf raw.toList
  have htold := (h.told_iff htail kind _).1 ⟨hkind, rfl⟩
  obtain ⟨htrim, hunbroken⟩ := htold.message_normal htail
  obtain ⟨tail', htail', htold'⟩ := htold.again htrim hunbroken
  have hline : kind.toList ++ (':' :: ' ' :: t.message.toList) =
      (kind ++ ": " ++ t.message).toList := by
    simp
  rw [hline] at htail'
  exact (h'.told_iff htail' kind _).2 htold'

end Trace

theorem Registry.isReading_extract_builtin (raw : String) (code : Option String) :
    Trace.IsReading raw (builtin.extract raw code) := by
  rw [extract_builtin]
  cases hskulpt : Family.skulpt.extract raw code with
  | some t => exact .family hskulpt
  | none =>
    cases hpyodide : Family.pyodide.extract raw code with
    | some t => exact .family hpyodide
    | none => exact .generic

namespace Trace

/-- A kind and a message are read exactly, alike by all, and alike once more where they are shown. A
text has one last line, which decides for every reading whether there is a kind, and which kind and
message there are. Whoever reads the text agrees on both, and any two families that accept it on the
name and the frames as well. What a trace with a kind shows as its details is read as the same. -/
theorem readings_tell (raw : String) :
    (∃ tail, IsTail raw.toList tail ∧ ∀ other, IsTail raw.toList other → other = tail) ∧
    (∀ code, IsReading raw (Registry.builtin.extract raw code)) ∧
    (∀ tail, IsTail raw.toList tail → ∀ t, IsReading raw t → t.TellsTail tail) ∧
    (∀ t t', IsReading raw t → IsReading raw t' → t.kind = t'.kind ∧ t.message = t'.message) ∧
    (∀ (f g : Family) (code code' : Option String) (t t' : Trace), f.extract raw code = some t →
      g.extract raw code' = some t' → t.name = t'.name ∧ t.frames = t'.frames) ∧
    ∀ t kind, IsReading raw t → t.kind = some kind → ∀ labels,
      Explanation.detailsLine t labels = kind ++ ": " ++ t.message ∧
      ∀ t', IsReading (Explanation.detailsLine t labels) t' →
        t'.kind = some kind ∧ t'.message = t.message := by
  refine ⟨⟨_, isTail_tailOf _, fun _ hother => hother.tailOf_eq.symm⟩,
    Registry.isReading_extract_builtin raw, fun _ htail _ h => h.tellsTail htail,
    fun _ _ h h' => h.agree h', ?_, ?_⟩
  · intro f g code code' t t' h h'
    have htold := Family.extracted_of_extract h
    have htold' := Family.extracted_of_extract h'
    have hmessage := ((IsReading.family h).agree (.family h')).2
    exact ⟨by rw [← htold.name, ← htold'.name, hmessage], htold.frames.symm.trans htold'.frames⟩
  · intro t kind h hkind labels
    have hdetails : Explanation.detailsLine t labels = kind ++ ": " ++ t.message := by
      rw [Explanation.detailsLine, hkind]
      rfl
    refine ⟨hdetails, fun t' h' => h.again hkind ?_⟩
    rwa [← hdetails]

def untidy : String := "x\nValueError\t:  bad: 'x' \n"

theorem isTail_untidy : IsTail untidy.toList "ValueError\t:  bad: 'x'".toList := by
  refine ⟨_, isTrimOf_strip _, ⟨['x', '\n'], rfl, ?_⟩, by simp⟩
  exact fun c hc => (Option.some.inj hc).symm

theorem tellsKind_untidy :
    TellsKind "ValueError\t:  bad: 'x'".toList "ValueError".toList "bad: 'x'".toList :=
  tellsKind_of_kindAndMessage? rfl

/-- Both families read the same in it, and its details tell this once more. -/
theorem readings_tell_untidy : ∃ t t', Family.skulpt.extract untidy none = some t ∧
    Family.pyodide.extract untidy (some "x") = some t' ∧ t.kind = some "ValueError" ∧
    t'.message = "bad: 'x'" ∧ t.name = t'.name ∧ t.frames = t'.frames ∧
    ∀ labels, (Trace.generic (Explanation.detailsLine t labels)).kind = some "ValueError" := by
  obtain ⟨t, ht⟩ : ∃ t, Family.skulpt.extract untidy none = some t :=
    Option.isSome_iff_exists.1 rfl
  obtain ⟨t', ht'⟩ : ∃ t, Family.pyodide.extract untidy (some "x") = some t :=
    Option.isSome_iff_exists.1 rfl
  obtain ⟨-, -, htells, hagree, hparts, hagain⟩ := readings_tell untidy
  have htold := (htells _ isTail_untidy t (.family ht)).told "ValueError" "bad: 'x'"
  obtain ⟨hkind, hmessage⟩ := htold.2 tellsKind_untidy
  obtain ⟨hname, hframes⟩ := hparts _ _ _ _ t t' ht ht'
  refine ⟨t, t', ht, ht', hkind, ?_, hname, hframes, fun labels => ?_⟩
  · rw [← (hagree t t' (.family ht) (.family ht')).2, hmessage]
  · exact ((hagain t _ (.family ht) hkind labels).2 _ .generic).1

end Trace
end ErrorGuide
