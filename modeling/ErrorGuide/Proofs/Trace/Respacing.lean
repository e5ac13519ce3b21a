import ErrorGuide.Proofs.Text.Respacing
import ErrorGuide.Trace.Marker

/-! The markers that are looked for in a whole text are found or missed whatever its white space is:
they start and end with other characters, and between two words any gap will do. -/

namespace ErrorGuide.Marker
open Text Unicode

theorem inked_isDigit : Inked isDigit := fun _ => not_isDigit_of_isBlank

theorem inked_isWord : Inked isWord := fun _ => not_isWord_of_isBlank

theorem inked_isFileChar : Inked isFileChar := fun c hc => by
  rw [isFileChar, hc]
  rfl

structure Solid (w : String) : Prop where
  nonempty : w.toList ≠ []
  all : w.toList.all (fun a => !isBlank (fold a)) = true

section Solid
variable {w : String} {cs cs' : List Char}

theorem Solid.inked (hw : Solid w) : ∀ a ∈ w.toList, isBlank (fold a) = false := by
  simpa using hw.all

theorem Solid.phrase_eq_none (hw : Solid w) (h : ∀ c ∈ cs.head?, isBlank c = true) :
    phrase w.toList cs = none := by
  obtain ⟨a, rest, hword⟩ := List.exists_cons_of_ne_nil hw.nonempty
  have ha := hw.inked a (hword ▸ List.mem_cons_self)
  rw [hword, phrase_of_blank ha h]

theorem spaced_bind_respaced {α : Type} {s : α → α → Prop} {k : List Char → Option α}
    (hw : Solid w) (hnil : k [] = none)
    (hk : ∀ {cs cs'}, Respaced cs cs' → Option.Rel s (k cs) (k cs')) (h : Respaced cs cs') :
    Option.Rel s ((spaced w cs).bind k) ((spaced w cs').bind k) := by
  have hbind (cs : List Char) : (spaced w cs).bind k =
      (blanks cs).bind fun cs => (phrase w.toList cs).bind fun cs => (blanks cs).bind k := by
    simp only [spaced, Option.bind_eq_bind, Option.bind_assoc]
  rw [hbind, hbind]
  refine blanks_bind_respaced ?_ (fun h => ?_) h
  · rw [hw.phrase_eq_none (by simp)]
    rfl
  · exact rel_bind (phrase_respaced hw.inked h) fun _ _ h => blanks_bind_respaced hnil hk h

end Solid

theorem steady_anywhere {w : String} (hw : Solid w) : Steady (anywhere w) where
  none_of_blank prev cs h := by
    rw [anywhere, hw.phrase_eq_none h]
    rfl
  respaced _ h := rel_bind (phrase_respaced hw.inked h) fun _ _ h => .some ⟨rfl, h⟩

theorem solid_error : Solid "Error" := ⟨by decide, rfl⟩

theorem steady_errorEnding : Steady errorEnding where
  none_of_blank prev cs h := by
    rw [errorEnding, solid_error.phrase_eq_none h]
    rfl
  respaced _ h := by
    refine rel_bind (phrase_respaced solid_error.inked h) fun cs cs' h => ?_
    rw [wordMayEnd, wordMayEnd, head_respaced inked_isWord h]
    exact rel_bind (rel_guard _) fun _ _ _ => .some ⟨rfl, h⟩

theorem solid_on : Solid "on" := ⟨by decide, rfl⟩

theorem solid_line : Solid "line" := ⟨by decide, rfl⟩

theorem solid_of : Solid "of" := ⟨by decide, rfl⟩

theorem steady_onLine : Steady onLine where
  none_of_blank prev cs h := by
    rw [onLine, solid_on.phrase_eq_none h]
    cases wordMayStart prev <;> rfl
  respaced hprev h := by
    rw [onLine, onLine, wordMayStart, wordMayStart, hprev]
    refine rel_bind (rel_guard _) fun _ _ _ => ?_
    refine rel_bind (phrase_respaced solid_on.inked h) fun cs cs' h => ?_
    refine spaced_bind_respaced solid_line rfl (fun h => ?_) h
    exact rel_bind (run_respaced inked_isDigit h) fun _ _ h => .some ⟨rfl, h.2⟩

theorem steady_onLineOf : Steady onLineOf where
  none_of_blank prev cs h := by
    rw [onLineOf, solid_on.phrase_eq_none h]
    rfl
  respaced _ h := by
    refine rel_bind (phrase_respaced solid_on.inked h) fun cs cs' h => ?_
    refine spaced_bind_respaced solid_line rfl (fun h => ?_) h
    refine rel_bind (run_respaced inked_isDigit h) ?_
    rintro ⟨line, cs⟩ ⟨line, cs'⟩ ⟨rfl, h⟩
    refine spaced_bind_respaced solid_of rfl (fun h => ?_) h
    refine rel_bind (run_respaced inked_isFileChar h) ?_
    rintro ⟨file, cs⟩ ⟨file, cs'⟩ ⟨rfl, h⟩
    exact .some ⟨rfl, h⟩

theorem steady_onLineOfThen : Steady onLineOfThen where
  none_of_blank prev cs h := by
    rw [onLineOfThen, steady_onLineOf.none_of_blank prev cs h]
    rfl
  respaced hprev h := by
    refine rel_bind (steady_onLineOf.respaced hprev h) ?_
    rintro ⟨place, cs⟩ ⟨place', cs'⟩ ⟨-, h⟩
    exact rel_bind (exactly_respaced (by decide) h) fun _ _ h => .some ⟨rfl, h⟩

end ErrorGuide.Marker
