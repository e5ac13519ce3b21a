import ErrorGuide.Deck.Glossary
import ErrorGuide.Proofs.Html.Entities
import ErrorGuide.Proofs.Pattern.Expansion
import ErrorGuide.Proofs.Pattern.Spans

/-! Vocabulary in escaped text. A term that can hit an entity, or a part of one, changes what the
text says; one that cannot does to an escaped text what it does to the text itself. -/

namespace ErrorGuide
open Html

namespace Pattern

def Step.sparesEntities : Step → Bool
  | .take s _ => (';' :: specials).all fun c => !s.contains c
  | .look _ _ => true
  | .fork _ _ => true
  | .done => true

/-- Enough for matches to have nothing to do with entities: no step takes either end of one, and
there is no match inside. -/
def Program.sparesEntities (p : Program) : Bool :=
  p.steps.all Step.sparesEntities && specials.all fun c => (p.find none (escapeChar c)).isNone

namespace Program
variable {p : Program}

theorem inert_of_sparesEntities (h : p.sparesEntities = true) {c : Char}
    (hc : c ∈ ';' :: specials) : p.Inert c where
  mute := by
    simp only [specials, List.mem_cons, List.not_mem_nil, or_false] at hc
    obtain rfl | rfl | rfl | rfl | rfl | rfl := hc <;> exact ⟨by decide, by decide, by decide⟩
  spurned := by
    intro t
    obtain ⟨hsteps, -⟩ := Bool.and_eq_true_iff.1 h
    unfold advance
    split
    · next s next hstep =>
      have hspares := Array.all_eq_true.1 hsteps
      obtain ⟨hlt, hget⟩ := Array.getElem?_eq_some_iff.1 hstep
      have hs := hspares t.step hlt
      rw [hget, Step.sparesEntities, List.all_eq_true] at hs
      rw [if_neg]
      simpa using hs c hc
    · rfl

theorem exists_escapeChar_eq {c : Char} (hc : c ∈ specials) :
    ∃ u, escapeChar c = '&' :: (u ++ [';']) := by
  simp only [specials, List.mem_cons, List.not_mem_nil, or_false] at hc
  obtain rfl | rfl | rfl | rfl | rfl := hc
  · exact ⟨['a', 'm', 'p'], rfl⟩
  · exact ⟨['l', 't'], rfl⟩
  · exact ⟨['g', 't'], rfl⟩
  · exact ⟨['q', 'u', 'o', 't'], rfl⟩
  · exact ⟨['#', '3', '9'], rfl⟩

theorem passesOver_escapeChar (h : p.sparesEntities = true) (c : Char) :
    p.PassesOver escapeChar c := by
  by_cases hc : c ∈ specials
  · obtain ⟨u, hu⟩ := exists_escapeChar_eq hc
    have hinert {b : Char} (hb : b ∈ ';' :: specials) : p.Inert b := inert_of_sparesEntities h hb
    have hnone : p.find none (escapeChar c) = none :=
      Option.isNone_iff_eq_none.1 (List.all_eq_true.1 (Bool.and_eq_true_iff.1 h).2 c hc)
    exact .of_find hu (hinert (List.mem_cons_of_mem _ hc)) (hinert (by decide))
      (hinert List.mem_cons_self) hnone
  · have hnot : specials.contains c = false := by simpa using hc
    exact .kept (escapeChar_of_not_special hnot)

end Program

def sparesEntities (term : String) : Bool :=
  match compile term with
  | .ok p => p.sparesEntities
  | .error _ => true

end Pattern

theorem replaceTerm_escape {rule : String × String} (h : Pattern.sparesEntities rule.1 = true)
    (hnew : Plain rule.2) (text : String) :
    replaceTerm (escape text) rule = escape (replaceTerm text rule) := by
  unfold Pattern.sparesEntities at h
  unfold replaceTerm
  cases hp : Pattern.compile rule.1 with
  | error f => rfl
  | ok p =>
    rw [hp] at h
    exact p.replaceAll_written (Pattern.Program.passesOver_escapeChar h)
      (escapeChars_of_filter hnew) text

theorem filter_replaceTerm_sublist {q : Char → Bool} {rule : String × String}
    (h : rule.2.toList.filter q = []) (text : String) :
    ((replaceTerm text rule).toList.filter q).Sublist (text.toList.filter q) := by
  unfold replaceTerm
  split
  · next p hp => exact p.filter_replaceAll_sublist h text
  · exact List.Sublist.refl _

namespace Rules
variable {rules : Rules}

/-- Replacements without characters in `q` can only take such characters away. -/
theorem filter_substitute_sublist {q : Char → Bool}
    (h : ∀ rule ∈ rules.entries, rule.2.toList.filter q = []) (text : String) :
    ((rules.substitute text).toList.filter q).Sublist (text.toList.filter q) := by
  unfold substitute
  -- Each rule is applied to what the rules before it have left.
  generalize rules.entries = entries at h ⊢
  induction entries generalizing text with
  | nil => exact List.Sublist.refl _
  | cons rule rest ih =>
    obtain ⟨hrule, hrest⟩ := List.forall_mem_cons.1 h
    exact (ih (replaceTerm text rule) hrest).trans (filter_replaceTerm_sublist hrule text)

def Plain (rules : Rules) : Prop := ∀ rule ∈ rules.entries, Html.Plain rule.2

def SpareEntities (rules : Rules) : Prop :=
  ∀ rule ∈ rules.entries, Pattern.sparesEntities rule.1 = true

theorem plain_substitute (h : rules.Plain) {text : String} (ht : Html.Plain text) :
    Html.Plain (rules.substitute text) := by
  have hs := filter_substitute_sublist h text
  rw [ht] at hs
  exact List.eq_nil_of_sublist_nil hs

/-- Rules that leave entities alone say the same in escaped text. -/
theorem substitute_escape (h : rules.SpareEntities) (hplain : rules.Plain) (text : String) :
    rules.substitute (escape text) = escape (rules.substitute text) := by
  unfold SpareEntities at h
  unfold Plain at hplain
  unfold substitute
  generalize rules.entries = entries at h hplain ⊢
  induction entries generalizing text with
  | nil => rfl
  | cons rule rest ih =>
    obtain ⟨hrule, hrest⟩ := List.forall_mem_cons.1 h
    obtain ⟨hnew, hnews⟩ := List.forall_mem_cons.1 hplain
    rw [List.foldl_cons, List.foldl_cons, replaceTerm_escape hrule hnew]
    exact ih (replaceTerm text rule) hrest hnews

end Rules
end ErrorGuide
