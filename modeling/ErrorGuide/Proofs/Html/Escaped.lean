import ErrorGuide.Proofs.Html.Entities
import ErrorGuide.Proofs.Html.Markup

/-! Escaped texts, said without escaping: they have no markup, and an ampersand only where an entity
starts. Escaping gives each of them from one text, the one that is read back from it. -/

namespace ErrorGuide.Html

def entities : List (List Char) :=
  ["&amp;".toList, "&lt;".toList, "&gt;".toList, "&quot;".toList, "&#39;".toList]

theorem entities_eq : entities = specials.map escapeChar := by decide

theorem escapeChar_mem_entities {c : Char} (hc : c ∈ specials) : escapeChar c ∈ entities := by
  rw [entities_eq]
  exact List.mem_map_of_mem hc

/-- An ampersand starts an entity and does not come again in it. -/
theorem eq_cons_of_mem_entities {e : List Char} (he : e ∈ entities) :
    ∃ name, e = '&' :: name ∧ '&' ∉ name := by
  have hall : ∀ e ∈ entities, e = '&' :: e.tail ∧ '&' ∉ e.tail := by decide
  exact ⟨e.tail, hall e he⟩

/-- No character of the text is markup, and each ampersand starts an entity. -/
structure IsEscaped (cs : List Char) : Prop where
  noMarkup : ∀ c ∈ cs, isMarkup c = false
  entity : ∀ before after, cs = before ++ '&' :: after → ∃ e ∈ entities, e <+: '&' :: after

namespace IsEscaped
variable {cs ds : List Char}

theorem nil : IsEscaped [] where
  noMarkup := by simp
  entity := by simp

theorem append (hcs : IsEscaped cs) (hds : IsEscaped ds) : IsEscaped (cs ++ ds) where
  noMarkup c hc := (List.mem_append.1 hc).elim (hcs.noMarkup c) (hds.noMarkup c)
  entity before after h := by
    rcases List.append_eq_append_iff.1 h with ⟨middle, -, hmiddle⟩ | ⟨middle, hmiddle, hafter⟩
    · exact hds.entity middle after hmiddle
    · -- The ampersand is where the second text starts, or is in the first one.
      cases middle with
      | nil => exact hds.entity [] after hafter.symm
      | cons c middle =>
        obtain ⟨rfl, rfl⟩ := List.cons.inj hafter
        obtain ⟨e, he, hprefix⟩ := hcs.entity before middle hmiddle
        exact ⟨e, he, hprefix.trans (List.prefix_append ('&' :: middle) ds)⟩

theorem of_append (h : IsEscaped (cs ++ ds)) : IsEscaped ds where
  noMarkup c hc := h.noMarkup c (List.mem_append_right cs hc)
  entity before after hds := h.entity (cs ++ before) after (by rw [hds, List.append_assoc])

end IsEscaped

theorem isEscaped_escapeChar (c : Char) : IsEscaped (escapeChar c) where
  noMarkup := by simpa using List.filter_eq_nil_iff.1 (filter_escapeChar c)
  entity before after h := by
    by_cases hc : c ∈ specials
    · have he := escapeChar_mem_entities hc
      obtain ⟨name, hname, hnot⟩ := eq_cons_of_mem_entities he
      cases before with
      | nil => exact ⟨_, he, by rw [h]; exact List.prefix_refl _⟩
      | cons b before =>
        rw [hname] at h
        obtain ⟨-, rfl⟩ := List.cons.inj h
        simp at hnot
    · have hplain : specials.contains c = false := by simpa using hc
      rw [escapeChar_of_not_special hplain] at h
      have hamp : '&' ∈ [c] := by
        rw [h]
        simp
      obtain rfl := List.mem_singleton.1 hamp
      exact absurd List.mem_cons_self hc

theorem isEscaped_escapeChars (cs : List Char) : IsEscaped (escapeChars cs) := by
  induction cs with
  | nil => exact .nil
  | cons c cs ih => exact (isEscaped_escapeChar c).append ih

/-- The first character of an escaped text stands for itself, or starts the entity of another one. -/
theorem IsEscaped.exists_escapeChar_append {text : List Char} (h : IsEscaped text) (hne : text ≠ []) :
    ∃ c rest, text = escapeChar c ++ rest := by
  obtain ⟨c, rest, rfl⟩ := List.exists_cons_of_ne_nil hne
  by_cases hamp : c = '&'
  · subst hamp
    obtain ⟨e, he, rest', htext⟩ := h.entity [] rest rfl
    rw [entities_eq] at he
    obtain ⟨c, -, rfl⟩ := List.mem_map.1 he
    exact ⟨c, rest', htext.symm⟩
  · have hmarkup := h.noMarkup c List.mem_cons_self
    have hplain : specials.contains c = false := by
      simp_all [specials, isMarkup]
    exact ⟨c, rest, by rw [escapeChar_of_not_special hplain]; rfl⟩

theorem escapeChar_ne_nil (c : Char) : escapeChar c ≠ [] := by
  intro h
  have hread := unescapeChars_escapeChar c []
  rw [h] at hread
  cases hread

/-- An escaped text is the escaped form of some text. -/
theorem IsEscaped.exists_escapeChars_eq {text : List Char} (h : IsEscaped text) :
    ∃ cs, escapeChars cs = text := by
  induction hn : text.length using Nat.strongRecOn generalizing text with
  | ind n ih =>
    by_cases hne : text = []
    · exact ⟨[], hne.symm⟩
    · obtain ⟨c, rest, rfl⟩ := h.exists_escapeChar_append hne
      have hpos := List.length_pos_iff.2 (escapeChar_ne_nil c)
      have hlt : rest.length < n := by
        rw [← hn, List.length_append]
        omega
      obtain ⟨cs, rfl⟩ := ih rest.length hlt h.of_append rfl
      exact ⟨c :: cs, List.flatMap_cons⟩

theorem escape_append (s t : String) : escape (s ++ t) = escape s ++ escape t := by
  rw [escape, String.toList_append, escapeChars, List.flatMap_append, String.ofList_append]
  rfl

theorem escape_unescape_eq_iff (t : String) : escape (unescape t) = t ↔ IsEscaped t.toList := by
  constructor
  · intro h
    rw [← h, escape, String.toList_ofList]
    exact isEscaped_escapeChars _
  · intro h
    obtain ⟨cs, hcs⟩ := h.exists_escapeChars_eq
    have ht : escape (String.ofList cs) = t := by
      rw [escape, String.toList_ofList, hcs, String.ofList_toList]
    rw [← ht, unescape_escape]

/-- Escaping is faithful. Every text is read back from its escaped form, whatever entities it has
itself, so no two texts have the same one. The form of two texts one behind the other is that of the
one and then that of the other. It has no markup, and each ampersand in it starts an entity. No other
text than the escaped forms is of this kind. -/
theorem escape_faithful :
    (∀ s, unescape (escape s) = s) ∧ Function.Injective escape ∧
      (∀ s t, escape (s ++ t) = escape s ++ escape t) ∧
      (∀ s, IsEscaped (escape s).toList) ∧
      ∀ t, escape (unescape t) = t ↔ IsEscaped t.toList := by
  refine ⟨unescape_escape, Function.LeftInverse.injective unescape_escape, escape_append, ?_,
    escape_unescape_eq_iff⟩
  intro s
  exact (escape_unescape_eq_iff (escape s)).1 (congrArg escape (unescape_escape s))

example : escape "&amp;lt;" = "&amp;amp;lt;" := rfl

end ErrorGuide.Html
