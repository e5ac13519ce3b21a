import ErrorGuide.Html.Escape

/-! What escaping changes. Five characters are written as entities, and reading these back gives the
text again; a text with none of the five is its own escaped form. -/

namespace ErrorGuide.Html

def specials : List Char := ['&', '<', '>', '"', '\x27']

def Plain (s : String) : Prop := s.toList.filter specials.contains = []

instance (s : String) : Decidable (Plain s) :=
  inferInstanceAs (Decidable (s.toList.filter specials.contains = []))

theorem escapeChar_of_not_special {c : Char} (h : specials.contains c = false) :
    escapeChar c = [c] := by
  simp only [specials, List.contains_cons, List.contains_nil, Bool.or_false, Bool.or_eq_false_iff,
    beq_eq_false_iff_ne] at h
  obtain ⟨hamp, hlt, hgt, hquot, hapos⟩ := h
  simp only [escapeChar, hamp, hlt, hgt, hquot, hapos, if_false]

theorem escapeChars_of_filter {cs : List Char} (h : cs.filter specials.contains = []) :
    escapeChars cs = cs := by
  induction cs with
  | nil => rfl
  | cons c cs ih =>
    obtain ⟨hc, hcs⟩ := List.forall_mem_cons.1 (List.filter_eq_nil_iff.1 h)
    rw [escapeChars, List.flatMap_cons, escapeChar_of_not_special (Bool.eq_false_iff.2 hc)]
    exact congrArg (c :: ·) (ih (List.filter_eq_nil_iff.2 hcs))

theorem Plain.escape {s : String} (h : Plain s) : escape s = s := by
  rw [Html.escape, escapeChars_of_filter h, String.ofList_toList]

theorem unescapeChars_escapeChar (c : Char) (cs : List Char) :
    unescapeChars (escapeChar c ++ cs) = c :: unescapeChars cs := by
  by_cases h : specials.contains c = true
  · -- Each entity stands for one of the five.
    have hc : c ∈ specials := List.contains_iff_mem.1 h
    simp only [specials, List.mem_cons, List.not_mem_nil, or_false] at hc
    obtain rfl | rfl | rfl | rfl | rfl := hc <;> rfl
  · have hamp : c ≠ '&' := by
      rintro rfl
      exact h rfl
    rw [escapeChar_of_not_special (Bool.eq_false_iff.2 h), List.singleton_append]
    simp [unescapeChars, hamp]

theorem unescapeChars_escapeChars (cs : List Char) : unescapeChars (escapeChars cs) = cs := by
  induction cs with
  | nil => rfl
  | cons c cs ih =>
    rw [escapeChars, List.flatMap_cons, unescapeChars_escapeChar]
    exact congrArg (c :: ·) ih

/-- Escaping loses nothing. -/
theorem unescape_escape (s : String) : unescape (escape s) = s := by
  rw [unescape, escape, String.toList_ofList, unescapeChars_escapeChars, String.ofList_toList]

theorem Plain.unescape {s : String} (h : Plain s) : unescape s = s := by
  have hs := unescape_escape s
  rwa [h.escape] at hs

end ErrorGuide.Html
