import ErrorGuide.Proofs.Patch.Edits
import Mathlib.Data.List.Find

/-! The catalog of patches as a whole. A rule that is meant for a trace makes a patch of it, and no
other rule is meant for that trace, so the order of the rules does not count. No patch is the line
itself. -/

namespace ErrorGuide
open Text

variable {t : Trace}

theorem Trace.Edits.ne_codeText {α : Type} {f : Scanner α}
    {Part : List Char → α → List Char → Prop} {p m new s : List Char}
    (h : t.Edits f Part p m new s) : String.ofList (p ++ (new ++ s)) ≠ t.codeText := by
  intro hsame
  have hline : p ++ (new ++ s) = p ++ (m ++ s) := by
    rw [← h.text_eq, ← hsame, String.toList_ofList]
  have hless := h.less
  rw [hline] at hless
  omega

namespace Patch

def patchBy (rules : List PatchRule) (t : Trace) : Option String :=
  (rules.find? (·.applies t)).bind (·.apply t)

/-! Every rule makes a patch of the traces it is meant for. -/

theorem exists_listAppend (h : listAppend.applies t = true) :
    ∃ line, listAppend.apply t = some line ∧ line ≠ t.codeText := by
  obtain ⟨p, m, a, s, -, hedits⟩ := replacesFirst_listAppend.edits h
  exact ⟨_, (patch_of_applies (k := .attributeError) h).symm.trans hedits.patch, hedits.ne_codeText⟩

theorem exists_strConcat (h : strConcat.applies t = true) :
    ∃ line, strConcat.apply t = some line ∧ line ≠ t.codeText := by
  obtain ⟨p, m, a, s, -, hedits⟩ := replacesFirst_strConcat.edits h
  exact ⟨_, (patch_of_applies (k := .typeError) h).symm.trans hedits.patch, hedits.ne_codeText⟩

theorem exists_defineName (h : defineName.applies t = true) :
    ∃ line, defineName.apply t = some line ∧ line ≠ t.codeText := by
  obtain ⟨name, hname⟩ := Option.isSome_iff_exists.1 (Bool.and_eq_true_iff.1 h).2
  have hpatch : defineName.apply t = some (name ++ " = 0\n" ++ t.codeText) :=
    congrArg (Option.map fun name => name ++ " = 0\n" ++ t.codeText) hname
  refine ⟨_, hpatch, ?_⟩
  intro hsame
  have hlength := congrArg String.length hsame
  rw [String.length_append, String.length_append] at hlength
  have hgap : " = 0\n".length = 5 := rfl
  omega

theorem exists_blockColon (h : blockColon.applies t = true) :
    ∃ line, blockColon.apply t = some line ∧ line ≠ t.codeText := by
  obtain ⟨head, gap, -, -, -, hpatch⟩ := blockColon_edits h
  refine ⟨_, (patch_of_applies (k := .syntaxError) h).symm.trans hpatch, ?_⟩
  intro hsame
  -- The rule is not meant for a line with the colon, but it is for this one.
  have hdeclines := blockColon_declines t head
  rw [hsame] at hdeclines
  have happlies : blockColon.applies (t.withLine t.codeText) = true := h
  rw [hdeclines] at happlies
  cases happlies

theorem exists_apply {k : PatchKind} (h : (ruleFor k).applies t = true) :
    ∃ line, (ruleFor k).apply t = some line ∧ line ≠ t.codeText := by
  cases k with
  | attributeError => exact exists_listAppend h
  | nameError => exact exists_defineName h
  | syntaxError => exact exists_blockColon h
  | typeError => exact exists_strConcat h

/-! No two rules are meant for one trace. -/

theorem kind_unique {k k' : PatchKind} (h : (ruleFor k).applies t = true)
    (h' : (ruleFor k').applies t = true) : k = k' := by
  have hkind : t.kind.bind PatchKind.ofName = some k := of_decide_eq_true (ofKind_of_applies h)
  have hkind' : t.kind.bind PatchKind.ofName = some k' := of_decide_eq_true (ofKind_of_applies h')
  exact Option.some.inj (hkind.symm.trans hkind')

theorem catalog_eq : catalog = PatchKind.all.map ruleFor := rfl

theorem pairwise_catalog (t : Trace) :
    catalog.Pairwise fun rule other => ¬(rule.applies t = true ∧ other.applies t = true) := by
  have hall : PatchKind.all.Pairwise (· ≠ ·) := by decide
  rw [catalog_eq, List.pairwise_map]
  exact hall.imp fun hne happlies => hne (kind_unique happlies.1 happlies.2)

theorem patchBy_of_perm {rules : List PatchRule} (h : rules.Perm catalog) (t : Trace) :
    patchBy rules t = t.patch := by
  have hfind : catalog.find? (·.applies t) = rules.find? (·.applies t) := by
    refine List.find?_eq_find?_of_perm h.symm ?_
    rintro rule ⟨hmem, happlies⟩ rule' ⟨hmem', happlies'⟩
    obtain ⟨k, rfl⟩ := exists_ruleFor hmem
    obtain ⟨k', rfl⟩ := exists_ruleFor hmem'
    rw [kind_unique happlies happlies']
  rw [patchBy, Trace.patch, hfind]

theorem patch_of_mem {rule : PatchRule} (hmem : rule ∈ catalog) (h : rule.applies t = true) :
    ∃ line, rule.apply t = some line ∧ t.patch = some line ∧ line ≠ t.codeText := by
  obtain ⟨k, rfl⟩ := exists_ruleFor hmem
  obtain ⟨line, hline, hne⟩ := exists_apply h
  exact ⟨line, hline, (patch_of_applies h).trans hline, hne⟩

theorem exists_mem_of_patch {line : String} (h : t.patch = some line) :
    ∃ rule ∈ catalog, rule.applies t = true := by
  obtain ⟨rule, hrule, -⟩ := Option.bind_eq_some_iff.1 h
  exact ⟨rule, List.mem_of_find?_eq_some hrule,
    List.find?_some (p := fun rule : PatchRule => rule.applies t) hrule⟩

theorem name_of_ofKind {k : PatchKind} (h : ofKind k t = true) : t.kind = some k.name := by
  have hkind : t.kind.bind PatchKind.ofName = some k := of_decide_eq_true h
  obtain ⟨name, hname, hfind⟩ := Option.bind_eq_some_iff.1 hkind
  have hk : k.name = name :=
    of_decide_eq_true (List.find?_some (p := fun k : PatchKind => decide (k.name = name)) hfind)
  rw [hname, hk]

end Patch

open Patch

/-- The rules agree with each other. One that is meant for a trace makes a patch of it, and at most one
is meant for a trace. So there is a patch just if some rule is meant for the trace, it is what that
rule makes, and it is the same in whatever order the rules are tried. It is never the offending line
itself, and a trace of another kind than the four that have a rule has none. -/
theorem Trace.patch_coherent (t : Trace) :
    (∀ rule ∈ catalog, rule.applies t = true →
      ∃ line, rule.apply t = some line ∧ t.patch = some line) ∧
    catalog.Pairwise (fun rule other => ¬(rule.applies t = true ∧ other.applies t = true)) ∧
    (t.patch.isSome = true ↔ ∃ rule ∈ catalog, rule.applies t = true) ∧
    (∀ rules : List PatchRule, rules.Perm catalog → patchBy rules t = t.patch) ∧
    t.patch ≠ some t.codeText ∧
    ((∀ k : PatchKind, t.kind ≠ some k.name) → t.patch = none) := by
  refine ⟨?_, pairwise_catalog t, ?_, fun rules h => patchBy_of_perm h t, ?_, ?_⟩
  · intro rule hmem happlies
    obtain ⟨line, hline, hpatch, -⟩ := patch_of_mem hmem happlies
    exact ⟨line, hline, hpatch⟩
  · constructor
    · intro h
      obtain ⟨line, hline⟩ := Option.isSome_iff_exists.1 h
      exact exists_mem_of_patch hline
    · rintro ⟨rule, hmem, happlies⟩
      obtain ⟨line, -, hpatch, -⟩ := patch_of_mem hmem happlies
      exact Option.isSome_iff_exists.2 ⟨line, hpatch⟩
  · intro hsame
    obtain ⟨rule, hmem, happlies⟩ := exists_mem_of_patch hsame
    obtain ⟨line, -, hpatch, hne⟩ := patch_of_mem hmem happlies
    exact hne (Option.some.inj (hpatch.symm.trans hsame))
  · intro hother
    cases hpatch : t.patch with
    | none => rfl
    | some line =>
      obtain ⟨rule, hmem, happlies⟩ := exists_mem_of_patch hpatch
      obtain ⟨k, rfl⟩ := exists_ruleFor hmem
      exact absurd (name_of_ofKind (ofKind_of_applies happlies)) (hother k)

/-- The head of a loop gets its colon also if the rules are tried in reverse, and a call of `push`
stays as it is in an error of another kind. -/
theorem Trace.patch_coherent_sample :
    blockColon.applies (ofLine "SyntaxError" "while x  ") = true ∧
    patchBy catalog.reverse (ofLine "SyntaxError" "while x  ") = some "while x:" ∧
    (ofLine "ValueError" "items.push(3)").patch = none := by
  obtain ⟨hmakes, -, -, horder, -, -⟩ := patch_coherent (ofLine "SyntaxError" "while x  ")
  obtain ⟨-, -, -, -, -, hother⟩ := patch_coherent (ofLine "ValueError" "items.push(3)")
  have happlies : blockColon.applies (ofLine "SyntaxError" "while x  ") = true := rfl
  have hcolon : blockColon.apply (ofLine "SyntaxError" "while x  ") = some "while x:" := rfl
  have hkind : ∀ k : PatchKind, (ofLine "ValueError" "items.push(3)").kind ≠ some k.name := by
    intro k
    cases k <;> decide
  obtain ⟨line, hline, hpatch⟩ := hmakes blockColon (ruleFor_mem .syntaxError) happlies
  refine ⟨happlies, ?_, hother hkind⟩
  rw [horder _ (List.reverse_perm catalog), hpatch, ← hline, hcolon]

end ErrorGuide
