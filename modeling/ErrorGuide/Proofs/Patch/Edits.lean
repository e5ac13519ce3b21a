import ErrorGuide.Proofs.Patch.Parts
import ErrorGuide.Proofs.Text.Parts
import Mathlib.Data.List.DropRight

/-! What patches change, and how often a line can be patched. Only one rule is meant for the kind of
a trace. Of its parts the first one is replaced, and there is one part less then; so a line takes as
many patches as it has parts. -/

namespace ErrorGuide
open Text Unicode

variable {α : Type}

def Trace.withLine (t : Trace) (line : String) : Trace := { t with codeLine := some line }

/-- The patch is put in the place of the offending line `n` times, and then there is none. -/
def Trace.SettlesIn : Nat → Trace → Prop
  | 0, t => t.patch = none
  | n + 1, t => ∃ line, t.patch = some line ∧ SettlesIn n (t.withLine line)

theorem Trace.SettlesIn.unique {m n : Nat} {t : Trace} (hm : SettlesIn m t) (hn : SettlesIn n t) :
    m = n := by
  induction m generalizing n t with
  | zero =>
    cases n with
    | zero => rfl
    | succ n =>
      obtain ⟨line, hline, -⟩ := hn
      cases hline.symm.trans hm
  | succ m ih =>
    obtain ⟨line, hline, hm⟩ := hm
    cases n with
    | zero => cases hline.symm.trans hn
    | succ n =>
      obtain ⟨line', hline', hn⟩ := hn
      obtain rfl := Option.some.inj (hline.symm.trans hline')
      rw [ih hm hn]

theorem Trace.SettlesIn.iff_eq {m : Nat} {t : Trace} (h : SettlesIn m t) (n : Nat) :
    t.SettlesIn n ↔ n = m := by
  constructor
  · exact fun hn => hn.unique h
  · rintro rfl
    exact h

/-- The offending line is `p ++ m ++ s`, where `m` is the first of its parts, and the patch has `new` in
the place of `m`. Parts are counted by the scanner that reads them: the patch has one less, and the line
takes as many patches as it has parts. -/
structure Trace.Edits (t : Trace) (f : Scanner α) (Part : List Char → α → List Char → Prop)
    (p m new s : List Char) : Prop where
  line : t.codeLine = some (String.ofList (p ++ (m ++ s)))
  first : ∀ early m' a' s', p ++ (m ++ s) = early ++ (m' ++ s') → Part m' a' s' →
    p.length ≤ early.length
  patch : t.patch = some (String.ofList (p ++ (new ++ s)))
  less : count f (p ++ (new ++ s)) + 1 = count f (p ++ (m ++ s))
  settles : ∀ n, t.SettlesIn n ↔ n = count f (p ++ (m ++ s))

theorem Trace.Edits.text_eq {t : Trace} {f : Scanner α} {Part : List Char → α → List Char → Prop}
    {p m new s : List Char} (h : t.Edits f Part p m new s) : t.codeText.toList = p ++ (m ++ s) := by
  rw [Trace.codeText, h.line]
  exact String.toList_ofList

namespace Patch

def ruleFor : PatchKind → PatchRule
  | .attributeError => listAppend
  | .nameError => defineName
  | .syntaxError => blockColon
  | .typeError => strConcat

theorem ruleFor_mem (k : PatchKind) : ruleFor k ∈ catalog := by
  have hall : k ∈ PatchKind.all := by cases k <;> decide
  exact List.mem_map_of_mem hall

theorem exists_ruleFor {rule : PatchRule} (h : rule ∈ catalog) : ∃ k, ruleFor k = rule := by
  have hmap : rule ∈ PatchKind.all.map ruleFor := h
  obtain ⟨k, -, hk⟩ := List.mem_map.1 hmap
  exact ⟨k, hk⟩

theorem codeLine_of_text {t : Trace} (h : t.codeText.toList ≠ []) :
    t.codeLine = some (String.ofList t.codeText.toList) := by
  cases hcode : t.codeLine with
  | none =>
    rw [Trace.codeText, hcode] at h
    exact absurd rfl h
  | some line => rw [Trace.codeText, hcode, Option.getD_some, String.ofList_toList]

section Kinds
variable {k : PatchKind} {t : Trace}

theorem ofKind_of_applies (h : (ruleFor k).applies t = true) : ofKind k t = true := by
  cases k with
  | attributeError => exact (Bool.and_eq_true_iff.1 h).1
  | nameError => exact (Bool.and_eq_true_iff.1 h).1
  | syntaxError => exact (Bool.and_eq_true_iff.1 (Bool.and_eq_true_iff.1 h).1).1
  | typeError => exact (Bool.and_eq_true_iff.1 h).1

/-- No other rule is meant for a trace of that kind. -/
theorem patch_of_ofKind (h : ofKind k t = true) :
    t.patch = if (ruleFor k).applies t then (ruleFor k).apply t else none := by
  rw [Trace.patch]
  cases hfind : catalog.find? (·.applies t) with
  | none =>
    have hdeclines := List.find?_eq_none.1 hfind (ruleFor k) (ruleFor_mem k)
    rw [if_neg hdeclines]
    rfl
  | some rule =>
    obtain ⟨k', rfl⟩ := exists_ruleFor (List.mem_of_find?_eq_some hfind)
    have happlies : (ruleFor k').applies t = true :=
      List.find?_some (p := fun rule : PatchRule => rule.applies t) hfind
    have hkind : t.kind.bind PatchKind.ofName = some k := of_decide_eq_true h
    have hkind' : t.kind.bind PatchKind.ofName = some k' :=
      of_decide_eq_true (ofKind_of_applies happlies)
    obtain rfl := Option.some.inj (hkind.symm.trans hkind')
    rw [if_pos happlies]
    rfl

theorem patch_of_applies (h : (ruleFor k).applies t = true) : t.patch = (ruleFor k).apply t := by
  rw [patch_of_ofKind (ofKind_of_applies h), if_pos h]

end Kinds

def edit (f : Scanner α) (new : α → List Char) (line : List Char) : Option (List Char) :=
  (leftmost f line).map fun found => found.before ++ (new found.value ++ found.after)

/-- The rule for a kind replaces the first part of a line by a text that has no part in it. Parts and
the texts for them start with `x` and have no further `x`. -/
structure ReplacesFirst (k : PatchKind) (f : Scanner α) (x : Char)
    (Part : List Char → α → List Char → Prop) (new : α → List Char) : Prop where
  applies : ∀ t, (ruleFor k).applies t = (ofKind k t && occurs f t.codeText.toList)
  apply : ∀ t, (ruleFor k).apply t = (edit f new t.codeText.toList).map String.ofList
  starts : StartsWith f x
  reads : ∀ prev cs a s, f prev cs = some (a, s) ↔ ∃ m, cs = m ++ s ∧ Part m a s
  old : ∀ m a s, Part m a s → ∃ tail, m = x :: tail ∧ x ∉ tail
  fresh : ∀ m a s, Part m a s →
    ∃ tail, new a = x :: tail ∧ x ∉ tail ∧ f none (x :: (tail ++ s)) = none

namespace ReplacesFirst
variable {k : PatchKind} {f : Scanner α} {x : Char} {Part : List Char → α → List Char → Prop}
  {new : α → List Char} (h : ReplacesFirst k f x Part new) {t : Trace} {line next : List Char}
include h

theorem less {m s : List Char} {a : α} (p : List Char) (hm : Part m a s) :
    count f (p ++ (new a ++ s)) + 1 = count f (p ++ (m ++ s)) := by
  have hreads := (h.reads none (m ++ s) a s).2 ⟨m, rfl, hm⟩
  obtain ⟨fresh, hfresh, hnew, hnone⟩ := h.fresh m a s hm
  obtain ⟨tail, rfl, htail⟩ := h.old m a s hm
  rw [List.cons_append] at hreads
  rw [hfresh]
  exact h.starts.count_replaced (by rw [hreads]; rfl) htail hnone hnew

theorem patch_eq (hkind : ofKind k t = true) :
    t.patch = (edit f new t.codeText.toList).map String.ofList := by
  rw [patch_of_ofKind hkind, h.applies, hkind, Bool.true_and, h.apply]
  rw [occurs, edit]
  cases leftmost f t.codeText.toList <;> rfl

theorem exists_edit (hedit : edit f new line = some next) :
    ∃ p m a s, line = p ++ (m ++ s) ∧ next = p ++ (new a ++ s) ∧ Part m a s ∧
      ∀ early m' a' s', line = early ++ (m' ++ s') → Part m' a' s' → p.length ≤ early.length := by
  obtain ⟨found, hfound, rfl⟩ := Option.map_eq_some_iff.1 hedit
  obtain ⟨m, hfirst⟩ := Reads.firstPart_of_leftmost h.reads hfound
  exact ⟨found.before, m, found.value, found.after, hfirst.split, rfl, hfirst.part, hfirst.first⟩

theorem count_edit (hedit : edit f new line = some next) : count f next + 1 = count f line := by
  obtain ⟨p, m, a, s, rfl, rfl, hm, -⟩ := h.exists_edit hedit
  exact h.less p hm

/-- Every patch takes one part away, and a line without parts has none. -/
theorem settlesIn (n : Nat) (hkind : ofKind k t = true) (hcount : count f t.codeText.toList = n) :
    t.SettlesIn n := by
  induction n generalizing t with
  | zero =>
    rw [Trace.SettlesIn, h.patch_eq hkind]
    cases hedit : edit f new t.codeText.toList with
    | none => rfl
    | some next =>
      have hless := h.count_edit hedit
      omega
  | succ n ih =>
    cases hedit : edit f new t.codeText.toList with
    | none =>
      have hzero := count_eq_zero_iff.2 (Option.map_eq_none_iff.1 hedit)
      omega
    | some next =>
      have hless := h.count_edit hedit
      refine ⟨String.ofList next, by rw [h.patch_eq hkind, hedit]; rfl, ih hkind ?_⟩
      have htext : (t.withLine (String.ofList next)).codeText.toList = next := String.toList_ofList
      rw [htext]
      omega

theorem edits (happlies : (ruleFor k).applies t = true) :
    ∃ p m a s, Part m a s ∧ t.Edits f Part p m (new a) s := by
  have hkind := ofKind_of_applies happlies
  have hoccurs : occurs f t.codeText.toList = true := by
    rw [h.applies, hkind] at happlies
    exact happlies
  obtain ⟨found, hfound⟩ := Option.isSome_iff_exists.1 hoccurs
  have hedit : edit f new t.codeText.toList =
      some (found.before ++ (new found.value ++ found.after)) := by
    rw [edit, hfound]
    rfl
  obtain ⟨p, m, a, s, hline, hnext, hm, hfirst⟩ := h.exists_edit hedit
  refine ⟨p, m, a, s, hm, ?_, hline ▸ hfirst, ?_, h.less p hm, ?_⟩
  · obtain ⟨tail, rfl, -⟩ := h.old m a s hm
    rw [codeLine_of_text (by rw [hline]; simp), hline]
  · rw [h.patch_eq hkind, hedit, hnext]
    rfl
  · rw [← hline]
    exact (h.settlesIn _ hkind rfl).iff_eq

end ReplacesFirst

/-! The two rules that replace parts. -/

theorem appendLine_eq_edit (line : List Char) :
    appendLine line = edit pushCall (fun _ => ".append(".toList) line := by
  simp only [appendLine, edit, List.append_assoc]

/-- A call of `append` is none of `push`. -/
theorem pushCall_append (s : List Char) : pushCall none ('.' :: ("append(".toList ++ s)) = none :=
  rfl

theorem replacesFirst_listAppend :
    ReplacesFirst .attributeError pushCall '.' (fun m _ _ => IsPushCall m)
      (fun _ => ".append(".toList) where
  applies _ := rfl
  apply t := congrArg (Option.map String.ofList) (appendLine_eq_edit t.codeText.toList)
  starts := startsWith_pushCall
  reads _ _ _ _ := pushCall_eq_some_iff
  old _ _ _ hm := hm.eq_cons
  fresh _ _ s _ := ⟨"append(".toList, rfl, by decide, pushCall_append s⟩

theorem convertLine_eq_edit (line : List Char) :
    convertLine line = edit bareOperand (fun name => "+ str(".toList ++ name ++ ")".toList) line := by
  simp only [convertLine, edit, List.append_assoc]

/-- A call of `str` does not stand alone. -/
theorem bareOperand_str (after : List Char) :
    bareOperand none ('+' :: (" str(".toList ++ after)) = none :=
  rfl

theorem replacesFirst_strConcat :
    ReplacesFirst .typeError bareOperand '+' IsBareOperand
      (fun name => "+ str(".toList ++ name ++ ")".toList) where
  applies _ := rfl
  apply t := congrArg (Option.map String.ofList) (convertLine_eq_edit t.codeText.toList)
  starts := startsWith_bareOperand
  reads _ _ _ _ := bareOperand_eq_some_iff
  old _ _ _ hm := hm.eq_cons
  fresh m name s hm := by
    refine ⟨" str(".toList ++ name ++ ")".toList, rfl, ?_, ?_⟩
    · intro hplus
      rcases List.mem_append.1 hplus with hplus | hplus
      · rcases List.mem_append.1 hplus with hplus | hplus
        · exact absurd hplus (by decide)
        · exact hm.plus_not_mem hplus
      · exact absurd hplus (by decide)
    · rw [List.append_assoc, List.append_assoc]
      exact bareOperand_str _

/-! The rule for heads of blocks. -/

/-- What the rule makes of a line ends in a colon, so it makes nothing of it again. -/
theorem blockColon_declines (t : Trace) (head : List Char) :
    blockColon.applies (t.withLine (String.ofList (head ++ [':']))) = false := by
  have hhead : headLine (t.withLine (String.ofList (head ++ [':']))) = head ++ [':'] := by
    have htext : (t.withLine (String.ofList (head ++ [':']))).codeText.toList = head ++ [':'] :=
      String.toList_ofList
    rw [headLine, htext, dropTailWhile, List.reverse_concat]
    have hcolon : ¬isBlank ':' = true := by decide
    rw [List.dropWhile_cons_of_neg hcolon, List.reverse_cons, List.reverse_reverse]
  have hcolon : endsInColon (head ++ [':']) = true := by
    rw [endsInColon, List.getLast?_concat]
    rfl
  rw [blockColon]
  dsimp only
  rw [hhead, hcolon]
  exact Bool.and_false _

theorem blockColon_settles {t : Trace} {head : List Char} (hkind : ofKind .syntaxError t = true)
    (hpatch : t.patch = some (String.ofList (head ++ [':']))) : t.SettlesIn 1 := by
  have hkind' : ofKind .syntaxError (t.withLine (String.ofList (head ++ [':']))) = true := hkind
  have hdeclines := blockColon_declines t head
  refine ⟨_, hpatch, ?_⟩
  rw [Trace.SettlesIn, patch_of_ofKind hkind', ruleFor, if_neg (Bool.not_eq_true _ ▸ hdeclines)]

theorem blockColon_edits {t : Trace} (h : blockColon.applies t = true) :
    ∃ head gap, t.codeLine = some (String.ofList (head ++ gap)) ∧ (∀ c ∈ gap, isBlank c = true) ∧
      (∀ c ∈ head.getLast?, isBlank c = false) ∧
      t.patch = some (String.ofList (head ++ [':'])) := by
  obtain ⟨hkindOpens, hnotColon⟩ := Bool.and_eq_true_iff.1 h
  obtain ⟨hkind, hopens⟩ := Bool.and_eq_true_iff.1 hkindOpens
  have hne : headLine t ≠ [] := by
    intro hnil
    rw [hnil] at hopens
    exact absurd hopens (by decide)
  have hcolon : ¬endsInColon (headLine t) = true := by
    rw [Bool.not_eq_true, ← Bool.not_eq_true']
    exact hnotColon
  have hsplit : headLine t ++ t.codeText.toList.rtakeWhile isBlank = t.codeText.toList :=
    List.rdropWhile_append_rtakeWhile
  refine ⟨headLine t, t.codeText.toList.rtakeWhile isBlank, ?_,
    fun c hc => List.mem_rtakeWhile_imp hc, ?_, ?_⟩
  · rw [hsplit]
    apply codeLine_of_text
    rw [← hsplit]
    exact List.append_ne_nil_of_left_ne_nil hne _
  · intro c hc
    have hlast := List.rdropWhile_last_not isBlank t.codeText.toList hne
    obtain ⟨_, rfl⟩ := List.mem_getLast?_eq_getLast hc
    exact Bool.not_eq_true _ ▸ hlast
  · rw [patch_of_applies (k := .syntaxError) h, ruleFor, blockColon]
    exact if_neg (not_or.2 ⟨hne, hcolon⟩)

end Patch

open Patch

/-- Every patch is that of the rule for the kind of the trace and changes only what the rule is about.
The first call of `push` becomes one of `append`; of the names that are added and stand alone the first
one is made a text; the head of a block loses the white space at its end and gets a colon. The patched
line has one such call or name less, and the head of the block is not patched again. So a line takes as
many patches as it has calls of `push`, or names that stand alone, and the head of a block takes one. -/
theorem Trace.patch_edits (t : Trace) :
    (listAppend.applies t = true → t.patch = listAppend.apply t ∧ ∃ p m s, IsPushCall m ∧
      t.Edits pushCall (fun m _ _ => IsPushCall m) p m ".append(".toList s) ∧
    (strConcat.applies t = true → t.patch = strConcat.apply t ∧ ∃ p m name s,
      IsBareOperand m name s ∧
      t.Edits bareOperand IsBareOperand p m ("+ str(".toList ++ name ++ ")".toList) s) ∧
    (blockColon.applies t = true → t.patch = blockColon.apply t ∧ ∃ head gap,
      t.codeLine = some (String.ofList (head ++ gap)) ∧ (∀ c ∈ gap, isBlank c = true) ∧
      (∀ c ∈ head.getLast?, isBlank c = false) ∧
      t.patch = some (String.ofList (head ++ [':'])) ∧
      blockColon.applies (t.withLine (String.ofList (head ++ [':']))) = false ∧
      ∀ n, t.SettlesIn n ↔ n = 1) := by
  refine ⟨?_, ?_, ?_⟩
  · intro happlies
    obtain ⟨p, m, a, s, hm, hedits⟩ := replacesFirst_listAppend.edits happlies
    exact ⟨patch_of_applies (k := .attributeError) happlies, p, m, s, hm, hedits⟩
  · intro happlies
    obtain ⟨p, m, name, s, hm, hedits⟩ := replacesFirst_strConcat.edits happlies
    exact ⟨patch_of_applies (k := .typeError) happlies, p, m, name, s, hm, hedits⟩
  · intro happlies
    obtain ⟨head, gap, hline, hgap, hlast, hpatch⟩ := blockColon_edits happlies
    have hkind := ofKind_of_applies (k := .syntaxError) happlies
    exact ⟨patch_of_applies (k := .syntaxError) happlies, head, gap, hline, hgap, hlast, hpatch,
      blockColon_declines t head, (blockColon_settles hkind hpatch).iff_eq⟩

def Trace.ofLine (kind line : String) : Trace :=
  { Trace.ofRaw "" with kind := some kind, codeLine := some line }

/-- Two calls of `push`, two names that stand alone among four that are added, and the head of a loop. -/
theorem Trace.patch_edits_sample :
    (ofLine "AttributeError" "a.push(1); b.PUSH (2)").SettlesIn 2 ∧
    (ofLine "TypeError" "total + f(x) + y + z[0] +w").SettlesIn 2 ∧
    (ofLine "SyntaxError" "for i in range(3)  ").SettlesIn 1 := by
  obtain ⟨happend, -, -⟩ := patch_edits (ofLine "AttributeError" "a.push(1); b.PUSH (2)")
  obtain ⟨-, hconcat, -⟩ := patch_edits (ofLine "TypeError" "total + f(x) + y + z[0] +w")
  obtain ⟨-, -, hcolon⟩ := patch_edits (ofLine "SyntaxError" "for i in range(3)  ")
  refine ⟨?_, ?_, ?_⟩
  · obtain ⟨-, p, m, s, -, hedits⟩ := happend (by decide +kernel)
    have hcount : count pushCall "a.push(1); b.PUSH (2)".toList = 2 := by decide +kernel
    exact (hedits.settles 2).2 (hedits.text_eq ▸ hcount.symm)
  · obtain ⟨-, p, m, name, s, -, hedits⟩ := hconcat (by decide +kernel)
    have hcount : count bareOperand "total + f(x) + y + z[0] +w".toList = 2 := by decide +kernel
    exact (hedits.settles 2).2 (hedits.text_eq ▸ hcount.symm)
  · obtain ⟨-, head, gap, -, -, -, -, -, hsettles⟩ := hcolon (by decide +kernel)
    exact (hsettles 1).2 rfl

end ErrorGuide
