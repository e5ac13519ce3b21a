import ErrorGuide.Explanation.VariantId
import ErrorGuide.Proofs.Text.Decimal
import ErrorGuide.Proofs.Text.Numeral

/-! Identifiers of variants and their texts. A kind may hold the separator: the last one counts, and
none reaches into the index. So identifiers read back from their texts, and of other texts those are read
that tell a kind and an index in this way. -/

namespace ErrorGuide.VariantId
open Text
variable {sep cs before after : List Char}

theorem splitLast?_eq_none_iff (hsep : sep ≠ []) : splitLast? sep cs = none ↔ ¬sep <:+: cs := by
  induction cs with
  | nil => simp [splitLast?, hsep]
  | cons c cs ih =>
    rw [List.infix_cons_iff, splitLast?]
    cases hcs : splitLast? sep cs with
    | some parts =>
      have hholds : sep <:+: cs := Decidable.not_not.1 fun hno => by simp [ih.2 hno] at hcs
      simp [hholds]
    | none => simp [ih.1 hcs, List.isPrefixOf_iff_prefix]

/-- A text is split where the separator stands and none begins behind that place. -/
theorem splitLast?_eq_some_iff (hsep : sep ≠ []) : splitLast? sep cs = some (before, after) ↔
    cs = before ++ sep ++ after ∧ ¬sep <:+: (sep ++ after).tail := by
  induction cs generalizing before with
  | nil => simp [splitLast?, hsep]
  | cons c cs ih =>
    -- Either the separator stands at the front, and what follows holds none, or `before` goes on.
    have hnil : c :: cs = [] ++ sep ++ after ∧ ¬sep <:+: (sep ++ after).tail ↔
        c :: cs = sep ++ after ∧ splitLast? sep cs = none := by
      rw [List.nil_append, splitLast?_eq_none_iff hsep]
      refine and_congr_right fun hcs => ?_
      rw [← hcs, List.tail_cons]
    have hcons (b : Char) (before : List Char) :
        c :: cs = b :: before ++ sep ++ after ∧ ¬sep <:+: (sep ++ after).tail ↔
          c = b ∧ splitLast? sep cs = some (before, after) := by
      rw [ih, List.cons_append, List.cons_append, List.cons_eq_cons, and_assoc]
    rw [splitLast?]
    cases before with
    | nil =>
      rw [hnil]
      cases splitLast? sep cs with
      | some parts => simp
      | none =>
        constructor
        · intro h
          obtain ⟨hfront, hdrop⟩ : sep <+: c :: cs ∧ (c :: cs).drop sep.length = after := by
            simpa using h
          exact ⟨by rw [← hdrop, List.prefix_iff_eq_append.1 hfront], rfl⟩
        · rintro ⟨hcs, -⟩
          simp [hcs]
    | cons b before =>
      rw [hcons]
      cases splitLast? sep cs with
      | some parts => simp [Prod.ext_iff, and_assoc]
      | none => simp

/-- The last character of the separator does not come again, so no separator begins behind it. -/
theorem splitLast?_append (front : List Char) {c : Char} (h : c ∉ after) :
    splitLast? (front ++ [c]) (before ++ (front ++ [c]) ++ after) = some (before, after) := by
  refine (splitLast?_eq_some_iff (by simp)).2 ⟨rfl, ?_⟩
  rintro ⟨p, q, hpq⟩
  have hsuffix : c :: q <:+ (front ++ [c]) ++ after := by
    refine List.IsSuffix.trans ⟨p ++ front, ?_⟩ (List.tail_suffix _)
    simpa using hpq
  have hlength : (c :: q).length ≤ after.length := by
    have hlen := congrArg List.length hpq
    simp at hlen ⊢
    omega
  have hmem := List.suffix_of_suffix_length_le hsuffix (List.suffix_append _ _) hlength
  exact h (hmem.subset List.mem_cons_self)

/-- The text of an identifier is refused if it has no kind, and read back otherwise. -/
theorem ofText_text (id : VariantId) :
    ofText id.text = if id.kind = "" then .error (.malformed id.text) else .ok id := by
  have hdigits : '/' ∉ decimal id.index.toNat := by
    intro hmem
    have hslash := isAsciiDigit_of_mem_decimal '/' hmem
    cases hslash
  have hsplit : splitLast? separator id.text.toList =
      some (id.kind.toList, decimal id.index.toNat) := by
    rw [text, String.toList_ofList]
    exact splitLast?_append "/variants".toList hdigits
  have hindex : signedNumeral? UInt64.size (decimal id.index.toNat) = some id.index.toNat :=
    signedNumeral?_decimal id.index.toNat_lt
  simp only [ofText, hsplit, hindex, String.toList_eq_nil_iff, String.ofList_toList,
    UInt64.ofNat_toNat]

/-- The separator overlaps itself here, and the later one counts. -/
example : ofText "a/variants/variants/3" = .ok ⟨"a/variants", 3⟩ := rfl

/-! Which texts are identifiers. -/

structure SplitsLast (cs before after : List Char) : Prop where
  split : cs = before ++ separator ++ after
  last : ∀ b a, cs = b ++ separator ++ a → b.length ≤ before.length

/-- The text tells the index in ASCII digits, of which there are some, perhaps after a plus sign. Their
value is the index, so it fits in 64 bits. -/
def TellsIndex (text : List Char) (index : UInt64) : Prop :=
  ∃ digits, (text = digits ∨ text = '+' :: digits) ∧ IsRun isAsciiDigit digits ∧
    decimalValue digits = index.toNat

structure IsTextOf (s : String) (id : VariantId) : Prop where
  kind : id.kind ≠ ""
  parts : ∃ index, SplitsLast s.toList id.kind.toList index ∧ TellsIndex index id.index

/-- A separator that begins later begins behind the start of this one. -/
theorem splitsLast_iff : splitLast? separator cs = some (before, after) ↔ SplitsLast cs before after := by
  rw [splitLast?_eq_some_iff (by decide)]
  constructor
  · intro h
    obtain ⟨rfl, hnone⟩ := h
    refine ⟨rfl, fun b a hsplit => Nat.le_of_not_lt fun hlonger => hnone ?_⟩
    have hbefore : before <+: b ++ separator ++ a := by
      rw [← hsplit, List.append_assoc]
      exact List.prefix_append _ _
    have hb : b <+: b ++ separator ++ a := by
      rw [List.append_assoc]
      exact List.prefix_append _ _
    obtain ⟨between, rfl⟩ := List.prefix_of_prefix_length_le hbefore hb hlonger.le
    have hrest : separator ++ after = between ++ separator ++ a := by
      simpa only [List.append_assoc, List.append_cancel_left_eq] using hsplit
    obtain ⟨c, between, rfl⟩ : ∃ c rest, between = c :: rest := by
      refine List.exists_cons_of_ne_nil fun hnil => ?_
      simp [hnil] at hlonger
    rw [hrest]
    exact ⟨between, a, rfl⟩
  · intro h
    refine ⟨h.split, fun hinfix => ?_⟩
    obtain ⟨p, q, hpq⟩ := hinfix
    obtain ⟨c, rest, hrest⟩ := List.exists_cons_of_ne_nil (List.append_ne_nil_of_left_ne_nil
      (by decide : separator ≠ []) after)
    rw [hrest, List.tail_cons] at hpq
    have hle := h.last (before ++ c :: p) q (by simp [h.split, hrest, ← hpq])
    simp at hle

theorem tellsIndex_iff {text : List Char} {index : UInt64} :
    signedNumeral? UInt64.size text = some index.toNat ↔ TellsIndex text index := by
  rw [signedNumeral?_eq, numeral?_eq_some_iff, and_iff_left index.toNat_lt]
  constructor
  · intro h
    refine ⟨unsigned text, ?_, h⟩
    by_cases hplus : text.head? = some '+'
    · obtain ⟨digits, rfl⟩ := List.head?_eq_some_iff.1 hplus
      exact .inr rfl
    · exact .inl (unsigned_of_head hplus).symm
  · intro h
    obtain ⟨digits, htext, hrun, hvalue⟩ := h
    have hunsigned : unsigned text = digits := by
      rcases htext with rfl | rfl
      · refine unsigned_of_head fun hplus => ?_
        exact absurd (hrun.all '+' (List.mem_of_mem_head? hplus)) (by decide)
      · rfl
    rw [hunsigned]
    exact ⟨hrun, hvalue⟩

theorem ofText_eq_ok_iff {s : String} {id : VariantId} : ofText s = .ok id ↔ IsTextOf s id := by
  constructor
  · intro h
    rw [ofText] at h
    split at h
    · cases h
    · next kind index hsplit =>
      split at h
      · cases h
      · next hkind =>
        split at h
        · cases h
        · next n hn =>
          obtain rfl := Except.ok.inj h
          have hfits : n < UInt64.size := by
            rw [signedNumeral?_eq] at hn
            exact (numeral?_eq_some_iff.1 hn).2.2
          have hindex : signedNumeral? UInt64.size index = some (UInt64.ofNat n).toNat := by
            rw [UInt64.toNat_ofNat_of_lt' hfits, hn]
          refine ⟨by simpa using hkind, index, ?_, tellsIndex_iff.1 hindex⟩
          rw [String.toList_ofList]
          exact splitsLast_iff.1 hsplit
  · intro h
    obtain ⟨index, hsplit, hindex⟩ := h.parts
    have hkind : id.kind.toList ≠ [] := by simpa using h.kind
    simp only [ofText, splitsLast_iff.2 hsplit, if_neg hkind, tellsIndex_iff.2 hindex,
      String.ofList_toList, UInt64.ofNat_toNat]

theorem ofText_text_of_kind {id : VariantId} (h : id.kind ≠ "") : ofText id.text = .ok id := by
  rw [ofText_text, if_neg h]

/-- Identifiers with a kind and their texts. Each reads back from its text, whatever its kind and its
index are. A text is read just if it is split by its last separator into a kind that is not empty and an
index: ASCII digits, perhaps after a plus sign, of a value that fits in 64 bits. So what is read prints a
text that is read as the same, and no two identifiers have one text. -/
theorem text_grammar :
    (∀ id : VariantId, id.kind ≠ "" → ofText id.text = .ok id) ∧
    (∀ s id, ofText s = .ok id ↔ IsTextOf s id) ∧
    (∀ s id, ofText s = .ok id → ofText id.text = .ok id) ∧
    ∀ id id' : VariantId, id.kind ≠ "" → id'.kind ≠ "" → id.text = id'.text → id = id' := by
  refine ⟨fun _ => ofText_text_of_kind, fun _ _ => ofText_eq_ok_iff, ?_, ?_⟩
  · intro s id h
    exact ofText_text_of_kind (ofText_eq_ok_iff.1 h).kind
  · intro id id' h h' htext
    have hread := ofText_text_of_kind h
    rw [htext, ofText_text_of_kind h'] at hread
    exact (Except.ok.inj hread).symm

/-- The separator overlaps itself, and the index has a sign and leading zeros: the text is read, and the
identifier has a shorter one. The greatest index is read back as well. -/
theorem text_grammar_overlapping :
    ofText "/variants/variants/+007" = .ok ⟨"/variants", 7⟩ ∧
      ofText (text ⟨"/variants", 7⟩) = .ok ⟨"/variants", 7⟩ ∧
      ofText (text ⟨"a/variants/1", 18446744073709551615⟩) =
        .ok ⟨"a/variants/1", 18446744073709551615⟩ ∧
      text ⟨"/variants", 7⟩ ≠ text ⟨"/variants/variants", 7⟩ := by
  obtain ⟨hback, hread, hagain, hinjective⟩ := text_grammar
  have hparts : SplitsLast "/variants/variants/+007".toList "/variants".toList "+007".toList :=
    splitsLast_iff.1 (by decide)
  have hindex : TellsIndex "+007".toList 7 :=
    ⟨"007".toList, .inr rfl, ⟨by decide, List.all_eq_true.1 rfl⟩, by decide⟩
  have hok := (hread "/variants/variants/+007" ⟨"/variants", 7⟩).2
    ⟨by decide, "+007".toList, hparts, hindex⟩
  refine ⟨hok, hagain _ _ hok, hback _ (by decide), fun htext => ?_⟩
  exact absurd (hinjective _ _ (by decide) (by decide) htext) (by decide)

end ErrorGuide.VariantId
