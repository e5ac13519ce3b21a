import ErrorGuide.Deck.Codec
import ErrorGuide.Proofs.Adapter.Reading
import ErrorGuide.Proofs.Explanation.Codec
import ErrorGuide.Proofs.Explanation.FirstMatch

/-! Which explanations can be read back: those whose variant stands under a name. -/

namespace ErrorGuide
open Json Text

/-! Kinds that are told by texts are not empty. -/

theorem Trace.kind_readTail_ne_empty (line : List Char) : (readTail line).kind ≠ some "" := by
  intro h
  have htells : TellsKind line "".toList (readTail line).message.toList :=
    readTail_eq_iff.1 (by rw [← h])
  exact htells.kind_ne_nil rfl

theorem Registry.kind_extract_builtin (raw : String) (code : Option String) :
    (builtin.extract raw code).kind =
      (Trace.readTail (Trace.tailOf (Trace.linesOf raw.toList))).kind := by
  rw [(isReading_extract_builtin raw code).readTail_eq]

theorem Trace.kind_withCode (t : Trace) (code : Option String) :
    (t.withCode code).kind = t.kind := by
  unfold withCode
  split <;> rfl

namespace Explanation
variable (e : Explanation)

structure ReadsBack (e : Explanation) : Prop where
  variantId : VariantId.ofText e.variantId.text = .ok e.variantId
  texts : ∀ s ∈ e.encode.texts, decodeText decode s = .ok e

theorem decodeText_of_mem_texts {s : String} (hs : s ∈ e.encode.texts) :
    decodeText decode s = decode .text (toDoc e.encode) :=
  decodeText_of_readText decode (readText_of_mem_texts e.readable_encode.legible hs)

/-- The text of the identifier is none, and the JSON texts are not those of an explanation. -/
structure Refused (e : Explanation) : Prop where
  variantId : VariantId.ofText e.variantId.text = .error (.malformed e.variantId.text)
  texts : ∀ s ∈ e.encode.texts, decodeText decode s =
    .error (.refused (VariantId.Fault.malformed e.variantId.text).message)

theorem readsBack_of_kind {e : Explanation} (hid : e.variantId.kind ≠ "") : e.ReadsBack := by
  refine ⟨by rw [VariantId.ofText_text, if_neg hid], fun s hs => ?_⟩
  rw [e.decodeText_of_mem_texts hs]
  exact e.decode_encode reordering_id hid .text

/-- Decoding stops at the identifier. -/
theorem refused_of_kind {e : Explanation} (hid : e.variantId.kind = "") : e.Refused := by
  have htrace := Trace.decode_encode reordering_id e.trace .text
  have hvariant := VariantId.decode_encode_eq reordering_id e.variantId
  rw [if_pos hid] at hvariant
  rw [id] at htrace hvariant
  refine ⟨by rw [VariantId.ofText_text, if_pos hid], fun s hs => ?_⟩
  rw [e.decodeText_of_mem_texts hs, encode, toDoc, decode, record, ofEntries]
  simp only [List.cons_append, entriesOf, Entries.fold, Slots.step, slot, Option.isSome_none,
    Bool.false_eq_true, if_false, htrace, hvariant]
  rfl

end Explanation

namespace Deck
variable {d : Deck} {t : Trace}

theorem heading_eq_empty_iff {kind : Option String} :
    d.heading kind = "" ↔ kind = some "" ∧ "" ∈ d.errors.keys := by
  have hfallback : EntryKey.fallbackName ≠ "" := by decide
  cases kind with
  | none => simp [heading, hfallback]
  | some kind =>
    rw [heading]
    split
    · next hmem =>
      constructor
      · rintro rfl
        exact ⟨rfl, hmem⟩
      · exact fun h => Option.some.inj h.1
    · next hmem =>
      refine iff_of_false hfallback ?_
      rintro ⟨hkind, hempty⟩
      exact hmem (Option.some.inj hkind ▸ hempty)

def FindsNameless (d : Deck) (t : Trace) : Prop :=
  t.kind = some "" ∧ "" ∈ d.errors.keys ∧ ∃ index v, d.Finds t index v

theorem kind_explain_eq_empty_iff (audience : Audience) (verbosity : Verbosity) :
    (d.explain t audience verbosity).variantId.kind = "" ↔ d.FindsNameless t := by
  rcases d.finds_or_findsNone t with ⟨index, v, hfinds⟩ | hnone
  · rw [(tells_explain audience verbosity hfinds).variantId, heading_eq_empty_iff, FindsNameless]
    constructor
    · rintro ⟨hkind, hmem⟩
      exact ⟨hkind, hmem, index, v, hfinds⟩
    · rintro ⟨hkind, hmem, -⟩
      exact ⟨hkind, hmem⟩
  · rw [(tellsLabels_explain audience verbosity hnone).variantId]
    refine iff_of_false (by decide) ?_
    rintro ⟨-, -, index, v, hfinds⟩
    exact hfinds.not_findsNone hnone

end Deck

/-- Explaining by a deck always gives an explanation. It reads back, unless its variant stands under
the empty name: so it does whenever an error text is explained. -/
theorem Guide.explained_reads_back (d : Deck) (r : Request) :
    ∃ e, (Guide.load {} d).explain r = .ok e ∧ (¬d.FindsNameless e.trace → e.ReadsBack) ∧
      (d.FindsNameless e.trace → e.Refused) ∧ ∀ raw, r.input = .text raw → e.ReadsBack := by
  have hempty := Deck.kind_explain_eq_empty_iff (d := d) (t := trace (.load {} d) r) r.audience
    r.verbosity
  refine ⟨_, explain_eq rfl r, ?_⟩
  rw [Deck.trace_explain]
  refine ⟨fun h => Explanation.readsBack_of_kind (mt hempty.1 h),
    fun h => Explanation.refused_of_kind (hempty.2 h), fun raw hraw => ?_⟩
  refine Explanation.readsBack_of_kind fun hkind => ?_
  obtain ⟨hnone, -⟩ := hempty.1 hkind
  rw [trace, Trace.kind_withCode, hraw] at hnone
  rw [Registry.coerce, load, Registry.kind_extract_builtin] at hnone
  exact Trace.kind_readTail_ne_empty _ hnone

def Deck.nameless : Deck where
  edition := ⟨"en", .ofNat false 1⟩
  errors := ⟨[("", ⟨[{ title := "t", summary := "s" }]⟩)], by decide⟩

def Request.nameless : Request where
  input := .trace { kind := some "", raw := "x" }

theorem Deck.ofText_nameless :
    ofText ("\x7b\"meta\":\x7b\"language\":\"en\",\"version\":1\x7d,\"errors\":" ++
      "\x7b\"\":\x7b\"variants\":[\x7b\"title\":\"t\",\"summary\":\"s\"\x7d]\x7d\x7d\x7d") =
        .ok nameless :=
  eq_ok_of_toOption (by decide +kernel)

theorem Deck.select_nameless {t : Trace} (hk : t.kind = some "") :
    nameless.select t = .matched (.kind "") 0 { title := "t", summary := "s" } := by
  have hkey : nameless.keyFor (some "") = .kind "" := by decide
  rw [select, hk, hkey]
  rfl

theorem Deck.findsNameless_nameless {t : Trace} (hk : t.kind = some "") :
    nameless.FindsNameless t :=
  ⟨hk, by decide, 0, _, (select_eq_matched_iff.1 (select_nameless hk)).2⟩

theorem Guide.explained_reads_back_nameless :
    ∃ e, (Guide.load {} .nameless).explain .nameless = .ok e ∧ e.Refused := by
  obtain ⟨e, he, -, hrefused, -⟩ := explained_reads_back .nameless .nameless
  refine ⟨e, he, hrefused ?_⟩
  obtain rfl := eq_explain_of_ok rfl he
  rw [Deck.trace_explain]
  exact Deck.findsNameless_nameless rfl

/-- A trace of the empty kind is explained under `/variants/0`, which is no identifier. -/
theorem not_forall_readsBack :
    ¬∀ (s : String) (d : Deck), Deck.ofText s = .ok d → ∀ r : Request,
      ∃ e, (Guide.load {} d).explain r = .ok e ∧ e.ReadsBack := by
  intro h
  obtain ⟨e, he, hreads⟩ := h _ .nameless Deck.ofText_nameless .nameless
  obtain rfl := Guide.eq_explain_of_ok rfl he
  have hfinds : Deck.nameless.FindsNameless (Guide.trace (.load {} .nameless) .nameless) :=
    Deck.findsNameless_nameless rfl
  have hkind := (Deck.kind_explain_eq_empty_iff Request.nameless.audience
    Request.nameless.verbosity).2 hfinds
  have hrefused := Explanation.refused_of_kind hkind
  have hboth := hrefused.variantId.symm.trans hreads.variantId
  cases hboth

end ErrorGuide
