import ErrorGuide.Proofs.Explanation.FirstMatch

/-! What the identifier of an explanation names. Where a variant was selected it names this one.
What is told where none was selected goes under the first variant of the catch-all, whether a deck
has such a variant or not. -/

namespace ErrorGuide

def Selection.variant? : Selection → Option Variant
  | .matched _ _ v => some v
  | .noEntry _ => none
  | .noMatch _ => none

namespace Deck
variable {d : Deck} {t : Trace} {index : Nat} {v : Variant}

/-- The indices of the variants fit 64 bits. -/
def Indexed (d : Deck) : Prop :=
  ∀ entry ∈ d.errors.entries, entry.2.variants.length ≤ UInt64.size

def variantAt? (d : Deck) (id : VariantId) : Option Variant :=
  (d.errors.get? id.kind).bind (·.variants[id.index.toNat]?)

def SelectsAt (d : Deck) (t : Trace) (id : VariantId) (v : Variant) : Prop :=
  ∃ key, key.name = id.kind ∧ d.select t = .matched key id.index.toNat v

theorem SelectsAt.variant?_select {id : VariantId} (h : d.SelectsAt t id v) :
    (d.select t).variant? = some v := by
  obtain ⟨key, -, hs⟩ := h
  rw [hs]
  rfl

theorem variant?_select_of_findsNone (h : d.FindsNone t) : (d.select t).variant? = none := by
  cases hs : d.select t with
  | matched key index v => exact absurd hs (select_ne_matched_of_findsNone h key index v)
  | noEntry key => rfl
  | noMatch key => rfl

theorem Finds.toNat_index (hd : d.Indexed) (h : d.Finds t index v) :
    (UInt64.ofNat index).toNat = index := by
  obtain ⟨entry, he, hfirst⟩ := h
  have hlt : index < entry.variants.length := (List.getElem?_eq_some_iff.1 hfirst.getElem?).1
  have hfits : entry.variants.length ≤ UInt64.size := hd _ (d.errors.get?_eq_some_iff.1 he)
  exact UInt64.toNat_ofNat_of_lt (Nat.lt_of_lt_of_le hlt hfits)

theorem Finds.variantAt? (hd : d.Indexed) (h : d.Finds t index v) :
    d.variantAt? ⟨d.heading t.kind, UInt64.ofNat index⟩ = some v := by
  have hindex := h.toNat_index hd
  obtain ⟨entry, he, hfirst⟩ := h
  rw [Deck.variantAt?, he, Option.bind_some, hindex, hfirst.getElem?]

theorem Finds.selectsAt (hd : d.Indexed) (h : d.Finds t index v) :
    d.SelectsAt t ⟨d.heading t.kind, UInt64.ofNat index⟩ v := by
  refine ⟨d.keyFor t.kind, d.name_keyFor t.kind, ?_⟩
  rw [h.toNat_index hd]
  exact select_eq_matched_iff.2 ⟨rfl, h⟩

/-- The explanation of a trace has the identifier of the variant that the trace selects, or is the
one without a fragment that goes under the catch-all. -/
theorem explain_named (hd : d.Indexed) (t : Trace) (audience : Audience) (verbosity : Verbosity) :
    (∃ v, d.variantAt? (d.explain t audience verbosity).variantId = some v ∧
      d.SelectsAt t (d.explain t audience verbosity).variantId v ∧
      (d.explain t audience verbosity).html.isSome = true) ∨
    d.FindsNone t ∧ (d.explain t audience verbosity).variantId = .fallback ∧
      (d.explain t audience verbosity).html = none := by
  rcases d.finds_or_findsNone t with ⟨index, v, hfinds⟩ | hnone
  · have htells := tells_explain audience verbosity hfinds
    rw [htells.variantId, htells.html]
    exact .inl ⟨v, hfinds.variantAt? hd, hfinds.selectsAt hd, rfl⟩
  · have htells := tellsLabels_explain audience verbosity hnone
    exact .inr ⟨hnone, htells.variantId, htells.html⟩

end Deck

/-- The identifier of an explanation names the variant that was selected, if the deck has a variant
there at all and something was selected. With a fragment, or under another identifier than that of
the catch-all's first variant, an explanation always comes from the variant that it names. Two
explanations of a deck with one identifier, both with a fragment or both without, come from the same
variant, or from none. -/
theorem explain_naming {g : Guide} {d : Deck} (hd : g.deck = some d) (hindexed : d.Indexed)
    (r : Request) :
    ∃ e, g.explain r = .ok e ∧
      (∀ v, d.variantAt? e.variantId = some v → d.SelectsAt e.trace e.variantId v ∨
        d.FindsNone e.trace ∧ e.variantId = .fallback ∧ e.html = none) ∧
      (e.variantId ≠ .fallback ∨ e.html.isSome = true →
        ∃ v, d.variantAt? e.variantId = some v ∧ d.SelectsAt e.trace e.variantId v) ∧
      ∀ (g' : Guide) (r' : Request) e', g'.deck = some d → g'.explain r' = .ok e' →
        e'.variantId = e.variantId → e'.html.isSome = e.html.isSome →
          (d.select e'.trace).variant? = (d.select e.trace).variant? := by
  refine ⟨_, Guide.explain_eq hd r, ?_⟩
  rw [Deck.trace_explain]
  have hnamed := d.explain_named hindexed (g.trace r) r.audience r.verbosity
  generalize d.explain (g.trace r) r.audience r.verbosity = e at hnamed ⊢
  refine ⟨fun v hv => ?_, fun h => ?_, ?_⟩
  · rcases hnamed with ⟨w, hw, hselects, -⟩ | hnone
    · obtain rfl := Option.some.inj (hw.symm.trans hv)
      exact .inl hselects
    · exact .inr hnone
  · rcases hnamed with ⟨w, hw, hselects, -⟩ | ⟨-, hid, hhtml⟩
    · exact ⟨w, hw, hselects⟩
    · rw [hid, hhtml] at h
      simp at h
  · -- Only the fragment tells a variant's explanation from that of the labels under the same name.
    intro g' r' e' hd' he' hid hhtml
    obtain rfl := Guide.eq_explain_of_ok hd' he'
    rw [Deck.trace_explain]
    have hnamed' := d.explain_named hindexed (g'.trace r') r'.audience r'.verbosity
    rw [hid, hhtml] at hnamed'
    rcases hnamed with ⟨v, hv, hselects, hsome⟩ | ⟨hnone, -, hno⟩
    · rcases hnamed' with ⟨v', hv', hselects', -⟩ | ⟨-, -, hno'⟩
      · rw [hselects.variant?_select, hselects'.variant?_select, ← hv, hv']
      · rw [← Option.isNone_iff_eq_none, ← Option.not_isSome, hhtml, hsome] at hno'
        cases hno'
    · rcases hnamed' with ⟨-, -, -, hsome'⟩ | ⟨hnone', -, -⟩
      · rw [hno] at hsome'
        cases hsome'
      · rw [Deck.variant?_select_of_findsNone hnone, Deck.variant?_select_of_findsNone hnone']

/-- The second variant of the entry is selected, and it is the one that is named. -/
theorem explain_naming_sample :
    ∃ e, Guide.sample.explain { input := .trace (.sample "i"), audience := .kid } = .ok e ∧
      Deck.sample.SelectsAt e.trace ⟨"NameError", 1⟩ .sample := by
  have hindexed : Deck.sample.Indexed := by
    unfold Deck.Indexed
    decide
  have hs : Deck.sample.select (.sample "i") = .matched (.kind "NameError") 1 .sample :=
    Deck.select_sample rfl rfl
  obtain ⟨e, he, hnames, -⟩ := explain_naming (g := .sample) rfl hindexed
    { input := .trace (.sample "i"), audience := .kid }
  have hid : e.variantId = ⟨"NameError", 1⟩ := by
    rw [Guide.eq_explain_of_ok rfl he]
    exact congrArg (·.variantId) (Deck.explain_of_matched .kid .standard hs)
  refine ⟨e, he, ?_⟩
  rw [← hid]
  rcases hnames .sample (by rw [hid]; rfl) with hselects | ⟨-, hfallback, -⟩
  · exact hselects
  · rw [hid] at hfallback
    exact absurd hfallback (by decide)

def Deck.choosy : Deck where
  edition := ⟨"en", .ofNat false 1⟩
  errors := ⟨[
    ("SyntaxError", ⟨[{
      condition := some { matchCode := ["="] }
      title := "One equals sign"
      summary := "Two of them compare." }]⟩),
    ("Other", ⟨[{ title := "Something else", summary := "Read the last line." }]⟩)], by decide⟩

theorem Deck.select_choosy {t : Trace} (hk : t.kind = some "SyntaxError") (hc : t.codeText = "") :
    choosy.select t = .noMatch (.kind "SyntaxError") := by
  have hkey : choosy.keyFor (some "SyntaxError") = .kind "SyntaxError" := by decide
  have hno : Pattern.matchesIn "=" "" = false := by decide +kernel
  rw [select, hk, hkey]
  simp [choosy, entry?, EntryKey.name, OrderedMap.get?, KindEntry.firstFor, Variant.applies,
    Condition.holds, anyMatches, hc, hno]

/-- A trace whose kind the deck knows and whose line it does not is told about in the labels alone,
but under the identifier of the catch-all's variant. -/
theorem not_forall_selectsAt :
    ¬∀ d : Deck, d.Indexed → ∀ (g : Guide) (r : Request) e v, g.deck = some d →
      g.explain r = .ok e → d.variantAt? e.variantId = some v →
        d.SelectsAt e.trace e.variantId v := by
  intro h
  let t : Trace := { kind := some "SyntaxError", raw := "x" }
  have hindexed : Deck.choosy.Indexed := by
    unfold Deck.Indexed
    decide
  have hs : Deck.choosy.select t = .noMatch (.kind "SyntaxError") := Deck.select_choosy rfl rfl
  have he : Deck.choosy.explain t .beginner .standard = Explanation.fallback {} t :=
    Deck.explain_of_unmatched .beginner .standard (by simp [hs])
  obtain ⟨key, -, hselects⟩ := h .choosy hindexed { deck := some .choosy } { input := .trace t } _
    { title := "Something else", summary := "Read the last line." } rfl
    ((Guide.explain_eq rfl _).trans (congrArg Except.ok he)) rfl
  rw [Explanation.fallback, hs] at hselects
  cases hselects

end ErrorGuide
