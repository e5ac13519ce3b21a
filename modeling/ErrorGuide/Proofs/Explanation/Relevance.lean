import ErrorGuide.Proofs.Data.OrderedMap
import ErrorGuide.Proofs.Explanation.FirstMatch

/-! What of a deck an explanation depends on: the variants under the name that the kind of the trace
is looked up by, the rules of the audience, and the labels. Decks that agree on these explain alike,
whatever else they hold and in whatever order. -/

namespace ErrorGuide

/-! Labels. -/

namespace Labels

def told (l : Labels) : Labels where
  line := l.line.filter (· ≠ "")
  inWord := l.inWord.filter (· ≠ "")
  thisFile := l.thisFile.filter (· ≠ "")
  errorDetails := l.errorDetails.filter (· ≠ "")
  error := l.error.filter (· ≠ "")
  pythonError := l.pythonError.filter (· ≠ "")
  fallbackSummary := l.fallbackSummary.filter (· ≠ "")
  fallbackWhy := l.fallbackWhy.filter (· ≠ "")
  fallbackStep := l.fallbackStep.filter (· ≠ "")

theorem orDefault_filter (label : Option String) (default : String) :
    orDefault (label.filter (· ≠ "")) default = orDefault label default := by
  cases label with
  | none => rfl
  | some s => by_cases h : s = "" <;> simp [orDefault, Option.filter, h]

variable (l : Labels)

theorem lineText_told : l.told.lineText = l.lineText := orDefault_filter l.line _

theorem inText_told : l.told.inText = l.inText := orDefault_filter l.inWord _

theorem thisFileText_told : l.told.thisFileText = l.thisFileText := orDefault_filter l.thisFile _

theorem errorDetailsText_told : l.told.errorDetailsText = l.errorDetailsText :=
  orDefault_filter l.errorDetails _

theorem errorText_told : l.told.errorText = l.errorText := orDefault_filter l.error _

theorem pythonErrorText_told : l.told.pythonErrorText = l.pythonErrorText :=
  orDefault_filter l.pythonError _

theorem fallbackSummaryText_told : l.told.fallbackSummaryText = l.fallbackSummaryText :=
  orDefault_filter l.fallbackSummary _

theorem fallbackWhyText_told : l.told.fallbackWhyText = l.fallbackWhyText :=
  orDefault_filter l.fallbackWhy _

theorem fallbackStepText_told : l.told.fallbackStepText = l.fallbackStepText :=
  orDefault_filter l.fallbackStep _

end Labels

/-! Whatever is made with labels is made with those that are told. -/

section Told
variable (t : Trace) (l : Labels)

theorem Template.Context.ofTrace_told : ofTrace t l.told = ofTrace t l := by
  simp only [ofTrace, Trace.location, l.lineText_told, l.inText_told, l.thisFileText_told]

namespace Explanation

theorem detailsLine_told : detailsLine t l.told = detailsLine t l := by
  rw [detailsLine, detailsLine, l.errorText_told]

theorem fallback_told : fallback l.told t = fallback l t := by
  simp only [fallback, l.pythonErrorText_told, l.fallbackSummaryText_told, l.fallbackWhyText_told,
    l.fallbackStepText_told]

theorem render_told (e : Explanation) (f : Format) : e.render l.told f = e.render l f := by
  cases f with
  | text => rfl
  | json => rfl
  | markdown => rfl
  | html =>
    simp only [render, plainFragment, detailsLine_told, l.errorDetailsText_told]

end Explanation
end Told

/-! Variants. -/

namespace Variant

def filters (v : Variant) : Condition := v.condition.getD {}

def writtenOut (v : Variant) : Variant := { v with condition := some v.filters }

theorem admits_writtenOut {v : Variant} {t : Trace} : v.writtenOut.Admits t ↔ v.Admits t := by
  rw [← applies_iff, ← applies_iff, applies, applies, writtenOut, filters]
  cases v.condition with
  | none => exact iff_of_true rfl rfl
  | some c => rfl

theorem copy_writtenOut (v : Variant) (ctx : Template.Context) (rules : Option Rules) :
    v.writtenOut.copy ctx rules = v.copy ctx rules := rfl

theorem badges_writtenOut (v : Variant) : v.writtenOut.badges = v.badges := rfl

end Variant

namespace KindEntry
variable {entry : KindEntry} {t : Trace} {index : Nat} {u : Variant}

def writtenOut (entry : KindEntry) : KindEntry := ⟨entry.variants.map (·.writtenOut)⟩

theorem getElem?_writtenOut : entry.writtenOut.variants[index]? = some u ↔
    ∃ v, entry.variants[index]? = some v ∧ v.writtenOut = u := by
  rw [writtenOut, List.getElem?_map, Option.map_eq_some_iff]

/-- To write the filters out does not change which variant comes first. -/
theorem first_writtenOut_iff : entry.writtenOut.First t index u ↔
    ∃ v, entry.First t index v ∧ v.writtenOut = u := by
  constructor
  · intro h
    obtain ⟨v, hv, rfl⟩ := getElem?_writtenOut.1 h.getElem?
    refine ⟨v, ⟨hv, Variant.admits_writtenOut.1 h.admits, fun j hj w hw hadmits => ?_⟩, rfl⟩
    have hwritten := getElem?_writtenOut.2 ⟨w, hw, rfl⟩
    exact h.earlier j hj _ hwritten (Variant.admits_writtenOut.2 hadmits)
  · rintro ⟨v, h, rfl⟩
    refine ⟨getElem?_writtenOut.2 ⟨v, h.getElem?, rfl⟩, Variant.admits_writtenOut.2 h.admits, ?_⟩
    intro j hj u hu hadmits
    obtain ⟨w, hw, rfl⟩ := getElem?_writtenOut.1 hu
    exact h.earlier j hj w hw (Variant.admits_writtenOut.1 hadmits)

end KindEntry

namespace Deck
variable {d d' : Deck} {t : Trace} {kind : Option String} {audience : Audience}

/-- Decks that know the same of a kind look it up under the same name. -/
theorem heading_congr (h : ∀ k ∈ kind, k ∈ d.errors.keys ↔ k ∈ d'.errors.keys) :
    d.heading kind = d'.heading kind := by
  cases kind with
  | none => rfl
  | some k => simp only [heading, h k rfl]

def entryFor (d : Deck) (kind : Option String) : KindEntry :=
  (d.errors.get? (d.heading kind)).getD ⟨[]⟩

theorem finds_iff {index : Nat} {v : Variant} :
    d.Finds t index v ↔ (d.entryFor t.kind).First t index v := by
  rw [Finds, entryFor]
  cases d.errors.get? (d.heading t.kind) with
  | none =>
    refine iff_of_false (by simp) fun h => ?_
    simpa using h.getElem?
  | some entry => simp

def rulesFor (d : Deck) (audience : String) : List (String × String) :=
  (d.glossary.get? audience).elim [] (·.entries)

theorem glossaryFor_congr {audience : String} (h : d.rulesFor audience = d'.rulesFor audience) :
    d.glossaryFor audience = d'.glossaryFor audience := by
  rw [rulesFor, rulesFor] at h
  rw [glossaryFor, glossaryFor]
  cases hd : d.glossary.get? audience with
  | none =>
    cases hd' : d'.glossary.get? audience with
    | none => rfl
    | some rules' =>
      have hempty : rules'.entries = [] := by simpa [hd, hd'] using h.symm
      simp [Option.filter, OrderedMap.isEmpty, hempty]
  | some rules =>
    cases hd' : d'.glossary.get? audience with
    | none =>
      have hempty : rules.entries = [] := by simpa [hd, hd'] using h
      simp [Option.filter, OrderedMap.isEmpty, hempty]
    | some rules' =>
      have hentries : rules.entries = rules'.entries := by simpa [hd, hd'] using h
      rw [OrderedMap.eq_of_entries hentries]

/-- Two decks agree on all that the explanation of a trace of this kind to this audience needs:
whether they know the kind, the variants that it is looked up in, the rules and the labels. A
condition that is not there is one without patterns, an audience that is not there is one without
rules, and a label that is not there is an empty one. -/
structure AgreesOn (d : Deck) (kind : Option String) (audience : Audience) (d' : Deck) : Prop where
  known : ∀ k ∈ kind, k ∈ d.errors.keys ↔ k ∈ d'.errors.keys
  variants : (d.entryFor kind).writtenOut = (d'.entryFor kind).writtenOut
  rules : d.rulesFor audience.name = d'.rulesFor audience.name
  labels : d.labels.told = d'.labels.told

namespace AgreesOn

theorem symm (h : d.AgreesOn kind audience d') : d'.AgreesOn kind audience d where
  known k hk := (h.known k hk).symm
  variants := h.variants.symm
  rules := h.rules.symm
  labels := h.labels.symm

/-- What a trace finds in one of the decks it finds in the other, up to how the filters are
written. -/
theorem finds (h : d.AgreesOn t.kind audience d') {index : Nat} {v : Variant}
    (hv : d.Finds t index v) : ∃ w, d'.Finds t index w ∧ w.writtenOut = v.writtenOut := by
  have hfirst := KindEntry.first_writtenOut_iff.2 ⟨v, finds_iff.1 hv, rfl⟩
  rw [h.variants] at hfirst
  obtain ⟨w, hw, hwv⟩ := KindEntry.first_writtenOut_iff.1 hfirst
  exact ⟨w, finds_iff.2 hw, hwv⟩

theorem findsNone (h : d.AgreesOn t.kind audience d') (hnone : d.FindsNone t) :
    d'.FindsNone t := by
  rcases d'.finds_or_findsNone t with ⟨index, w, hw⟩ | hnone'
  · obtain ⟨v, hv, -⟩ := h.symm.finds hw
    exact absurd hnone hv.not_findsNone
  · exact hnone'

theorem explain_eq (h : d.AgreesOn t.kind audience d') (verbosity : Verbosity) :
    d.explain t audience verbosity = d'.explain t audience verbosity := by
  have hcontext : Template.Context.ofTrace t d.labels = .ofTrace t d'.labels := by
    rw [← Template.Context.ofTrace_told, h.labels, Template.Context.ofTrace_told]
  have hdetails : Explanation.detailsLine t d.labels = Explanation.detailsLine t d'.labels := by
    rw [← Explanation.detailsLine_told, h.labels, Explanation.detailsLine_told]
  have hlabel : d.labels.errorDetailsText = d'.labels.errorDetailsText := by
    rw [← Labels.errorDetailsText_told, h.labels, Labels.errorDetailsText_told]
  have hrules := glossaryFor_congr h.rules
  rcases d.finds_or_findsNone t with ⟨index, v, hv⟩ | hnone
  · obtain ⟨w, hw, hwv⟩ := h.finds hv
    have hcopy (ctx : Template.Context) (rules : Option Rules) :
        v.copy ctx rules = w.copy ctx rules := by
      rw [← v.copy_writtenOut, ← hwv, w.copy_writtenOut]
    have hbadges : v.badges = w.badges := by
      rw [← v.badges_writtenOut, ← hwv, w.badges_writtenOut]
    have hid : VariantId.ofKey (d.keyFor t.kind) index = .ofKey (d'.keyFor t.kind) index := by
      rw [VariantId.ofKey, VariantId.ofKey, name_keyFor, name_keyFor, heading_congr h.known]
    rw [explain_of_matched _ _ (select_eq_matched_iff.2 ⟨rfl, hv⟩),
      explain_of_matched _ _ (select_eq_matched_iff.2 ⟨rfl, hw⟩)]
    simp only [Explanation.ofVariant, Explanation.fragment, hcontext, hdetails, hlabel, hrules,
      hcopy, hid, hbadges]
  · rw [explain_of_unmatched _ _ (select_ne_matched_of_findsNone hnone),
      explain_of_unmatched _ _ (select_ne_matched_of_findsNone (h.findsNone hnone)),
      ← Explanation.fallback_told, h.labels, Explanation.fallback_told]

end AgreesOn

/-- What is changed from one deck to the other concerns other kinds than that of a trace and than
the one it is looked up by, or other audiences, or neither. -/
structure DiffersElsewhere (d : Deck) (kind : Option String) (audience : Audience) (d' : Deck) :
    Prop where
  entries : ∀ k, k ∈ kind ∨ k = d.heading kind → d'.errors.get? k = d.errors.get? k
  rules : d'.glossary.get? audience.name = d.glossary.get? audience.name
  labels : d'.labels = d.labels

theorem mem_keys_congr {k : String} (h : d'.errors.get? k = d.errors.get? k) :
    k ∈ d.errors.keys ↔ k ∈ d'.errors.keys := by
  rw [← OrderedMap.contains_iff, ← OrderedMap.contains_iff, OrderedMap.contains,
    OrderedMap.contains, h]

theorem DiffersElsewhere.agreesOn (h : d.DiffersElsewhere kind audience d') :
    d.AgreesOn kind audience d' := by
  have hknown : ∀ k ∈ kind, k ∈ d.errors.keys ↔ k ∈ d'.errors.keys :=
    fun k hk => mem_keys_congr (h.entries k (.inl hk))
  refine ⟨hknown, ?_, ?_, ?_⟩
  · rw [entryFor, entryFor, ← heading_congr hknown, h.entries _ (.inr rfl)]
  · rw [rulesFor, rulesFor, h.rules]
  · rw [h.labels]

/-- The order of the entries is no part of what is found under a name. -/
theorem get?_eq_of_perm (h : d.errors.entries.Perm d'.errors.entries) (k : String) :
    d'.errors.get? k = d.errors.get? k := by
  refine Option.ext fun entry => ?_
  rw [OrderedMap.get?_eq_some_iff, OrderedMap.get?_eq_some_iff, h.mem_iff]

end Deck

/-- With either deck a guide answers a request by the same explanation, and this looks the same in
every format with the labels of either deck. -/
def Guide.AnswersAlike (g : Guide) (r : Request) (d d' : Deck) : Prop :=
  ∃ e, (g.load d).explain r = .ok e ∧ (g.load d').explain r = .ok e ∧
    ∀ f, e.render d.labels f = e.render d'.labels f

theorem Guide.answersAlike_of_agreesOn {g : Guide} {r : Request} {d d' : Deck}
    (h : d.AgreesOn (g.trace r).kind r.audience d') : g.AnswersAlike r d d' := by
  refine ⟨_, explain_eq (g := g.load d) rfl r, ?_, fun f => ?_⟩
  · rw [explain_eq (g := g.load d') rfl r]
    exact congrArg Except.ok (h.explain_eq r.verbosity).symm
  · rw [← Explanation.render_told, h.labels, Explanation.render_told]

/-- Decks that agree on the variants under the name that the kind of a trace is looked up by, on the
rules of an audience and on the labels give the same explanation in every format. So the order of
the entries does not matter, nor what a deck holds for other kinds and other audiences. -/
theorem explain_relevant (g : Guide) (r : Request) (d d' : Deck) :
    (d.AgreesOn (g.trace r).kind r.audience d' → g.AnswersAlike r d d') ∧
    (d.errors.entries.Perm d'.errors.entries → d'.glossary = d.glossary → d'.labels = d.labels →
      g.AnswersAlike r d d') ∧
    (d.DiffersElsewhere (g.trace r).kind r.audience d' → g.AnswersAlike r d d') := by
  refine ⟨Guide.answersAlike_of_agreesOn, fun hperm hglossary hlabels => ?_, fun h => ?_⟩
  · have helsewhere : d.DiffersElsewhere (g.trace r).kind r.audience d' :=
      ⟨fun k _ => Deck.get?_eq_of_perm hperm k, by rw [hglossary], hlabels⟩
    exact Guide.answersAlike_of_agreesOn helsewhere.agreesOn
  · exact Guide.answersAlike_of_agreesOn h.agreesOn

def Deck.sampleAgain : Deck where
  edition := ⟨"fr", .ofNat false 2⟩
  labels := { errorDetails := some "" }
  glossary := Deck.sample.glossary.insert "beginner" .empty
  errors := ⟨[("Other", ⟨[]⟩), ("NameError", ⟨[
    { condition := some { matchMessage := ["("] }, title := "Open", summary := "It is open." },
    { Variant.sample with condition := some {} },
    { title := "Last", summary := "Nothing is known." }]⟩)], by decide⟩

def Deck.sampleTurned : Deck :=
  { Deck.sampleAgain with errors := ⟨Deck.sampleAgain.errors.entries.reverse, by decide⟩ }

def Deck.sampleAlone : Deck :=
  { Deck.sampleAgain with errors := ⟨Deck.sampleAgain.errors.entries.tail, by decide⟩ }

theorem explain_relevant_sample :
    let r : Request := { input := .trace (.sample "i"), audience := .kid }
    Guide.sample.AnswersAlike r .sample .sampleAgain ∧
      Guide.sample.AnswersAlike r .sampleAgain .sampleTurned ∧
      Guide.sample.AnswersAlike r .sampleAgain .sampleAlone := by
  intro r
  have hagrees : Deck.sample.AgreesOn (some "NameError") .kid .sampleAgain := by
    refine ⟨fun k hk => ?_, rfl, rfl, rfl⟩
    obtain rfl := Option.some.inj hk
    exact iff_of_true (by decide) (by decide)
  have hperm : Deck.sampleAgain.errors.entries.Perm Deck.sampleTurned.errors.entries :=
    (List.reverse_perm _).symm
  have helsewhere : Deck.sampleAgain.DiffersElsewhere (some "NameError") .kid .sampleAlone := by
    refine ⟨fun k hk => ?_, rfl, rfl⟩
    have hheading : Deck.sampleAgain.heading (some "NameError") = "NameError" := by decide
    rw [hheading, Option.mem_some_iff, eq_comm, or_self] at hk
    rw [hk]
    rfl
  exact ⟨(explain_relevant .sample r .sample .sampleAgain).1 hagrees,
    (explain_relevant .sample r .sampleAgain .sampleTurned).2.1 hperm rfl rfl,
    (explain_relevant .sample r .sampleAgain .sampleAlone).2.2 helsewhere⟩

end ErrorGuide
