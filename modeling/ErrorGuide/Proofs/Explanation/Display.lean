import ErrorGuide.Proofs.Deck.Selection
import ErrorGuide.Proofs.Explanation.Markup

/-! Whether a fragment says what the explanation says. The vocabulary is applied to the escaped
values, entities and all, so the two agree as long as no term meets an entity. -/

namespace ErrorGuide
open Html

namespace Template

structure Context.Plain (ctx : Context) : Prop where
  loc : Html.Plain ctx.loc
  name : Html.Plain ctx.name
  codeLine : Html.Plain ctx.codeLine

theorem Context.Plain.escaped {ctx : Context} (h : ctx.Plain) : ctx.escaped = ctx := by
  rw [Context.escaped, h.loc.escape, h.name.escape, h.codeLine.escape]

theorem Context.Plain.get {ctx : Context} (h : ctx.Plain) (key : String) :
    Html.Plain (ctx.get key) := by
  unfold Context.get
  repeat' split
  · exact h.loc
  · exact h.name
  · exact h.codeLine
  · rfl

theorem Context.get_escaped (ctx : Context) (key : String) :
    ctx.escaped.get key = escape (ctx.get key) := by
  unfold Context.get Context.escaped
  repeat' split
  all_goals rfl

theorem filter_literals_of_plain {template : String} (h : Html.Plain template) :
    (literals (pieces template.toList)).filter specials.contains = [] := by
  have hs := (literals_pieces_sublist template.toList).filter specials.contains
  rw [h] at hs
  exact List.eq_nil_of_sublist_nil hs

/-- A plain template filled with escaped values is what it is with the values, escaped. -/
theorem render_escaped {template : String} (h : Html.Plain template) (ctx : Context) :
    render template ctx.escaped = escape (render template ctx) := by
  have hliterals := filter_literals_of_plain h
  rw [render, render, escape, String.toList_ofList]
  congr 1
  -- A literal stands for itself in both, and a value is escaped as a whole.
  generalize pieces template.toList = ps at hliterals ⊢
  induction ps with
  | nil => rfl
  | cons piece ps ih =>
    rw [List.flatMap_cons, List.flatMap_cons, escapeChars, List.flatMap_append]
    cases piece with
    | literal c =>
      obtain ⟨hc, hps⟩ := List.forall_mem_cons.1 (List.filter_eq_nil_iff.1 hliterals)
      have hkept := escapeChar_of_not_special (Bool.eq_false_iff.2 hc)
      rw [ih (List.filter_eq_nil_iff.2 hps), Piece.fill, Piece.fill, List.flatMap_singleton, hkept,
        escapeChars]
    | placeholder key =>
      rw [ih hliterals, Piece.fill, Piece.fill, ctx.get_escaped, escape, String.toList_ofList,
        escapeChars, escapeChars]

theorem plain_render {template : String} (h : Html.Plain template) {ctx : Context}
    (hctx : ctx.Plain) : Html.Plain (render template ctx) :=
  (filter_render hctx.get template).trans (filter_literals_of_plain h)

end Template

/-- A text of a fragment reads as the text of the explanation does, if no term has to do with
entities or nothing is written as one. -/
theorem unescape_filled {rules : Option Rules} (hrules : ∀ rs ∈ rules, rs.Plain)
    {ctx : Template.Context} (h : (∀ rs ∈ rules, rs.SpareEntities) ∨ ctx.Plain) {template : String}
    (ht : Plain template) :
    unescape (substitute rules (Template.render template ctx.escaped)) =
      substitute rules (Template.render template ctx) := by
  obtain hspare | hctx := h
  · rw [Template.render_escaped ht]
    cases rules with
    | none => exact unescape_escape _
    | some rs =>
      rw [substitute, rs.substitute_escape (hspare rs rfl) (hrules rs rfl), unescape_escape]
      rfl
  · rw [hctx.escaped]
    have hplain := Template.plain_render ht hctx
    cases rules with
    | none => exact hplain.unescape
    | some rs => exact (rs.plain_substitute (hrules rs rfl) hplain).unescape

def Variant.templates (v : Variant) : List String :=
  [v.title, v.summary] ++ v.why.toList ++ v.steps

def Copy.map (f : String → String) (c : Copy) : Copy where
  title := f c.title
  summary := f c.summary
  why := c.why.map f
  steps := c.steps.map f

theorem Copy.map_trimFor (f : String → String) (verbosity : Verbosity) (c : Copy) :
    (c.trimFor verbosity).map f = (c.map f).trimFor verbosity := by
  cases verbosity with
  | brief => simp only [trimFor, trimBrief, map, Option.map_none, List.map_take]
  | standard => rfl
  | guided => rfl

/-- What holds of every template of a variant, filled in, holds of its texts. -/
theorem Variant.map_copy {v : Variant} {f : String → String} {ctx ctx' : Template.Context}
    {rules rules' : Option Rules}
    (h : ∀ template ∈ v.templates, f (substitute rules (Template.render template ctx)) =
      substitute rules' (Template.render template ctx')) :
    (v.copy ctx rules).map f = v.copy ctx' rules' := by
  rw [Copy.map, copy, copy, Option.map_map, List.map_map]
  congr 1
  · exact h v.title (by simp [templates])
  · exact h v.summary (by simp [templates])
  · refine Option.map_congr fun s hs => h s ?_
    simp [templates, Option.mem_def.1 hs]
  · refine List.map_congr_left fun s hs => h s ?_
    simp [templates, hs]

theorem Variant.unescape_copy {v : Variant} (hv : ∀ s ∈ v.templates, Plain s)
    {rules : Option Rules} (hrules : ∀ rs ∈ rules, rs.Plain) {ctx : Template.Context}
    (h : (∀ rs ∈ rules, rs.SpareEntities) ∨ ctx.Plain) :
    (v.copy ctx.escaped rules).map unescape = v.copy ctx rules :=
  v.map_copy fun template ht => unescape_filled hrules h (hv template ht)

structure Deck.Plain (d : Deck) : Prop where
  texts : ∀ entry ∈ d.errors.entries, ∀ v ∈ entry.2.variants, ∀ s ∈ v.templates, Html.Plain s
  glossary : ∀ rules ∈ d.glossary.entries, rules.2.Plain

theorem Deck.Plain.glossaryFor {d : Deck} (h : d.Plain) (audience : String) :
    ∀ rules ∈ d.glossaryFor audience, rules.Plain := by
  intro rules hrules
  have hget := (Option.filter_eq_some_iff.1 hrules).1
  exact h.glossary _ (d.glossary.get?_eq_some_iff.1 hget)

structure Html.Cells.Says (c : Cells) (e : Explanation) : Prop where
  summary : unescape c.summary = e.summary
  why : c.why.map unescape = e.why
  steps : c.steps.map unescape = e.steps

namespace Explanation

theorem says_cells_fragment {d : Deck} {t : Trace} {v : Variant} {audience : Audience}
    (hv : ∀ s ∈ v.templates, Plain s) (hrules : ∀ rs ∈ d.glossaryFor audience.name, rs.Plain)
    (h : (∀ rs ∈ d.glossaryFor audience.name, rs.SpareEntities) ∨
      (Template.Context.ofTrace t d.labels).Plain)
    (key : EntryKey) (index : Nat) (verbosity : Verbosity) :
    (fragment d t v audience verbosity).cells.Says
      ((ofVariant d t key index v audience verbosity).trimFor verbosity) := by
  have hcopy := Variant.unescape_copy hv hrules h
  have htrim := Copy.map_trimFor unescape verbosity
    (v.copy (Template.Context.ofTrace t d.labels).escaped (d.glossaryFor audience.name))
  rw [hcopy] at htrim
  constructor
  · rw [summary_trimFor]
    exact (congrArg Copy.summary htrim).trans (Copy.summary_trimFor verbosity _)
  · rw [why_trimFor]
    exact (congrArg Copy.why htrim).trans (Copy.why_trimFor verbosity _)
  · rw [steps_trimFor]
    exact (congrArg Copy.steps htrim).trans (Copy.steps_trimFor verbosity _)

end Explanation

/-- A deck without characters that are written as entities. Read back from HTML, the title of a
fragment is that of the explanation. So are the summary, the rationale and the steps if no term of
the audience's vocabulary has to do with entities, or if no value is written with any. -/
theorem explain_display {g : Guide} {d : Deck} {r : Request} {e : Explanation} {html : String}
    (hd : g.deck = some d) (hplain : d.Plain) (he : g.explain r = .ok e)
    (hh : e.html = some html) :
    ∃ key index v, d.select e.trace = .matched key index v ∧
      let c := (Explanation.fragment d e.trace v r.audience r.verbosity).cells
      html = c.text ∧ unescape c.title = e.title ∧
      ((∀ rules ∈ d.glossaryFor r.audience.name, rules.SpareEntities) ∨
        (Template.Context.ofTrace e.trace d.labels).Plain → c.Says e) := by
  obtain ⟨key, index, v, hs, hev, rfl⟩ := Guide.ofVariant_of_html hd he hh
  obtain ⟨entry, hentry, hv⟩ := Deck.exists_mem_of_select hs
  have htitle : e.title = (v.copy _ (d.glossaryFor r.audience.name)).title :=
    (congrArg Explanation.title hev).trans (Explanation.title_trimFor _ _)
  refine ⟨key, index, v, hs, Html.Fragment.render_eq_text _, ?_, fun h => ?_⟩
  · rw [htitle]
    exact unescape_escape _
  · have hsays := Explanation.says_cells_fragment (hplain.texts entry hentry v hv)
      (hplain.glossaryFor r.audience.name) h key index r.verbosity
    rwa [← hev] at hsays

/-! A deck without characters that are written as entities, with one rule for one audience, and a
trace whose line of code has such characters. -/

def Variant.lineSample : Variant where
  title := "Unknown name"
  summary := "Look at {{codeLine}}."

def Deck.lineSample (term new : String) : Deck where
  edition := ⟨"en", .ofNat false 1⟩
  glossary := ⟨[("kid", ⟨[(term, new)], by simp⟩)], by simp⟩
  errors := ⟨[("NameError", ⟨[.lineSample]⟩)], by decide⟩

def Trace.lineSample : Trace := { Trace.sample "x" with codeLine := some "x = 'hi'" }

def Request.lineSample : Request := { input := .trace .lineSample, audience := .kid }

theorem Deck.plain_lineSample (term : String) {new : String} (h : Html.Plain new) :
    (lineSample term new).Plain where
  texts := by
    simp only [lineSample, List.forall_mem_singleton]
    decide
  glossary := List.forall_mem_singleton.2 (List.forall_mem_singleton.2 h)

theorem Deck.select_lineSample (term new : String) :
    (lineSample term new).select .lineSample = .matched (.kind "NameError") 0 .lineSample := rfl

theorem Guide.explain_lineSample (term new : String) :
    Guide.explain { deck := some (.lineSample term new) } .lineSample =
      .ok ((Deck.lineSample term new).explain .lineSample .kid .standard) :=
  explain_eq rfl _

/-- The term `=` has nothing to do with entities, so the quoted text reads as it should. -/
theorem explain_display_sample :
    ∃ e html, Guide.explain { deck := some (.lineSample "=" "gets") } .lineSample = .ok e ∧
      e.html = some html ∧ e.summary = "Look at x gets 'hi'." ∧
      (Explanation.fragment (.lineSample "=" "gets") .lineSample .lineSample .kid
        .standard).cells.Says e := by
  have hplain : (Deck.lineSample "=" "gets").Plain := Deck.plain_lineSample "=" (by decide)
  have hspare : ∀ rules ∈ (Deck.lineSample "=" "gets").glossaryFor "kid", rules.SpareEntities := by
    intro rules hrules
    obtain rfl := Option.some.inj hrules
    exact List.forall_mem_singleton.2 (by decide +kernel)
  obtain ⟨key, index, v, hv, -, -, hsays⟩ :=
    explain_display rfl hplain (Guide.explain_lineSample "=" "gets") rfl
  obtain ⟨rfl, rfl, rfl⟩ :=
    Selection.matched.inj ((Deck.select_lineSample "=" "gets").symm.trans hv)
  exact ⟨_, _, Guide.explain_lineSample "=" "gets", rfl, by decide +kernel, hsays (.inl hspare)⟩

/-- The term `#` meets the entity of the quotation mark, and the fragment says what the explanation
does not. -/
theorem not_forall_says_of_plain :
    ¬∀ (g : Guide) (d : Deck) (r : Request) (e : Explanation) (html : String),
      g.deck = some d → d.Plain → g.explain r = .ok e → e.html = some html →
      ∀ key index v, d.select e.trace = .matched key index v →
        (Explanation.fragment d e.trace v r.audience r.verbosity).cells.Says e := by
  intro h
  have hplain : (Deck.lineSample "#" "hash sign").Plain := Deck.plain_lineSample "#" (by decide)
  have hsays := h _ _ _ _ _ rfl hplain (Guide.explain_lineSample "#" "hash sign") rfl _ _ _
    (Deck.select_lineSample "#" "hash sign")
  exact absurd hsays.summary (by decide +kernel)

end ErrorGuide
