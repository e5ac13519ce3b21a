import ErrorGuide.Proofs.Deck.Glossary
import ErrorGuide.Proofs.Explanation.Outcome
import ErrorGuide.Proofs.Html.Markup
import ErrorGuide.Proofs.Template.Literals

/-! The markup of a fragment comes from the deck. Values are escaped before they are filled in, so
an error text and its source bring none, and vocabulary can only take some away. -/

namespace ErrorGuide
open Html

def Rules.BringNoMarkup (rules : Rules) : Prop := ∀ rule ∈ rules.entries, markup rule.2 = []

theorem markup_substitute_sublist {rules : Option Rules} (h : ∀ rs ∈ rules, rs.BringNoMarkup)
    (text : String) : (markup (substitute rules text)).Sublist (markup text) := by
  cases rules with
  | none => exact List.Sublist.refl _
  | some rs => exact Rules.filter_substitute_sublist (h rs rfl) text

namespace Template

theorem Context.filter_get_escaped (ctx : Context) (key : String) :
    (ctx.escaped.get key).toList.filter isMarkup = [] := by
  unfold Context.get Context.escaped
  repeat' split
  · exact markup_escape ctx.loc
  · exact markup_escape ctx.name
  · exact markup_escape ctx.codeLine
  · rfl

def ownMarkup (template : String) : List Char :=
  (literals (pieces template.toList)).filter isMarkup

theorem ownMarkup_sublist (template : String) : (ownMarkup template).Sublist (markup template) :=
  (literals_pieces_sublist template.toList).filter isMarkup

/-- Filled with escaped values, a template shows its own markup, whatever the values. -/
theorem markup_render_escaped (template : String) (ctx : Context) :
    markup (render template ctx.escaped) = ownMarkup template :=
  filter_render ctx.filter_get_escaped template

end Template

/-- A text of a fragment has no markup that its template has not. -/
theorem markup_filled_sublist {rules : Option Rules} (h : ∀ rs ∈ rules, rs.BringNoMarkup)
    (ctx : Template.Context) (template : String) :
    (markup (substitute rules (Template.render template ctx.escaped))).Sublist
      (markup template) := by
  have hs := markup_substitute_sublist h (Template.render template ctx.escaped)
  rw [Template.markup_render_escaped] at hs
  exact hs.trans (Template.ownMarkup_sublist template)

structure Html.Cells.Within (c : Cells) (v : Variant) : Prop where
  summary : (markup c.summary).Sublist (markup v.summary)
  why : ∀ s ∈ c.why, ∃ template ∈ v.why, (markup s).Sublist (markup template)
  steps : ∀ (i : Nat) (s : String), c.steps[i]? = some s →
    ∃ template, v.steps[i]? = some template ∧ (markup s).Sublist (markup template)

namespace Copy
variable (verbosity : Verbosity) (c : Copy)

@[simp] theorem summary_trimFor : (c.trimFor verbosity).summary = c.summary := by
  cases verbosity <;> rfl

theorem why_trimFor : (c.trimFor verbosity).why = if verbosity = .brief then none else c.why := by
  cases verbosity <;> rfl

theorem steps_trimFor :
    (c.trimFor verbosity).steps = if verbosity = .brief then c.steps.take 1 else c.steps := by
  cases verbosity <;> rfl

theorem mem_why_of_trimFor {w : String} (h : w ∈ (c.trimFor verbosity).why) : w ∈ c.why := by
  rw [why_trimFor] at h
  split at h
  · cases h
  · exact h

/-- A step that is kept keeps its place. -/
theorem getElem?_steps_of_trimFor {i : Nat} {s : String}
    (h : (c.trimFor verbosity).steps[i]? = some s) : c.steps[i]? = some s := by
  have hprefix : (c.trimFor verbosity).steps <+: c.steps := by
    rw [steps_trimFor]
    split
    · exact List.take_prefix 1 c.steps
    · exact List.prefix_refl c.steps
  obtain ⟨hi, rfl⟩ := List.getElem?_eq_some_iff.1 h
  exact List.prefix_iff_getElem?.1 hprefix i hi

end Copy

namespace Explanation
variable (d : Deck) (t : Trace) (v : Variant) (audience : Audience) (verbosity : Verbosity)

theorem within_cells_fragment (h : ∀ rs ∈ d.glossaryFor audience.name, rs.BringNoMarkup) :
    (fragment d t v audience verbosity).cells.Within v where
  summary := by
    rw [Fragment.cells, fragment]
    dsimp only
    rw [Copy.summary_trimFor]
    exact markup_filled_sublist h _ v.summary
  why := by
    intro s hs
    obtain ⟨template, ht, rfl⟩ := Option.map_eq_some_iff.1 (Copy.mem_why_of_trimFor verbosity _ hs)
    exact ⟨template, ht, markup_filled_sublist h _ template⟩
  steps := by
    intro i s hs
    have hfilled := Copy.getElem?_steps_of_trimFor verbosity _ hs
    rw [Variant.copy, List.getElem?_map] at hfilled
    obtain ⟨template, ht, rfl⟩ := Option.map_eq_some_iff.1 hfilled
    exact ⟨template, ht, markup_filled_sublist h _ template⟩

/-- Without vocabulary, traces that agree on whether there is a patch show the same markup. -/
theorem alike_cells_fragment {audience audience' : Audience} {t t' : Trace}
    (h : d.glossaryFor audience.name = none) (h' : d.glossaryFor audience'.name = none)
    (hpatch : t.patch.isSome = t'.patch.isSome) :
    (fragment d t v audience verbosity).cells.Alike (fragment d t' v audience' verbosity).cells where
  title := by simp [Fragment.cells]
  summary := by
    simp [Fragment.cells, fragment, Variant.copy, h, h', substitute,
      Template.markup_render_escaped]
  why := by
    cases verbosity <;>
      simp [Fragment.cells, fragment, Copy.why_trimFor, Variant.copy, h, h', substitute,
        Function.comp_def, Template.markup_render_escaped]
  steps := by
    cases verbosity <;>
      simp [Fragment.cells, fragment, Copy.steps_trimFor, Variant.copy, h, h', substitute,
        Function.comp_def, Template.markup_render_escaped]
  patch := by
    cases hp : t.patch <;> cases hp' : t'.patch <;>
      simp_all [Fragment.cells, fragment]
  detailsLabel := rfl
  details := by simp [Fragment.cells]

end Explanation

/-- What an error text, a trace or a source can do to the markup of a fragment. The title, the patch
and the details bring none at all. The summary, the rationale and the steps have at most the markup
of their templates, as long as the vocabulary brings in none. Without a vocabulary two explanations
by one variant show the same markup throughout. -/
theorem explain_markup {g : Guide} {d : Deck} {r : Request} {e : Explanation} {html : String}
    (hd : g.deck = some d) (he : g.explain r = .ok e) (hh : e.html = some html) :
    ∃ key index v, d.select e.trace = .matched key index v ∧
      let c := (Explanation.fragment d e.trace v r.audience r.verbosity).cells
      html = c.text ∧ c.title = escape e.title ∧ c.patch = e.patch.map escape ∧ c.Escaped ∧
      ((∀ rules ∈ d.glossaryFor r.audience.name, rules.BringNoMarkup) → c.Within v) ∧
      (d.glossaryFor r.audience.name = none →
        ∀ (g' : Guide) (r' : Request) (e' : Explanation) (html' : String),
          g'.deck = some d → g'.explain r' = .ok e' → e'.html = some html' →
          d.select e'.trace = .matched key index v → r'.verbosity = r.verbosity →
          d.glossaryFor r'.audience.name = none → e'.patch.isSome = e.patch.isSome →
          markup html' = markup html) := by
  obtain ⟨key, index, v, hs, hev, rfl⟩ := Guide.ofVariant_of_html hd he hh
  have htitle : e.title = (v.copy _ (d.glossaryFor r.audience.name)).title :=
    (congrArg Explanation.title hev).trans (Explanation.title_trimFor _ _)
  have hpatch : e.patch = e.trace.patch :=
    (congrArg Explanation.patch hev).trans (Explanation.patch_trimFor _ _)
  refine ⟨key, index, v, hs, Html.Fragment.render_eq_text _, ?_, ?_,
    Html.Fragment.escaped_cells _, Explanation.within_cells_fragment d e.trace v _ _, ?_⟩
  · rw [htitle]
    rfl
  · rw [hpatch]
    rfl
  · intro hnone g' r' e' html' hd' he' hh' hs' hverb hnone' hsome
    obtain ⟨key', index', v', hs'', hev', rfl⟩ := Guide.ofVariant_of_html hd' he' hh'
    obtain ⟨rfl, rfl, rfl⟩ := Selection.matched.inj (hs''.symm.trans hs')
    have hpatch' : e'.patch = e'.trace.patch :=
      (congrArg Explanation.patch hev').trans (Explanation.patch_trimFor _ _)
    rw [hpatch, hpatch'] at hsome
    rw [hverb, Html.Fragment.render_eq_text, Html.Fragment.render_eq_text]
    exact (Explanation.alike_cells_fragment d v' _ hnone' hnone hsome).markup_text

/-- A name that tries to open a tag shows the markup that any other name shows. -/
theorem explain_markup_sample :
    ∃ e html e' html',
      Guide.sample.explain { input := .trace (.sample "kittens") } = .ok e ∧ e.html = some html ∧
      Guide.sample.explain { input := .trace (.sample "<img src='x'>") } = .ok e' ∧
        e'.html = some html' ∧
      markup html' = markup html := by
  refine ⟨_, _, _, _, Guide.explain_sample "kittens", rfl, Guide.explain_sample "<img src='x'>",
    rfl, ?_⟩
  obtain ⟨key, index, v, hv, -, -, -, -, -, htwo⟩ :=
    explain_markup rfl (Guide.explain_sample "kittens") rfl
  have hs (name : String) : Deck.sample.select (.sample name) =
      .matched (.kind "NameError") 1 .sample := Deck.select_sample rfl rfl
  obtain ⟨rfl, rfl, rfl⟩ := Selection.matched.inj ((hs "kittens").symm.trans hv)
  exact htwo rfl Guide.sample _ _ _ rfl (Guide.explain_sample "<img src='x'>") rfl
    (hs "<img src='x'>") rfl rfl rfl

end ErrorGuide
