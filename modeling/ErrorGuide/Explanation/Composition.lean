import ErrorGuide.Deck.Glossary
import ErrorGuide.Deck.Selection
import ErrorGuide.Explanation.Basic
import ErrorGuide.Patch.Rule
import ErrorGuide.Report.Format
import ErrorGuide.Template.Context

/-! Explanations made from a deck: the texts of the selected variant with their placeholders filled,
in the vocabulary of the audience, once plain and once as HTML. -/

namespace ErrorGuide

structure Copy where
  title : String
  summary : String
  why : Option String
  steps : List String
deriving Repr, DecidableEq

namespace Copy

def trimBrief (c : Copy) : Copy := { c with why := none, steps := c.steps.take 1 }

def trimFor (verbosity : Verbosity) (c : Copy) : Copy :=
  match verbosity with
  | .brief => c.trimBrief
  | .standard => c
  | .guided => c

end Copy

def Variant.copy (v : Variant) (ctx : Template.Context) (rules : Option Rules) : Copy :=
  let fill := fun template => substitute rules (Template.render template ctx)
  { title := fill v.title, summary := fill v.summary, why := v.why.map fill
    steps := v.steps.map fill }

namespace Explanation

/-- The fragment of a variant. Its texts are filled with escaped values, except for the title. -/
def fragment (d : Deck) (t : Trace) (v : Variant) (audience : Audience) (verbosity : Verbosity) :
    Html.Fragment :=
  let rules := d.glossaryFor audience.name
  let ctx := Template.Context.ofTrace t d.labels
  let markup := (v.copy ctx.escaped rules).trimFor verbosity
  { title := (v.copy ctx rules).title
    summary := markup.summary
    why := markup.why
    steps := markup.steps
    patch := t.patch
    detailsLabel := d.labels.errorDetailsText
    details := detailsLine t d.labels }

def ofVariant (d : Deck) (t : Trace) (key : EntryKey) (index : Nat) (v : Variant)
    (audience : Audience) (verbosity : Verbosity) : Explanation :=
  let copy := v.copy (Template.Context.ofTrace t d.labels) (d.glossaryFor audience.name)
  { trace := t
    variantId := VariantId.ofKey key index
    title := copy.title
    summary := copy.summary
    why := copy.why
    steps := copy.steps
    badges := v.badges
    patch := t.patch
    html := some (fragment d t v audience verbosity).render }

def fallback (l : Labels) (t : Trace) : Explanation where
  trace := t
  variantId := VariantId.fallback
  title := l.pythonErrorText
  summary := l.fallbackSummaryText
  why := some l.fallbackWhyText
  steps := [l.fallbackStepText]

def trimFor (verbosity : Verbosity) (e : Explanation) : Explanation :=
  match verbosity with
  | .brief => e.trimBrief
  | .standard => e
  | .guided => e

end Explanation

def Deck.explain (d : Deck) (t : Trace) (audience : Audience) (verbosity : Verbosity) :
    Explanation :=
  let e := match d.select t with
    | .matched key index v => Explanation.ofVariant d t key index v audience verbosity
    | .noEntry _ => Explanation.fallback d.labels t
    | .noMatch _ => Explanation.fallback d.labels t
  e.trimFor verbosity

end ErrorGuide
