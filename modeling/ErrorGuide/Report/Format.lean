import ErrorGuide.Html.Fragment
import ErrorGuide.Json.Printer
import ErrorGuide.Report.Markdown
import ErrorGuide.Report.Plain

/-! Output formats of explanations. -/

namespace ErrorGuide

inductive Format where
  | text
  | json
  | markdown
  | html
deriving Repr, DecidableEq

namespace Format

def name : Format → String
  | .text => "text"
  | .json => "json"
  | .markdown => "markdown"
  | .html => "html"

structure Unknown where
  name : String
deriving Repr, DecidableEq

def Unknown.message (u : Unknown) : String := "unknown output format: " ++ u.name

def ofName (s : String) : Except Unknown Format :=
  if s = "text" then .ok .text
  else if s = "json" then .ok .json
  else if s = "markdown" ∨ s = "md" then .ok .markdown
  else if s = "html" then .ok .html
  else .error ⟨s⟩

end Format

namespace Explanation

def detailsLine (trace : Trace) (labels : Labels) : String :=
  trace.kind.getD labels.errorText ++ ": " ++ trace.message

/-- A fragment made of finished texts, which are plain and so are escaped. -/
def plainFragment (e : Explanation) (labels : Labels) : Html.Fragment where
  title := e.title
  summary := Html.escape e.summary
  why := e.why.map Html.escape
  steps := e.steps.map Html.escape
  patch := e.patch
  detailsLabel := labels.errorDetailsText
  details := detailsLine e.trace labels

def render (e : Explanation) (labels : Labels) : Format → String
  | .text => e.plain
  | .markdown => e.markdown
  | .json => e.encode.toPretty ++ "\n"
  | .html => e.html.getD (e.plainFragment labels).render ++ "\n"

end Explanation
end ErrorGuide
