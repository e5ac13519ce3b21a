import ErrorGuide.Html.Escape
import ErrorGuide.Text.Join

/-! The display fragment of an explanation. Its summary, rationale and steps are HTML already, since
a deck's texts may carry markup; the title, the patch and the details are plain text and are escaped
here. -/

namespace ErrorGuide.Html
open Text

structure Fragment where
  title : String
  summary : String
  why : Option String := none
  steps : List String := []
  patch : Option String := none
  detailsLabel : String
  details : String
deriving Repr, DecidableEq

namespace Fragment

def titlePart (title : String) : String :=
  "<div class=\"pfem__title\">" ++ escape title ++ "</div>"

def summaryPart (summary : String) : String :=
  "<div class=\"pfem__summary\">" ++ summary ++ "</div>"

def whyPart (why : String) : String := "<div class=\"pfem__why\">" ++ why ++ "</div>"

def stepsPart (steps : List String) : String :=
  "<ul class=\"pfem__steps\">" ++ concat (steps.map fun s => "<li>" ++ s ++ "</li>") ++ "</ul>"

def patchPart (patch : String) : String :=
  "<pre class=\"pfem__patch\">" ++ escape patch ++ "</pre>"

def detailsPart (label details : String) : String :=
  "<details class=\"pfem__details\"><summary>" ++ escape label ++ "</summary><pre>" ++
    escape details ++ "</pre></details>"

def parts (f : Fragment) : List String :=
  [titlePart f.title, summaryPart f.summary] ++ (f.why.map whyPart).toList ++
    (if f.steps = [] then [] else [stepsPart f.steps]) ++ (f.patch.map patchPart).toList ++
    [detailsPart f.detailsLabel f.details]

def render (f : Fragment) : String := join "\n" f.parts

end Fragment
end ErrorGuide.Html
