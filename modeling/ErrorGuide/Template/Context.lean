import ErrorGuide.Deck.Basic
import ErrorGuide.Html.Escape
import ErrorGuide.Template.Basic
import ErrorGuide.Text.Decimal
import ErrorGuide.Trace.Basic

/-! What a trace gives to templates. -/

namespace ErrorGuide

/-- The place of an error in words: `line 1 in name`, or as much of it as is known. -/
def Trace.location (t : Trace) (l : Labels) : String :=
  match t.line, t.file with
  | some line, some file =>
    l.lineText ++ " " ++ String.ofList (Text.decimal line.toNat) ++ " " ++ l.inText ++ " " ++ file
  | some line, none => l.lineText ++ " " ++ String.ofList (Text.decimal line.toNat)
  | none, some file => file
  | none, none => l.thisFileText

namespace Template.Context

def ofTrace (t : Trace) (l : Labels) : Context where
  loc := t.location l
  name := t.name.getD ""
  codeLine := t.codeText

def escaped (ctx : Context) : Context where
  loc := Html.escape ctx.loc
  name := Html.escape ctx.name
  codeLine := Html.escape ctx.codeLine

end Template.Context
end ErrorGuide
