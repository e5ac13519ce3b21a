/-! The kinds of error that have a patch rule of their own. -/

namespace ErrorGuide

inductive PatchKind where
  | attributeError
  | nameError
  | syntaxError
  | typeError
deriving Repr, DecidableEq

namespace PatchKind

def name : PatchKind → String
  | .attributeError => "AttributeError"
  | .nameError => "NameError"
  | .syntaxError => "SyntaxError"
  | .typeError => "TypeError"

def all : List PatchKind := [.attributeError, .nameError, .syntaxError, .typeError]

def ofName (s : String) : Option PatchKind := all.find? (·.name = s)

end PatchKind
end ErrorGuide
