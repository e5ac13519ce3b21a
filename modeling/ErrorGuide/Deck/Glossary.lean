import ErrorGuide.Deck.Basic
import ErrorGuide.Pattern.Search

/-! Vocabulary: terms are patterns, and what they match is replaced word for word. -/

namespace ErrorGuide
open Pattern

/-- Replaces a term wherever it matches. A term that does not compile changes nothing. -/
def replaceTerm (text : String) (rule : String × String) : String :=
  match compile rule.1 with
  | .ok p => p.replaceAll rule.2 text
  | .error _ => text

/-- Applies rules one after another; later ones see what earlier ones have put in. -/
def Rules.substitute (rules : Rules) (text : String) : String := rules.entries.foldl replaceTerm text

def substitute (rules : Option Rules) (text : String) : String :=
  match rules with
  | some rules => rules.substitute text
  | none => text

end ErrorGuide
