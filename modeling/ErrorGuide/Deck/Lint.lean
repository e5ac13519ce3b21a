import ErrorGuide.Deck.Basic
import ErrorGuide.Pattern.Search
import ErrorGuide.Text.Decimal
import ErrorGuide.Text.Join
import ErrorGuide.Text.Quoted
import ErrorGuide.Text.Trim

/-! Problems in decks. None of them stops a deck from being used, but each means that some text can
never be shown. -/

namespace ErrorGuide
open Text

inductive Lint where
  | noLanguage
  | noFallback
  | noVariants (kind : String)
  | noTitle (kind : String) (index : Nat)
  /-- A variant that always applies keeps later ones from being chosen. -/
  | shadowing (kind : String) (index later : Nat)
  | badPattern (kind : String) (index : Nat) (filter : Filter) (pattern : String)
      (fault : Pattern.Fault)
  | badTerm (audience term : String) (fault : Pattern.Fault)
deriving Repr, DecidableEq

namespace Lint

inductive Level where
  | error
  | warning
deriving Repr, DecidableEq

def Level.name : Level → String
  | .error => "error"
  | .warning => "warning"

def level : Lint → Level
  | .noLanguage => .error
  | .noFallback => .warning
  | .noVariants _ => .warning
  | .noTitle _ _ => .error
  | .shadowing _ _ _ => .warning
  | .badPattern _ _ _ _ _ => .error
  | .badTerm _ _ _ => .error

def number (n : Nat) : String := String.ofList (decimal n)

def variantPath (kind : String) (index : Nat) : String :=
  "errors." ++ kind ++ ".variants[" ++ number index ++ "]"

def path : Lint → String
  | .noLanguage => "meta.language"
  | .noFallback => "errors"
  | .noVariants kind => "errors." ++ kind
  | .noTitle kind index => variantPath kind index
  | .shadowing kind index _ => variantPath kind index
  | .badPattern kind index filter _ _ => variantPath kind index ++ ".if." ++ filter.name
  | .badTerm audience _ _ => "glossary." ++ audience

def message (wording : Pattern.Wording) : Lint → String
  | .noLanguage => "language tag is empty"
  | .noFallback =>
    "no '" ++ EntryKey.fallbackName ++
      "' entry; unmatched errors will use the built-in fallback copy"
  | .noVariants _ => "kind has no variants"
  | .noTitle _ _ => "title is empty"
  | .shadowing _ _ later => "unconditional variant shadows " ++ number later ++ " later variant(s)"
  | .badPattern _ _ _ pattern fault =>
    "pattern " ++ quoted pattern ++ " does not compile: " ++ wording pattern fault
  | .badTerm _ term fault => "term " ++ quoted term ++ " does not compile: " ++ wording term fault

def text (wording : Pattern.Wording) (l : Lint) : String :=
  "[" ++ l.level.name ++ "] " ++ l.path ++ ": " ++ l.message wording

def isError (l : Lint) : Bool := l.level = .error

def le (a b : Lint) : Bool :=
  if a.level = b.level then decide (a.path ≤ b.path) else a.isError

end Lint

def faultOf (pattern : String) : Option Pattern.Fault :=
  match Pattern.compile pattern with
  | .ok _ => none
  | .error f => some f

def Variant.lints (v : Variant) (kind : String) (index later : Nat) : List Lint :=
  (if isBlankText v.title then [.noTitle kind index] else []) ++
    (if v.isUnconditional && 0 < later then [.shadowing kind index later] else []) ++
    ((v.condition.map (·.patterns)).getD []).filterMap fun (filter, pattern) =>
      (faultOf pattern).map (.badPattern kind index filter pattern)

def KindEntry.lints (entry : KindEntry) (kind : String) : List Lint :=
  (if entry.variants = [] then [.noVariants kind] else []) ++
    entry.variants.zipIdx.flatMap fun (v, index) =>
      v.lints kind index (entry.variants.length - 1 - index)

def Rules.lints (rules : Rules) (audience : String) : List Lint :=
  rules.entries.filterMap fun (term, _) => (faultOf term).map (.badTerm audience term)

namespace Deck

def lints (d : Deck) : List Lint :=
  (if isBlankText d.edition.language then [.noLanguage] else []) ++
    (if d.hasKind EntryKey.fallbackName then [] else [.noFallback]) ++
    d.errors.entries.flatMap (fun (kind, entry) => entry.lints kind) ++
    d.glossary.entries.flatMap (fun (audience, rules) => rules.lints audience)

def check (d : Deck) : List Lint := d.lints.mergeSort Lint.le

end Deck

namespace Lint

def anyError (lints : List Lint) : Bool := lints.any isError

def exitCode (lints : List Lint) : UInt32 := if anyError lints then 1 else 0

/-- The text of every problem, and their numbers. -/
def report (wording : Pattern.Wording) (lints : List Lint) : String :=
  if lints.isEmpty then "copy deck OK\n"
  else
    let errors := (lints.filter isError).length
    concat (lints.map fun l => l.text wording ++ "\n") ++ "\n" ++ number errors ++ " error(s), " ++
      number (lints.length - errors) ++ " warning(s)\n"

end Lint
end ErrorGuide
