import ErrorGuide.Deck.Locale
import ErrorGuide.Files.Access

/-! Loading of decks from files: from a single file, or from a directory with one deck per locale. -/

namespace ErrorGuide

inductive DeckPlace where
  | file (path : String)
  | tree (root locale : String)
deriving Repr, DecidableEq

def deckFileName : String := "copydeck.json"

def deckPath (root locale : String) : String := joinPath (joinPath root locale) deckFileName

variable {m : Type → Type} [Monad m]

def readFile (files : FileReader m) (path : String) : ExceptT Failure m String :=
  ExceptT.mk do return (← files.read path).mapError (·.during ("read " ++ path))

/-- The deck of a locale, if there is one. A file that is missing is no fault, but one that cannot
be read is. -/
def fetchDeck (files : FileReader m) (root locale : String) :
    m (Except Failure (Option String)) := do
  let path := deckPath root locale
  match ← files.read path with
  | .ok text => return .ok (some text)
  | .error .notFound => return .ok none
  | .error f => return .error (f.during ("read " ++ path))

def loadFile (files : FileReader m) (path : String) : ExceptT Failure m Deck := do
  let text ← readFile files path
  (Deck.ofText text).mapError fun cause => (deckFailure cause).within ("load copy deck " ++ path)

structure Loading where
  loaded : LoadedDeck
  isOther : Bool

def loadDeck (files : FileReader m) : DeckPlace → ExceptT Failure m Loading
  | .file path => do
    let deck ← loadFile files path
    return ⟨⟨deck.edition.language, deck⟩, false⟩
  | .tree root locale => do
    let (_, result) ← ExceptT.lift (loadForLocale (fetchDeck files root) locale)
    match result with
    | .error none' => throw ⟨"load copy deck from " ++ root, [none'.message]⟩
    | .ok loaded => return ⟨loaded, loaded.locale ≠ locale⟩

end ErrorGuide
