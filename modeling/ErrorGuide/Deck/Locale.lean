import ErrorGuide.Deck.Codec
import ErrorGuide.Failure
import ErrorGuide.Text.Trim

/-! Locales: which decks to try for a requested one, and the first that can be used. -/

namespace ErrorGuide
open Text

namespace Locale

def default : String := "en"

def base? (locale : String) : Option String :=
  let cs := locale.toList
  let base := cs.takeWhile (· ≠ '-')
  if base.length < cs.length ∧ base ≠ [] then some (String.ofList base) else none

def requested (locale : String) : List String :=
  if locale = "" then [] else locale :: (base? locale).toList

def candidates (locale : String) : List String :=
  let own := requested (trim locale)
  if own.contains default then own else own ++ [default]

end Locale

structure LoadedDeck where
  locale : String
  deck : Deck
deriving DecidableEq

/-- No candidate had a usable deck; those that had one or should have had come with their faults. -/
structure NoDeck where
  candidates : List String
  faults : List (String × String)
deriving Repr, DecidableEq

def NoDeck.message (n : NoDeck) : String :=
  "no copy deck found for " ++ join ", " n.candidates ++
    if n.faults.isEmpty then ""
    else " (" ++ join "; " (n.faults.map fun (locale, fault) => locale ++ ": " ++ fault) ++
      ")"

structure Search where
  asked : List String
  outcome : Except (List (String × String)) LoadedDeck

def deckFailure (cause : Json.Cause) : Failure := ⟨"parse copy deck json", [cause.message]⟩

/-- Asks for the candidates in order up to the first usable deck. An absent deck is no fault. -/
def searchDecks {m : Type → Type} [Monad m] (fetch : String → m (Except Failure (Option String))) :
    List String → m Search
  | [] => pure ⟨[], .error []⟩
  | locale :: rest => do
    let continueWith (faults : List (String × String)) : m Search := do
      let search ← searchDecks fetch rest
      pure ⟨locale :: search.asked, search.outcome.mapError (faults ++ ·)⟩
    match ← fetch locale with
    | .error f => continueWith [(locale, f.oneLine)]
    | .ok none => continueWith []
    | .ok (some text) => match Deck.ofText text with
      | .error cause => continueWith [(locale, (deckFailure cause).oneLine)]
      | .ok deck => pure ⟨[locale], .ok ⟨locale, deck⟩⟩

def loadForLocale {m : Type → Type} [Monad m] (fetch : String → m (Except Failure (Option String)))
    (locale : String) : m (List String × Except NoDeck LoadedDeck) := do
  let search ← searchDecks fetch (Locale.candidates locale)
  pure (search.asked, search.outcome.mapError fun faults => ⟨Locale.candidates locale, faults⟩)

end ErrorGuide
