import ErrorGuide.Command.Line
import ErrorGuide.Command.Outcome
import ErrorGuide.Deck.Lint
import ErrorGuide.Deck.Loading
import ErrorGuide.Explanation.Input
import ErrorGuide.Schema.Catalog

/-! The commands. -/

namespace ErrorGuide.Command
open Text

/-- Where the options tell to look for the deck. A single file counts before a directory. -/
def Shared.place (s : Shared) : DeckPlace :=
  match s.deck with
  | some path => .file path
  | none => .tree (s.decks.getD "copydecks") (s.locale.getD Locale.default)

def otherDeck (place : DeckPlace) (l : Loading) : List String :=
  match place with
  | .tree _ locale =>
    if l.isOther then
      ["no copy deck for requested locale requested=" ++ locale ++ " using=" ++ l.loaded.locale]
    else []
  | .file _ => []

variable {m : Type → Type} [Monad m]

def readError (files : FileReader m) : Option String → ExceptT Failure m String
  | some path => readFile files path
  | none =>
    ExceptT.mk do return (← files.readInput).mapError (·.during "read error text from stdin")

def readCode (files : FileReader m) : Option String → ExceptT Failure m (Option String)
  | some path => do return some (← readFile files path)
  | none => return none

/-- All that an explanation needs; it is read before anything is explained. -/
structure Materials where
  format : Format
  error : String
  code : Option String
  loading : Loading

def gather (files : FileReader m) (place : DeckPlace) (o : ExplainOptions) :
    ExceptT Failure m Materials := do
  let format ← (Format.ofName (o.format.getD "text")).mapError fun f => Failure.mk f.message []
  let error ← readError files o.errorFile
  let code ← readCode files o.code
  let loading ← loadDeck files place
  return ⟨format, error, code, loading⟩

def explain (files : FileReader m) (place : DeckPlace) (o : ExplainOptions) : m Outcome := do
  match ← (gather files place o).run with
  | .error f => return .ofFailure f
  | .ok given =>
    let deck := given.loading.loaded.deck
    let warnings := otherDeck place given.loading
    let audience := Audience.ofTag (o.audience.getD "beginner")
    let verbosity := Verbosity.ofTag (o.verbosity.getD "standard")
    match explainText deck given.error given.code audience verbosity with
    | .error f => return { Outcome.ofFailure f with warnings }
    | .ok e => return { stdout := e.render deck.labels given.format, warnings }

def lintFile (files : FileReader m) (path : String) : ExceptT Failure m (List Lint) := do
  let text ← readFile files path
  match Deck.ofText text with
  | .ok deck => return deck.check
  | .error cause => throw ((deckFailure cause).within ("check " ++ path))

def checkDeck (wording : Pattern.Wording) (files : FileReader m) (path : String) :
    m Outcome := do
  match ← (lintFile files path).run with
  | .error f => return .ofFailure f
  | .ok lints => return { stdout := Lint.report wording lints, exitCode := Lint.exitCode lints }

def schema : Outcome := { stdout := Schema.deck.document.toPretty ++ "\n" }

def Action.run (wording : Pattern.Wording) (files : FileReader m) (shared : Shared) :
    Action → m Outcome
  | .explain o => Command.explain files shared.place o
  | .checkDeck path => Command.checkDeck wording files path
  | .schema => return Command.schema

def versionText : String := "pfem 0.1.0"

def helpText : String :=
  join "\n" [
    "Friendly explanations for Python error messages", "",
    "Usage: pfem [OPTIONS] <COMMAND>", "",
    "Commands:",
    "  explain     Explain an error message",
    "  check-deck  Lint a copy deck; exits 1 when any lint is an error",
    "  schema      Print the copy deck JSON schema",
    "  help        Print this message or the help of the given subcommand(s)", "",
    "Options:",
    "      --deck <DECK>      Copy deck file; overrides --decks/--locale",
    "      --decks <DECKS>    Directory of decks laid out as <dir>/<locale>/copydeck.json " ++
      "[default: copydecks]",
    "      --locale <LOCALE>  Locale to load (falls back to the base language, then en) " ++
      "[default: en]",
    "  -v, --verbose          Log debug output to stderr (RUST_LOG takes precedence)",
    "  -h, --help             Print help",
    "  -V, --version          Print version"]

def misuseCode : UInt32 := 2

def runLine (wording : Pattern.Wording) (files : FileReader m) (args : List String) :
    m Outcome :=
  match Line.ofArguments args with
  | .error misuse => return { notes := "error: " ++ misuse.message ++ "\n", exitCode := misuseCode }
  | .ok .help => return { stdout := helpText ++ "\n" }
  | .ok .version => return { stdout := versionText ++ "\n" }
  | .ok (.run shared action) => action.run wording files shared

end ErrorGuide.Command
