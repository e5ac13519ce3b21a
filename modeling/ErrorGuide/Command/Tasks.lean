import ErrorGuide.Command.Outcome
import ErrorGuide.Deck.Lint
import ErrorGuide.Deck.Loading
import ErrorGuide.Json.Same
import ErrorGuide.Schema.Catalog
import ErrorGuide.Schema.Validation

/-! Tasks for the authors of decks: publishing the schemas, and checking a collection of decks. -/

namespace ErrorGuide.Command.Tasks
open Text

def schemaDirectory : String := "schemas"

def deckDirectory : String := "crates/pfem-test-util/../../tests/fixtures/copydecks"

def unlines (ls : List String) : String := concat (ls.map (· ++ "\n"))

def bullets (items : List String) : List String := items.map ("  - " ++ ·)

def failing (f : Failure) (stdout notes : List String) : Outcome :=
  { Outcome.ofFailure (f.within "xtask failed") with
    stdout := unlines stdout, notes := unlines notes }

variable {m : Type → Type} [Monad m]

/-! Publishing of schemas. -/

def schemaPath (s : Schema.Published) : String := joinPath schemaDirectory s.fileName

def wrote (s : Schema.Published) : String := "Wrote " ++ schemaPath s

/-- Writes schemas after those that are done, which are in reverse. -/
def writeSchemas (files : FileStore m) (done : List Schema.Published) :
    List Schema.Published → m Outcome
  | [] => return { stdout := unlines (done.reverse.map wrote ++
      ["", "Schemas emitted successfully."]) }
  | s :: rest => do
    match ← files.write (schemaPath s) (s.schema.document.toPretty ++ "\n") with
    | .ok () => writeSchemas files (s :: done) rest
    | .error f =>
      return failing (f.during ("Failed to write schema to " ++ schemaPath s))
        (done.reverse.map wrote) []

def emitSchemas (files : FileStore m) : m Outcome := do
  match ← files.makeDirectory schemaDirectory with
  | .ok () => writeSchemas files [] Schema.published
  | .error f => return failing (f.during "Failed to create schemas directory") [] []

inductive Standing where
  | current
  | missing
  | outdated
deriving Repr, DecidableEq

def standing (files : FileStore m) (s : Schema.Published) : ExceptT Failure m Standing := do
  let path := schemaPath s
  if !(← ExceptT.lift (files.hasPath path)) then return .missing
  let text ← ExceptT.mk do
    return (← files.read path).mapError (·.during ("Failed to read " ++ path))
  let j ← (Json.ofText text).mapError fun f => Failure.mk ("Failed to parse " ++ path) [f.message]
  return if s.schema.document.same j then .current else .outdated

def headed (heading : String) : List String → List String
  | [] => []
  | items => heading :: bullets items

def validateSchemas (files : FileStore m) : m Outcome := do
  match ← (Schema.published.mapM fun s => do return (s.fileName, ← standing files s)).run with
  | .error f => return failing f [] []
  | .ok standings =>
    let named := fun st => (standings.filter (·.2 = st)).map (·.1)
    if standings.all (·.2 = .current) then
      return { stdout := "All schemas are up to date.\n" }
    else
      return failing ⟨"Schema validation failed", []⟩ []
        (headed "Missing schemas:" (named .missing) ++
          headed "Schemas out of date:" (named .outdated) ++
          ["", "Run `cargo xtask emit-schemas` to regenerate."])

/-! Checking of decks. -/

def collect (files : FileStore m) : ExceptT Failure m (List (String × String)) := do
  let names ← ExceptT.mk do
    return (← files.list deckDirectory).mapError (·.during "Failed to list fixture decks")
  let present ← ExceptT.lift (names.filterM fun name => files.isFile (deckPath deckDirectory name))
  return (present.mergeSort fun a b => decide (a ≤ b)).map fun name =>
    (name, deckPath deckDirectory name)

structure Examined where
  locale : String
  deck : Option Deck
  problems : List String

def deckProblems (wording : Pattern.Wording) (locale : String) (d : Deck) : List String :=
  (if d.edition.language = locale then []
    else ["meta.language is '" ++ d.edition.language ++ "'"]) ++
    (d.lints.filter Lint.isError).map (·.text wording)

def examine (wording : Pattern.Wording) (locale text : String) (j : Json) : Examined :=
  let invalid := List.replicate (Schema.deck.violations j) "schema validation"
  let (deck, problems) := match Deck.ofText text with
    | .ok d => (some d, deckProblems wording locale d)
    | .error cause => (none, [(deckFailure cause).oneLine])
  ⟨locale, deck, (invalid ++ problems).map ((locale ++ ": ") ++ ·)⟩

def examineFile (wording : Pattern.Wording) (files : FileStore m) (deck : String × String) :
    ExceptT Failure m Examined := do
  let (locale, path) := deck
  let text ← ExceptT.mk do
    return (← files.read path).mapError (·.during ("Failed to read " ++ path))
  let j ← (Json.ofText text).mapError fun f =>
    Failure.mk ("Failed to parse " ++ path ++ " as JSON") [f.message]
  return examine wording locale text j

def foreignKinds (english : Deck) (locale : String) (d : Deck) : List String :=
  (d.errors.keys.filter (!english.hasKind ·)).map fun kind =>
    locale ++ ": kind '" ++ kind ++ "' has no English entry"

def readable (examined : List Examined) : List (String × Deck) :=
  examined.filterMap fun e => e.deck.map (e.locale, ·)

def problems (examined : List Examined) : List String :=
  let decks := readable examined
  examined.flatMap (·.problems) ++
    match decks.lookup Locale.default with
    | some english => decks.flatMap fun (locale, d) => foreignKinds english locale d
    | none => ["no '" ++ Locale.default ++ "' fixture deck"]

def number (n : Nat) : String := String.ofList (decimal n)

def verdict (examined : List Examined) : Outcome :=
  match problems examined with
  | [] => { stdout := unlines [
      "✓ " ++ number examined.length ++ " fixture decks validate against the schema",
      "✓ no lint errors", "", "✓ All deck coverage checks passed!"] }
  | found =>
    failing ⟨"Deck coverage failed with " ++ number found.length ++ " errors", []⟩ []
      (bullets found)

def examineAll (wording : Pattern.Wording) (files : FileStore m) :
    ExceptT Failure m (List Examined) := do
  let decks ← collect files
  if decks.isEmpty then throw ⟨"no fixture decks under " ++ deckDirectory, []⟩
  decks.mapM (examineFile wording files)

def deckCoverage (wording : Pattern.Wording) (files : FileStore m) : m Outcome := do
  match ← (examineAll wording files).run with
  | .error f => return failing f [] []
  | .ok examined => return verdict examined

/-! The tasks by name. -/

def helpLines : List String := [
  "xtask commands:",
  "  help              Show this message",
  "  emit-schemas      Generate JSON schemas from Rust types to schemas/",
  "  validate-schemas  Check if schemas/ matches generated output (for CI)",
  "  print-schema-ids  Print known schema IDs",
  "  deck-coverage     Validate fixture copy decks (schema, lints, kinds)"]

def schemaId (s : Schema.Published) : String :=
  String.ofList (s.fileName.toList.take (s.fileName.length - ".json".length))

def unknownTask (name : String) : Failure :=
  ⟨"unknown xtask command: " ++ name ++ "\n\nRun `cargo xtask help` for usage.", []⟩

def run (wording : Pattern.Wording) (files : FileStore m) (args : List String) : m Outcome :=
  match args.head?.getD "help" with
  | "help" => return { notes := unlines helpLines }
  | "--help" => return { notes := unlines helpLines }
  | "-h" => return { notes := unlines helpLines }
  | "emit-schemas" => emitSchemas files
  | "validate-schemas" => validateSchemas files
  | "deck-coverage" => deckCoverage wording files
  | "print-schema-ids" => return { stdout := unlines (Schema.published.map schemaId) }
  | other => return .ofFailure (unknownTask other)

end ErrorGuide.Command.Tasks
