/-! The command line: options and commands as they are written. Some options may stand before or
after the command; the later place counts. -/

namespace ErrorGuide.Command

structure Shared where
  deck : Option String := none
  decks : Option String := none
  locale : Option String := none
  verbose : Bool := false
deriving Repr, DecidableEq

structure ExplainOptions where
  errorFile : Option String := none
  code : Option String := none
  audience : Option String := none
  verbosity : Option String := none
  format : Option String := none
deriving Repr, DecidableEq

inductive Action where
  | explain (o : ExplainOptions)
  | checkDeck (file : String)
  | schema
deriving Repr, DecidableEq

inductive Line where
  | run (shared : Shared) (action : Action)
  | help
  | version
deriving Repr, DecidableEq

inductive Misuse where
  | unknownOption (option : String)
  | missingValue (option : String)
  | unexpectedValue (option : String)
  | repeated (option : String)
  | unknownCommand (name : String)
  | missingCommand
  | unexpectedArgument (argument : String)
  | missingArgument (name : String)
deriving Repr, DecidableEq

def Misuse.message : Misuse → String
  | .unknownOption option => "unexpected argument '" ++ option ++ "' found"
  | .missingValue option => "a value is required for '" ++ option ++ "' but none was supplied"
  | .unexpectedValue option => "unexpected value for '" ++ option ++ "' found"
  | .repeated option => "the argument '" ++ option ++ "' cannot be used multiple times"
  | .unknownCommand name => "unrecognized subcommand '" ++ name ++ "'"
  | .missingCommand => "'pfem' requires a subcommand but one was not provided"
  | .unexpectedArgument argument => "unexpected argument '" ++ argument ++ "' found"
  | .missingArgument name => "the required argument <" ++ name ++ "> was not provided"

inductive Token where
  | endOfOptions
  | long (name : String) (value : Option String)
  | short (letters : List Char)
  | plain (s : String)
deriving Repr, DecidableEq

/-- A single hyphen is a plain argument. -/
def Token.ofArgument (s : String) : Token :=
  match s.toList with
  | ['-', '-'] => .endOfOptions
  | '-' :: '-' :: cs =>
    let name := String.ofList (cs.takeWhile (· ≠ '='))
    match cs.dropWhile (· ≠ '=') with
    | [] => .long name none
    | _ :: value => .long name (some (String.ofList value))
  | '-' :: c :: cs => .short (c :: cs)
  | _ => .plain s

structure Read where
  values : List (String × String) := []
  verbose : Bool := false
  plain : List String := []
deriving Repr, DecidableEq

inductive Stop where
  | help
  | version
  | misuse (m : Misuse)
  | command (name : String) (r : Read) (rest : List String)

structure Level where
  valued : List String
  isTop : Bool

namespace Level

def giveValue (r : Read) (name value : String) : Except Stop Read :=
  if (r.values.lookup name).isSome then .error (.misuse (.repeated ("--" ++ name)))
  else .ok { r with values := (name, value) :: r.values }

def giveFlag (r : Read) : Except Stop Read :=
  if r.verbose then .error (.misuse (.repeated "--verbose")) else .ok { r with verbose := true }

def readLetters (level : Level) (r : Read) : List Char → Except Stop Read
  | [] => .ok r
  | c :: cs =>
    if c = 'v' then do
      let r ← giveFlag r
      readLetters level r cs
    else if c = 'h' then .error .help
    else if c = 'V' ∧ level.isTop then .error .version
    else .error (.misuse (.unknownOption (String.ofList ['-', c])))

def readFlag (level : Level) (r : Read) (name : String) (value : Option String) :
    Except Stop Read :=
  if ¬(name = "verbose" ∨ name = "help" ∨ (name = "version" ∧ level.isTop)) then
    .error (.misuse (.unknownOption ("--" ++ name)))
  else if value.isSome then .error (.misuse (.unexpectedValue ("--" ++ name)))
  else if name = "verbose" then giveFlag r
  else if name = "help" then .error .help
  else .error .version

def read (level : Level) (r : Read) : List String → Except Stop Read
  | [] => .ok r
  | arg :: rest => match Token.ofArgument arg with
    | .endOfOptions =>
      if level.isTop then
        .error (.misuse (match rest with
          | [] => .missingCommand
          | next :: _ => .unexpectedArgument next))
      else .ok { r with plain := r.plain ++ rest }
    | .short letters => do
      let r ← level.readLetters r letters
      level.read r rest
    | .plain s =>
      if level.isTop then .error (.command s r rest)
      else level.read { r with plain := r.plain ++ [s] } rest
    | .long name (some value) =>
      if level.valued.contains name then do
        let r ← giveValue r name value
        level.read r rest
      else do
        let r ← level.readFlag r name (some value)
        level.read r rest
    | .long name none =>
      if level.valued.contains name then
        match rest with
        | [] => .error (.misuse (.missingValue ("--" ++ name)))
        | value :: rest => match Token.ofArgument value with
          | .plain value => do
            let r ← giveValue r name value
            level.read r rest
          | _ => .error (.misuse (.missingValue ("--" ++ name)))
      else do
        let r ← level.readFlag r name none
        level.read r rest

end Level

def sharedNames : List String := ["deck", "decks", "locale"]

def explainNames : List String := ["error-file", "code", "audience", "verbosity", "format"]

def Read.shared (r : Read) : Shared where
  deck := r.values.lookup "deck"
  decks := r.values.lookup "decks"
  locale := r.values.lookup "locale"
  verbose := r.verbose

def Read.explainOptions (r : Read) : ExplainOptions where
  errorFile := r.values.lookup "error-file"
  code := r.values.lookup "code"
  audience := r.values.lookup "audience"
  verbosity := r.values.lookup "verbosity"
  format := r.values.lookup "format"

/-- Options after the command count before those in front of it. -/
def Shared.or (inner outer : Shared) : Shared where
  deck := inner.deck.or outer.deck
  decks := inner.decks.or outer.decks
  locale := inner.locale.or outer.locale
  verbose := inner.verbose || outer.verbose

def noMore : List String → Except Misuse Unit
  | [] => .ok ()
  | s :: _ => .error (.unexpectedArgument s)

def Action.ofRead (name : String) (r : Read) : Except Misuse Action :=
  match name with
  | "explain" => do
    noMore r.plain
    return .explain r.explainOptions
  | "check-deck" => match r.plain with
    | [] => .error (.missingArgument "FILE")
    | [file] => .ok (.checkDeck file)
    | _ :: extra :: _ => .error (.unexpectedArgument extra)
  | _ => do
    noMore r.plain
    return .schema

def commandNames : List String := ["explain", "check-deck", "schema"]

def helpLine : List String → Except Misuse Line
  | [] => .ok .help
  | [name] =>
    if name = "help" ∨ commandNames.contains name then .ok .help
    else .error (.unknownCommand name)
  | _ :: extra :: _ => .error (.unknownCommand extra)

def commandLine (name : String) (outer : Read) (rest : List String) : Except Misuse Line :=
  if name = "help" then helpLine rest
  else if ¬commandNames.contains name then .error (.unknownCommand name)
  else
    let names := if name = "explain" then sharedNames ++ explainNames else sharedNames
    match (Level.mk names false).read {} rest with
    | .ok inner => do
      let action ← Action.ofRead name inner
      return .run (inner.shared.or outer.shared) action
    | .error .help => .ok .help
    | .error .version => .ok .version
    | .error (.misuse m) => .error m
    | .error (.command other _ _) => .error (.unexpectedArgument other)

def Line.ofArguments (args : List String) : Except Misuse Line :=
  match (Level.mk sharedNames true).read {} args with
  | .ok _ => .error .missingCommand
  | .error .help => .ok .help
  | .error .version => .ok .version
  | .error (.misuse m) => .error m
  | .error (.command name outer rest) => commandLine name outer rest

end ErrorGuide.Command
