import ErrorGuide.Text.Trim
import ErrorGuide.Json.Decode

/-! Who reads an explanation, and how much of it. -/

namespace ErrorGuide

inductive Audience where
  | kid
  | beginner
  | intermediate
deriving Repr, DecidableEq

inductive Verbosity where
  | brief
  | standard
  | guided
deriving Repr, DecidableEq

def normalTag (s : String) : String := String.ofList ((Text.trim s).toList.map Char.toLower)

namespace Audience

def name : Audience → String
  | .kid => "kid"
  | .beginner => "beginner"
  | .intermediate => "intermediate"

def ofTag (s : String) : Audience :=
  if normalTag s = "kid" then .kid
  else if normalTag s = "intermediate" then .intermediate
  else .beginner

def choices : List (String × Audience) :=
  [("kid", .kid), ("beginner", .beginner), ("intermediate", .intermediate)]

def decode (origin : Json.Origin) : Json.Decoder Audience := Json.choice origin choices

def encode (a : Audience) : Json := .str a.name

end Audience

namespace Verbosity

def name : Verbosity → String
  | .brief => "brief"
  | .standard => "standard"
  | .guided => "guided"

def ofTag (s : String) : Verbosity :=
  if normalTag s = "brief" then .brief
  else if normalTag s = "guided" then .guided
  else .standard

def choices : List (String × Verbosity) :=
  [("brief", .brief), ("standard", .standard), ("guided", .guided)]

def decode (origin : Json.Origin) : Json.Decoder Verbosity := Json.choice origin choices

def encode (v : Verbosity) : Json := .str v.name

end Verbosity
end ErrorGuide
