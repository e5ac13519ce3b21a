import ErrorGuide.Json.Basic

/-! Schemas of JSON documents, and how they are published. A schema with a name is published once,
under the definitions, and referred to elsewhere. -/

namespace ErrorGuide

structure Schema.Field where
  name : String
  description : Option String := none
  default : Option Json := none
  required : Bool := false

inductive Schema where
  | text
  | number
  | word
  | choice (names : List String)
  | nullable (s : Schema)
  | list (item : Schema)
  | map (value : Schema)
  | record (fields : List (Schema.Field × Schema))
  | named (name : String) (description : Option String) (s : Schema)

namespace Schema

def described : Option String → List (String × Json)
  | some s => [("description", .str s)]
  | none => []

def typed (name : String) : String × Json := ("type", .str name)

def orNull : List (String × Json) → List (String × Json)
  | ("type", .str t) :: rest => ("type", .arr [.str t, .str "null"]) :: rest
  | keywords => [("anyOf", .arr [.obj keywords, .obj [typed "null"]])]

def requiredNames (fields : List (Field × Schema)) : List String :=
  (fields.filter (·.1.required)).map (·.1.name)

mutual

def keywords : Schema → List (String × Json)
  | .text => [typed "string"]
  | .number => [typed "number", ("format", .str "double")]
  | .word => [typed "integer", ("format", .str "uint32"), ("minimum", .num (.whole 0))]
  | .choice names => [typed "string", ("enum", .arr (names.map .str))]
  | .nullable s => orNull s.keywords
  | .list item => [typed "array", ("items", .obj item.keywords)]
  | .map value => [typed "object", ("additionalProperties", .obj value.keywords)]
  | .record fields =>
    [typed "object", ("properties", .obj (properties fields))] ++
      match requiredNames fields with
      | [] => []
      | names => [("required", .arr (names.map .str))]
  | .named name _ _ => [("$ref", .str ("#/$defs/" ++ name))]

def properties : List (Field × Schema) → List (String × Json)
  | [] => []
  | (field, s) :: fields =>
    (field.name, .obj (described field.description ++ s.keywords ++
      (field.default.map (("default", ·))).toList)) :: properties fields

end

mutual

def definitions : Schema → List (String × Json)
  | .named name description s =>
    (name, .obj (described description ++ s.keywords)) :: s.definitions
  | .nullable s => s.definitions
  | .list item => item.definitions
  | .map value => value.definitions
  | .record fields => fieldDefinitions fields
  | _ => []

def fieldDefinitions : List (Field × Schema) → List (String × Json)
  | [] => []
  | (_, s) :: fields => s.definitions ++ fieldDefinitions fields

end

def dialect : String := "https://json-schema.org/draft/2020-12/schema"

def document : Schema → Json
  | .named name description s =>
    .obj ([("$schema", .str dialect), ("title", .str name)] ++ described description ++
      s.keywords ++ [("$defs", .obj s.definitions)])
  | s => .obj (("$schema", .str dialect) :: s.keywords ++ [("$defs", .obj s.definitions)])

end Schema
end ErrorGuide
