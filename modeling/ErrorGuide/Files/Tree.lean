import ErrorGuide.Data.OrderedMap
import ErrorGuide.Files.Access

/-! Trees of files that are held in memory. -/

namespace ErrorGuide

inductive FileNode where
  | file (text : Option String)
  | directory (entries : List (String × FileNode))

abbrev FileTree := List (String × FileNode)

namespace FileTree

def splitPath : List Char → List (List Char)
  | [] => [[]]
  | c :: cs =>
    if c = '/' then [] :: splitPath cs
    else match splitPath cs with
      | part :: parts => (c :: part) :: parts
      | [] => [[c]]

def pathParts (path : String) : List String := (splitPath path.toList).map String.ofList

/-- Follows the parts of a path; `above` holds the directories around, the innermost first. Nothing
is known outside of the tree. -/
def follow (above : List FileTree) : FileNode → List String → Except FileFault FileNode
  | node, [] => .ok node
  | .file _, _ :: _ => .error .notDirectory
  | .directory entries, part :: parts =>
    if part = "" ∨ part = "." then follow above (.directory entries) parts
    else if part = ".." then
      match above with
      | [] => .error .notFound
      | outer :: above => follow above (.directory outer) parts
    else match entries.lookup part with
      | none => .error .notFound
      | some node => follow (entries :: above) node parts

def find (t : FileTree) (path : String) : Except FileFault FileNode :=
  if path.toList.contains '\x00' then .error .nulInName
  else if path = "/" then .ok (.directory [])
  else if path = "" ∨ path.toList.head? = some '/' then .error .notFound
  else follow [] (.directory t) (pathParts path)

def read (t : FileTree) (path : String) : Except FileFault String :=
  match t.find path with
  | .error f => .error f
  | .ok (.directory _) => .error .isDirectory
  | .ok (.file none) => .error .notText
  | .ok (.file (some text)) => .ok text

def list (t : FileTree) (path : String) : Except FileFault (List String) :=
  match t.find path with
  | .error f => .error f
  | .ok (.file _) => .error .notDirectory
  | .ok (.directory entries) => .ok (entries.map (·.1))

def hasPath (t : FileTree) (path : String) : Bool := (t.find path).isOk

def isFile (t : FileTree) (path : String) : Bool :=
  match t.find path with
  | .ok (.file _) => true
  | _ => false

def putFile (text : Option String) : List String → FileTree → Except FileFault FileTree
  | [], _ => .error .isDirectory
  | [name], t => match t.lookup name with
    | some (.directory _) => .error .isDirectory
    | _ => .ok (putEntry name (.file text) t)
  | name :: parts, t => match t.lookup name with
    | none => .error .notFound
    | some (.file _) => .error .notDirectory
    | some (.directory entries) => do
      let entries ← putFile text parts entries
      return putEntry name (.directory entries) t

def putDirectory : List String → FileTree → Except FileFault FileTree
  | [], t => .ok t
  | name :: parts, t => match t.lookup name with
    | none => do
      let entries ← putDirectory parts []
      return putEntry name (.directory entries) t
    | some (.file _) => .error (if parts = [] then .exists else .notDirectory)
    | some (.directory entries) => do
      let entries ← putDirectory parts entries
      return putEntry name (.directory entries) t

def change (f : FileTree → Except FileFault FileTree) :
    StateM FileTree (Except FileFault Unit) := do
  match f (← get) with
  | .ok t => do
    set t
    return .ok ()
  | .error fault => return .error fault

def store (input : String) : FileStore (StateM FileTree) where
  read path := do return (← get).read path
  readInput := pure (.ok input)
  hasPath path := do return (← get).hasPath path
  isFile path := do return (← get).isFile path
  list path := do return (← get).list path
  makeDirectory path := change (putDirectory (pathParts path))
  write path text := change (putFile (some text) (pathParts path))

end FileTree
end ErrorGuide
