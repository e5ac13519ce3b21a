import ErrorGuide.Failure

/-! Access to files, in whatever way it is given. -/

namespace ErrorGuide

inductive FileFault where
  | notFound
  | exists
  | notDirectory
  | isDirectory
  /-- The bytes are no UTF-8 text. -/
  | notText
  | nulInName
  | other (message : String)
deriving Repr, DecidableEq

namespace FileFault

def message : FileFault → String
  | .notFound => "No such file or directory (os error 2)"
  | .exists => "File exists (os error 17)"
  | .notDirectory => "Not a directory (os error 20)"
  | .isDirectory => "Is a directory (os error 21)"
  | .notText => "stream did not contain valid UTF-8"
  | .nulInName => "file name contained an unexpected NUL byte"
  | .other message => message

def during (f : FileFault) (action : String) : Failure := ⟨action, [f.message]⟩

end FileFault

structure FileReader (m : Type → Type) where
  read : String → m (Except FileFault String)
  readInput : m (Except FileFault String)

structure FileStore (m : Type → Type) extends FileReader m where
  hasPath : String → m Bool
  isFile : String → m Bool
  /-- The names in a directory, in any order. -/
  list : String → m (Except FileFault (List String))
  makeDirectory : String → m (Except FileFault Unit)
  write : String → String → m (Except FileFault Unit)

/-- A name inside a directory. An absolute name stays as it is. -/
def joinPath (directory name : String) : String :=
  if directory = "" ∨ name.toList.head? = some '/' then name
  else if directory.toList.getLast? = some '/' then directory ++ name
  else directory ++ "/" ++ name

end ErrorGuide
