import ErrorGuide.Patch.Kind
import ErrorGuide.Text.Scan
import ErrorGuide.Text.Trim
import ErrorGuide.Trace.Basic

/-! Patches: corrected forms of the offending line, each for one kind of error and one shape of the
line. -/

namespace ErrorGuide
open Text Unicode

structure PatchRule where
  id : String
  applies : Trace → Bool
  apply : Trace → Option String

namespace Patch

def ofKind (k : PatchKind) (t : Trace) : Bool := t.kind.bind PatchKind.ofName = some k

/-! A call of `push`, which lists do not have. -/

def pushCall : Scanner Unit := fun _ cs => do
  let cs ← exactly '.' cs
  let cs ← phrase "push".toList cs
  let cs ← exactly '(' (cs.dropWhile isBlank)
  return ((), cs)

def appendLine (line : List Char) : Option (List Char) :=
  (leftmost pushCall line).map fun found =>
    found.before ++ ".append(".toList ++ found.after

def listAppend : PatchRule where
  id := "list-append"
  applies t := ofKind .attributeError t && occurs pushCall t.codeText.toList
  apply t := (appendLine t.codeText.toList).map String.ofList

/-! A name that is not defined. -/

def missingName (t : Trace) : Option String := t.name.filter (· ≠ "")

def defineName : PatchRule where
  id := "define-name"
  applies t := ofKind .nameError t && (missingName t).isSome
  apply t := (missingName t).map fun name => name ++ " = 0\n" ++ t.codeText

/-! The head of a block without its colon. -/

def blockWords : List String :=
  ["if", "for", "while", "def", "class", "elif", "else", "try", "except", "finally", "with"]

def opensBlock (line : List Char) : Bool :=
  blockWords.contains (String.ofList ((line.dropWhile isBlank).takeWhile isWord))

def endsInColon (line : List Char) : Bool := line.getLast? = some ':'

def headLine (t : Trace) : List Char := dropTailWhile isBlank t.codeText.toList

def blockColon : PatchRule where
  id := "block-colon"
  applies t :=
    ofKind .syntaxError t && opensBlock (headLine t) && !endsInColon (headLine t)
  apply t :=
    if headLine t = [] ∨ endsInColon (headLine t) then none
    else some (String.ofList (headLine t ++ [':']))

/-! A value that is added to a text. -/

def isNameStart (c : Char) : Bool := c.isAlpha || c = '_'

def plusName : Scanner (List Char) := fun _ cs => do
  let cs ← exactly '+' cs
  match cs.dropWhile isBlank with
  | [] => none
  | c :: cs =>
    guard (isNameStart c)
    return (c :: cs.takeWhile isWord, cs.dropWhile isWord)

/-- The name is not used further: no call, no attribute, no index. -/
def standsAlone (after : List Char) : Bool :=
  match after.head? with
  | some c => c ≠ '(' && c ≠ '.' && c ≠ '['
  | none => true

def bareOperand : Scanner (List Char) := fun before cs => do
  let (name, after) ← plusName before cs
  guard (standsAlone after)
  return (name, after)

def convertLine (line : List Char) : Option (List Char) :=
  (leftmost bareOperand line).map fun found =>
    found.before ++ "+ str(".toList ++ found.value ++ ")".toList ++ found.after

def strConcat : PatchRule where
  id := "str-concat"
  applies t := ofKind .typeError t && occurs bareOperand t.codeText.toList
  apply t := (convertLine t.codeText.toList).map String.ofList

def catalog : List PatchRule := [listAppend, defineName, blockColon, strConcat]

end Patch

def Trace.patch (t : Trace) : Option String :=
  (Patch.catalog.find? (·.applies t)).bind (·.apply t)

end ErrorGuide
