import ErrorGuide.Command.Run

/-! The program: it gives the commands their files, and prints what they leave behind. -/

namespace ErrorGuide.Program

def faultOf : IO.Error → FileFault
  | .noFileOrDirectory _ _ _ => .notFound
  | .inappropriateType _ code _ => if code = 20 then .notDirectory else .isDirectory
  | e => .other (toString e)

def textOf (bytes : ByteArray) : Except FileFault String :=
  match String.fromUTF8? bytes with
  | some text => .ok text
  | none => .error .notText

def reading (act : IO ByteArray) : IO (Except FileFault String) := do
  try
    return textOf (← act)
  catch e =>
    return .error (faultOf e)

def files : FileReader IO where
  read path :=
    if path.toList.contains '\x00' then return .error .nulInName
    else reading (IO.FS.readBinFile path)
  readInput := reading do (← IO.getStdin).readBinToEnd

/-- The report of a fault, without the line that points at its place. -/
def wording : Pattern.Wording
  | _, .tooLarge => Pattern.Fault.tooLarge.message
  | pattern, fault => "regex parse error:\n    " ++ pattern ++ "\nerror: " ++ fault.message

def finish (o : Command.Outcome) : IO UInt32 := do
  IO.print o.stdout
  for w in o.warnings do
    IO.eprintln ("WARN " ++ w)
  IO.eprint o.notes
  if let some f := o.failure then
    IO.eprintln f.report
  return o.exitCode

end ErrorGuide.Program

def main (args : List String) : IO UInt32 := do
  ErrorGuide.Program.finish
    (← ErrorGuide.Command.runLine ErrorGuide.Program.wording ErrorGuide.Program.files args)
