import LexicalRules.CommandLine

/-! # The program

Reads files from the disk, runs the command line and writes what comes of it.
-/

namespace LexicalRules
set_option autoImplicit false

/-- The read fault of a system error. The number of an error may come with its sign turned round. -/
def ReadFault.ofSystem (e : IO.Error) : ReadFault :=
  match e with
  | .noFileOrDirectory .. => missing
  | .noSuchThing .. => missing
  | .inappropriateType _ code _ =>
    if code = 20 ∨ code = 0 - 20 then notADirectory
    else if code = 21 ∨ code = 0 - 21 then isADirectory
    else other (toString e)
  | e => other (toString e)

def readTextFile (path : String) : IO (Except ReadFault String) := do
  try
    return textOfBytes (← IO.FS.readBinFile path)
  catch e =>
    return .error (.ofSystem e)

end LexicalRules

/-- Runs the command line on the disk. -/
def main (args : List String) : IO UInt32 := do
  let outcome ← LexicalRules.CommandLine.run LexicalRules.readTextFile args
  (← IO.getStdout).putStr outcome.output
  if let some complaint := outcome.complaint then
    (← IO.getStderr).putStr (complaint.text LexicalRules.Json.Fault.message)
  return outcome.code
