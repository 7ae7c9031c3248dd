import Scaffold.CommandLine.Run
import Scaffold.Files.Listing

/-!
# The command

The files that the command works on are read from standard input as an archive. What the command
prints goes to standard output, and after it the files that it wrote, again as an archive; what it
reports goes to standard error.
-/

set_option autoImplicit false

namespace Scaffold

/-- The directory that the command works in. -/
def workDirectory : Location := ["home"]

/-- Reads lines up to the end of the input. -/
partial def readLines (next : IO String) : IO (List String) := do
  let line ← next
  if line.isEmpty then return []
  let text := if line.endsWith "\n" then (line.dropEnd 1).toString else line
  return text :: (← readLines next)

end Scaffold

open Scaffold in
/-- Runs the command. -/
def main (arguments : List String) : IO UInt32 := do
  let input ← IO.getStdin
  let lines ← readLines input.getLine
  let tree := Archive.ofLines Machine.plainTree workDirectory lines
  let compiler := (← IO.getEnv "CC").getD "cc"
  let packageTool := (← IO.getEnv "PKG_CONFIG").getD "pkg-config"
  let place : CommandLine.Workplace := ⟨⟨tree, workDirectory⟩, compiler, packageTool⟩
  let result := place.run arguments
  IO.print result.printed
  IO.print (CommandLine.textOfLines (Archive.changes tree result.tree workDirectory))
  IO.eprint result.reported
  return UInt32.ofNat result.code
