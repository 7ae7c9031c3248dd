import Scaffold.Dependency.Environment
import Scaffold.Fault
import Scaffold.Text.Octets

/-!
# Asking the tools

A toolchain answers the questions about a system by running a package tool and a compiler
(`Toolchain.answer`). How a run ends is for the system to say, so an answer is a dialogue with it;
only a run that finished with success counts for anything. The compiler runs in a directory of its
own that holds a probe program.
-/

set_option autoImplicit false

namespace Scaffold

/-- How the run of a tool ended. -/
inductive ToolRun
  | finished (isSuccess : Bool) (output : List UInt8)
  /-- The directory with the probe program could not be made. -/
  | unprepared (error : SystemError)
  | notStarted (error : SystemError)
  | timedOut
  deriving DecidableEq, Repr

namespace ToolRun

/-- The run finished with success. -/
def isSuccess : ToolRun → Bool
  | finished isSuccess _ => isSuccess
  | _ => false

/-- Output as text, without blanks at its ends. -/
def trimmed (output : List UInt8) : String :=
  Text.trim (Text.Utf8.decodeLossy output)

/-- The words printed by a run that finished with success. -/
def words? : ToolRun → Option (List String)
  | finished true output => some (Text.words (trimmed output))
  | _ => none

end ToolRun

/-- One run of a tool: its arguments, and the program in the directory it runs in, if it gets a
directory of its own. -/
structure ToolCall where
  program : String
  arguments : List String
  probe : Option String
  deriving DecidableEq, Repr

/-- What there is to ask a system: to run a tool, and whether a path exists. -/
inductive ToolQuery
  | run (call : ToolCall)
  | pathExists (path : Path)
  deriving DecidableEq, Repr

/-- What a system replies. -/
abbrev ToolQuery.Reply : ToolQuery → Type
  | run _ => ToolRun
  | pathExists _ => Bool

/-- Tool runs one after the other, up to a result. -/
abbrev ToolSession := Dialogue ToolQuery.Reply

/-- The tools, and how long they may run. -/
structure Toolchain where
  compiler : String
  packageTool : String
  /-- Milliseconds that a run may take. -/
  timeLimit : Nat
  deriving DecidableEq, Repr

namespace Toolchain

/-- The file that holds a probe program. -/
def probeFile : String := "conftest.c"

/-- The file that a probe program is linked to. -/
def probeOutput : String := "conftest"

/-- The program that includes a header. -/
def headerProbe (header : String) : String :=
  "#include <" ++ header ++ ">\n"

/-- The program that declares a symbol and calls it. -/
def linkProbe (symbol : String) : String :=
  "char " ++ symbol ++ "(void);\nint main(void)\n\x7b\n\treturn( (int) " ++ symbol ++
    "() );\n\x7d\n"

/-- Runs a tool. -/
def call (call : ToolCall) : ToolSession ToolRun :=
  Dialogue.ask (.run call) .done

/-- Asks the package tool about a module. -/
def query (tools : Toolchain) (flag module : String) : ToolSession ToolRun :=
  call ⟨tools.packageTool, [flag, module], none⟩

/-- Looks a module up: its version, and then its flags. -/
def lookUp (tools : Toolchain) (module : String) : ToolSession PackageLookup := do
  match ← tools.query "--modversion" module with
  | .finished true output =>
    let cflags := (← tools.query "--cflags" module).words?
    let libs := (← tools.query "--libs" module).words?
    match cflags, libs with
    | some cflags, some libs => return .found (ToolRun.trimmed output) cflags libs
    | _, _ => return .notFound
  | .finished false _ => return .notFound
  | .unprepared _ => return .unavailable
  | .notStarted _ => return .unavailable
  | .timedOut => return .unavailable

/-- Runs the preprocessor over a program that includes a header. -/
def includesHeader (tools : Toolchain) (header : String) (cppflags : List String) :
    ToolSession Bool := do
  let arguments := "-E" :: cppflags ++ [probeFile]
  return (← call ⟨tools.compiler, arguments, some (headerProbe header)⟩).isSuccess

/-- Links a program that calls a symbol. -/
def linksSymbol (tools : Toolchain) (symbol : String) (ldflags : List String) :
    ToolSession LinkCheck := do
  let arguments := [probeFile, "-o", probeOutput] ++ ldflags
  match ← call ⟨tools.compiler, arguments, some (linkProbe symbol)⟩ with
  | .finished true _ => return .linked
  | .finished false _ => return .missing
  | .unprepared error => return .inconclusive ("unable to write link probe: " ++ error.message)
  | .notStarted error =>
    return .inconclusive ("unable to run " ++ tools.compiler ++ ": " ++ error.message)
  | .timedOut =>
    return .inconclusive (tools.compiler ++ " timed out after " ++
      toString (tools.timeLimit / 1000) ++ " seconds")

/-- The answer of the tools to a question. -/
def answer (tools : Toolchain) : (question : Question) → ToolSession question.Answer
  | .packageConfig module => tools.lookUp module
  | .hasHeader header cppflags => tools.includesHeader header cppflags
  | .linkSymbol symbol ldflags => tools.linksSymbol symbol ldflags
  | .pathExists path => Dialogue.ask (.pathExists path) .done

end Toolchain

end Scaffold
