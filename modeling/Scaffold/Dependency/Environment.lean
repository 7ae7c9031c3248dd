import Scaffold.Dialogue
import Scaffold.Path
import Scaffold.Table

/-!
# Build environments

There are four questions to ask about the system that a library is built on (`Question`). An
`Inquiry` asks some of them, one after the other, and ends with a result. An environment answers
every question, always in the same way; `Inquiry.answer` and `Inquiry.questions` are the result and
the questions asked there. `KnownAnswers` is an environment that answers from lists, and with no
where the lists hold nothing.
-/

set_option autoImplicit false

namespace Scaffold

/-- The answer of a package database about a module. -/
inductive PackageLookup
  | unavailable
  | notFound
  | found (version : String) (cflags libs : List String)
  deriving DecidableEq, Repr

/-- The answer of linking a program that calls a symbol. -/
inductive LinkCheck
  | linked
  | missing
  | inconclusive (reason : String)
  deriving DecidableEq, Repr

/-- What there is to ask. -/
inductive Question
  | packageConfig (module : String)
  | hasHeader (header : String) (cppflags : List String)
  | linkSymbol (symbol : String) (ldflags : List String)
  | pathExists (path : Path)
  deriving DecidableEq, Repr

/-- What a question is answered with. -/
abbrev Question.Answer : Question → Type
  | packageConfig _ => PackageLookup
  | hasHeader _ _ => Bool
  | linkSymbol _ _ => LinkCheck
  | pathExists _ => Bool

/-- Questions asked one after the other, up to a result. -/
abbrev Inquiry := Dialogue Question.Answer

/-- The answers to all questions. -/
structure Environment where
  packageConfig : String → PackageLookup
  hasHeader : String → List String → Bool
  linkSymbol : String → List String → LinkCheck
  pathExists : Path → Bool

/-- The answer to a question. -/
def Environment.answer (environment : Environment) : (question : Question) → question.Answer
  | .packageConfig module => environment.packageConfig module
  | .hasHeader header cppflags => environment.hasHeader header cppflags
  | .linkSymbol symbol ldflags => environment.linkSymbol symbol ldflags
  | .pathExists path => environment.pathExists path

namespace Inquiry

variable {α : Type}

/-- Asks the package database about a module. -/
def askPackage (module : String) : Inquiry PackageLookup :=
  Dialogue.ask (.packageConfig module) .done

/-- Asks whether a header can be included. -/
def askHeader (header : String) (cppflags : List String) : Inquiry Bool :=
  Dialogue.ask (.hasHeader header cppflags) .done

/-- Asks whether a symbol can be linked. -/
def askLink (symbol : String) (ldflags : List String) : Inquiry LinkCheck :=
  Dialogue.ask (.linkSymbol symbol ldflags) .done

/-- Asks whether a path exists. -/
def askPath (path : Path) : Inquiry Bool :=
  Dialogue.ask (.pathExists path) .done

/-- What an inquiry ends with in an environment. -/
abbrev answer (inquiry : Inquiry α) (environment : Environment) : α :=
  inquiry.result environment.answer

/-- What an inquiry asks in an environment. -/
abbrev questions (inquiry : Inquiry α) (environment : Environment) : List Question :=
  inquiry.queries environment.answer

end Inquiry

/-- Answers given as lists; a later package or symbol replaces an earlier one of the same name. -/
structure KnownAnswers where
  hasPackageConfig : Bool
  packages : List (String × (String × List String × List String))
  headers : List String
  symbols : List (String × LinkCheck)
  paths : List Path

namespace KnownAnswers

/-- Nothing is known. -/
def none : KnownAnswers :=
  ⟨false, [], [], [], []⟩

/-- The environment that gives these answers. Any package makes the package database available. -/
def environment (known : KnownAnswers) : Environment where
  packageConfig module :=
    if known.hasPackageConfig || !known.packages.isEmpty then
      match (Table.ofList known.packages).find? module with
      | some (version, cflags, libs) => .found version cflags libs
      | Option.none => .notFound
    else .unavailable
  hasHeader header _ := known.headers.contains header
  linkSymbol symbol _ := ((Table.ofList known.symbols).find? symbol).getD .missing
  pathExists path := known.paths.any path.same

end KnownAnswers

end Scaffold
