import Scaffold.Dependency.Basic
import Scaffold.Token.Table

/-!
# How a dependency is satisfied

The outcome of looking for a dependency, with the flags that go with it. The macros to define follow
from the outcome alone (`Finding.new`), and so do the tokens that templates read (`Finding.tokens`),
flags aside.
-/

set_option autoImplicit false

namespace Scaffold

/-- How a dependency is satisfied. -/
inductive Outcome
  | disabled
  | systemPackage
  | systemManual
  | absent
  | localFallback
  deriving DecidableEq, Repr

namespace Outcome

/-- The name of an outcome in output. -/
def text : Outcome → String
  | disabled => "disabled"
  | systemPackage => "system-pkg-config"
  | systemManual => "system-manual"
  | absent => "absent"
  | localFallback => "local-fallback"

/-- Every outcome. -/
def all : List Outcome :=
  [disabled, systemPackage, systemManual, absent, localFallback]

/-- An installed copy is used. -/
def isSystem : Outcome → Bool
  | systemPackage | systemManual => true
  | disabled | absent | localFallback => false

/-- A copy is used, installed or bundled. -/
def providesLibrary (outcome : Outcome) : Bool :=
  outcome.isSystem || outcome == localFallback

/-- The answer recorded for the build. -/
def cacheValue : Outcome → String
  | systemPackage | systemManual => "yes"
  | localFallback => "local"
  | disabled | absent => "no"

end Outcome

/-- The outcome for a dependency, with its macros, flags, and the place the flags point at. -/
structure Finding where
  outcome : Outcome
  defines : Table String
  cppflags : List String
  ldflags : List String
  source : Option Path
  deriving DecidableEq

namespace Finding

/-- The digit of a truth value. -/
def digit (value : Bool) : String :=
  if value then "1" else "0"

/-- The finding of an outcome; its macros follow from the outcome. -/
def new (dependency : Dependency) (outcome : Outcome) (cppflags ldflags : List String)
    (source : Option Path) : Finding :=
  let have_ := Table.empty.insert dependency.haveDefine (digit outcome.providesLibrary)
  let defines :=
    if outcome = .localFallback then have_.insert dependency.haveLocalDefine "1" else have_
  ⟨outcome, defines, cppflags, ldflags, source⟩

/-- The macros as texts `NAME=VALUE`, in name order. -/
def definePairs (finding : Finding) : List String :=
  finding.defines.entries.map fun (name, value) ↦ name ++ "=" ++ value

/-- The tokens that the macro file of a dependency is rendered with. -/
def tokens (finding : Finding) (dependency : Dependency) : TokenTable :=
  let whenSystem (text : String) : String := if finding.outcome.isSystem then text else ""
  Table.ofList [
    ("dependency_name", dependency.name),
    ("library_id", dependency.libraryId),
    ("min_version", dependency.minVersion),
    ("probe_outcome", finding.outcome.text),
    ("ac_cv_value", finding.outcome.cacheValue),
    ("have_library", digit finding.outcome.providesLibrary),
    ("have_local_library", digit (finding.outcome == .localFallback)),
    ("cppflags", Text.joinWith " " finding.cppflags),
    ("ldflags", Text.joinWith " " finding.ldflags),
    ("pc_libs_private", whenSystem ("-l" ++ dependency.linkName)),
    ("spec_requires", whenSystem dependency.libraryId),
    ("spec_build_requires", whenSystem (dependency.libraryId ++ "-devel"))]

end Finding

end Scaffold
