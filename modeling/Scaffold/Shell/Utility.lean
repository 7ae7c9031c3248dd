import Scaffold.Shell.Utility.Blocks
import Scaffold.Shell.Utility.Comparing
import Scaffold.Shell.Utility.Counting
import Scaffold.Shell.Utility.Cutting
import Scaffold.Shell.Utility.Digesting
import Scaffold.Shell.Utility.Dumping
import Scaffold.Shell.Utility.Editing
import Scaffold.Shell.Utility.Encoding
import Scaffold.Shell.Utility.Filing
import Scaffold.Shell.Utility.Finding
import Scaffold.Shell.Utility.Folding
import Scaffold.Shell.Utility.Grouping
import Scaffold.Shell.Utility.Inquiring
import Scaffold.Shell.Utility.Joining
import Scaffold.Shell.Utility.Listing
import Scaffold.Shell.Utility.Locating
import Scaffold.Shell.Utility.Manual
import Scaffold.Shell.Utility.Matching
import Scaffold.Shell.Utility.Moving
import Scaffold.Shell.Utility.Naming
import Scaffold.Shell.Utility.Ordering
import Scaffold.Shell.Utility.Portion
import Scaffold.Shell.Utility.Repeating
import Scaffold.Shell.Utility.Replacing
import Scaffold.Shell.Utility.Reporting
import Scaffold.Shell.Utility.Setting
import Scaffold.Shell.Utility.Showing
import Scaffold.Shell.Utility.Splitting
import Scaffold.Shell.Utility.Timing
import Scaffold.Shell.Utility.Wrapping

/-!
# The utilities of the system

The tables of all utilities, by their names: those that run alone, and those that have others run.
They are what scripts in the place of a compiler or a package tool start: to look through a probe
program or a table of packages, to leave files behind and compare them, to tell how often they ran,
and to wait. A name in neither table is that of no program of the system, as one that is for a
terminal, for pages, or for the accounts of users.
-/

set_option autoImplicit false

namespace Scaffold.Shell.Utility

/-- The utilities. -/
def all : List Utility :=
  copying ++ [dd] ++ ofPortions ++ ofCounting ++ ofReversing ++ ofFolding ++ ofGrouping ++
    ofJoining ++ ofLines ++ [sort] ++ ofCutting ++ ofReplacing ++ ofDumping ++ ofDigesting ++
    ofEncoding ++ ofFiling ++ ofMoving ++ ofLinking ++ ofListing ++ ofLocating ++ ofDescribing ++
    ofComparing ++ ofNaming ++ ofInquiring ++ ofMatching ++ [date, fmt, mkfifo]

/-- The utility of a name. -/
def ofName? (name : String) : Option Utility :=
  (all.find? (·.name == name)).map telling

/-- The utilities that have other programs run. -/
def launchers : List (String × (Task → Errand)) :=
  [("awk", awk), ("env", Errand.ofEnvironment), ("find", find), ("mawk", awk), ("nawk", awk),
    ("nice", Errand.ofNice), ("nohup", Errand.ofNohup), ("sed", sed),
    ("setsid", Errand.ofSession), ("split", Errand.ofSplit), ("timeout", Errand.ofTimeout),
    ("xargs", Errand.ofInput)]

/-- The utility of a name that has other programs run. -/
def launcher? (name : String) : Option (Task → Errand) :=
  (launchers.lookup name).map (tellingErrand name)

end Scaffold.Shell.Utility
