import Scaffold.Main
import Scaffold.Proofs.Dependency.Agreement
import Scaffold.Proofs.Dependency.History
import Scaffold.Proofs.Project.Generation
import Scaffold.Proofs.Template.Parsing
import Scaffold.Proofs.Artifact.Schedule
import Scaffold.Proofs.Artifact.Sections
import Scaffold.Proofs.Project.Isolation
import Scaffold.Proofs.Project.Naming
import Scaffold.Proofs.Template.Loading
import Scaffold.Proofs.Artifact.Writing
import Scaffold.Proofs.Version.Comparison
import Scaffold.Proofs.Token.Blame
import Scaffold.Proofs.Template.Substitution
import Scaffold.Proofs.Token.Offering
import Scaffold.Proofs.Project.Identifiers
import Scaffold.Proofs.Project.Overriding
import Scaffold.Proofs.Dependency.Spelling
import Scaffold.Proofs.Dependency.Storing
import Scaffold.Proofs.CommandLine.Probing
import Scaffold.Proofs.CommandLine.Offline
import Scaffold.Proofs.Token.Stacking
import Scaffold.Proofs.Template.Entries
import Scaffold.Proofs.Dependency.Tools
import Scaffold.Proofs.Toolchain.Machine
