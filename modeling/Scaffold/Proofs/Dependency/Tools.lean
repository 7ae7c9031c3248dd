import Scaffold.Proofs.Dependency.Conversation
import Scaffold.Proofs.Text.Cutting
import Scaffold.Toolchain.Run

/-!
# What tools must tell for a library to be found

A decision about a dependency is carried out by running tools, and how a run ends is not for it to
say: a tool may not start, may take too long or may fail, and may do so right after a run that
succeeded. So nothing is assumed about how the runs end.

What is known of a decision as an inquiry, which asks what is on its agenda up to the answer that
settles it, is put together with what is known of the runs behind each answer (`answer_endsAfter`).
A lookup finds a module only by three runs that succeed, and the other answers take one run each
(`LooksUp`, `Answers`). From that every run is accounted for, and so is what the decision comes to
(`decision_endsAfter`), in every system (`decision_trusts_success_alone`).
-/

set_option autoImplicit false

namespace Scaffold

/-! ### Runs -/

/-- A query to a system with its reply. -/
abbrev ToolExchange : Type :=
  Dialogue.Exchange ToolQuery.Reply

namespace ToolRun

theorem isSuccess_iff {run : ToolRun} :
    run.isSuccess = true ↔ ∃ output, run = .finished true output := by
  match run with
  | .finished true output => simp [isSuccess]
  | .finished false _ | .unprepared _ | .notStarted _ | .timedOut => simp [isSuccess]

theorem words?_eq_none_iff {run : ToolRun} : run.words? = none ↔ run.isSuccess = false := by
  match run with
  | .finished true output => simp [isSuccess, words?]
  | .finished false _ | .unprepared _ | .notStarted _ | .timedOut => simp [isSuccess, words?]

/-- The words of a run that finished with success are those of its output. -/
theorem words?_eq_some_iff {run : ToolRun} {words : List String} :
    run.words? = some words ↔
      ∃ output, run = .finished true output ∧
        Text.words (Text.Utf8.decodeLossy output) = words := by
  match run with
  | .finished true output => simp [words?, trimmed, Text.words_trim]
  | .finished false _ | .unprepared _ | .notStarted _ | .timedOut => simp [words?]

end ToolRun

namespace Toolchain

variable (tools : Toolchain)

/-- The run of the package tool that asks for something about a module. -/
def packageCall (flag module : String) : ToolCall :=
  ⟨tools.packageTool, [flag, module], none⟩

/-- The run of the preprocessor that includes a header. -/
def headerCall (header : String) (cppflags : List String) : ToolCall :=
  ⟨tools.compiler, "-E" :: cppflags ++ [probeFile], some (headerProbe header)⟩

/-- The run of the compiler that links a symbol. -/
def linkCall (symbol : String) (ldflags : List String) : ToolCall :=
  ⟨tools.compiler, [probeFile, "-o", probeOutput] ++ ldflags, some (linkProbe symbol)⟩

/-- The three runs of a lookup, each with how it ended. -/
def lookUpRuns (module : String) (version cflags libs : ToolRun) : List ToolExchange :=
  [⟨.run (tools.packageCall "--modversion" module), version⟩,
    ⟨.run (tools.packageCall "--cflags" module), cflags⟩,
    ⟨.run (tools.packageCall "--libs" module), libs⟩]

/-- The runs that a lookup takes, and what it comes to: without a version nothing else is asked, and
a module is found if its version and both kinds of flags are told. -/
inductive LooksUp (module : String) : List ToolExchange → PackageLookup → Prop
  | unknown {version : ToolRun} {lookup : PackageLookup} (hfails : version.isSuccess = false)
      (hlookup : lookup = .notFound ∨ lookup = .unavailable) :
      LooksUp module [⟨.run (tools.packageCall "--modversion" module), version⟩] lookup
  | flagless {version : List UInt8} {cflags libs : ToolRun}
      (hfails : cflags.isSuccess = false ∨ libs.isSuccess = false) :
      LooksUp module (tools.lookUpRuns module (.finished true version) cflags libs) .notFound
  | found (version cflags libs : List UInt8) :
      LooksUp module
        (tools.lookUpRuns module (.finished true version) (.finished true cflags)
          (.finished true libs))
        (.found (Text.trim (Text.Utf8.decodeLossy version))
          (Text.words (Text.Utf8.decodeLossy cflags)) (Text.words (Text.Utf8.decodeLossy libs)))

/-- The runs that the answer to a question takes, and what it comes to. -/
def Answers : (question : Question) → List ToolExchange → question.Answer → Prop
  | .packageConfig module, talk, lookup => tools.LooksUp module talk lookup
  | .hasHeader header cppflags, talk, isThere =>
    ∃ run : ToolRun, talk = [⟨.run (tools.headerCall header cppflags), run⟩] ∧
      isThere = run.isSuccess
  | .linkSymbol symbol ldflags, talk, check =>
    ∃ run : ToolRun, talk = [⟨.run (tools.linkCall symbol ldflags), run⟩] ∧
      (check = .linked ↔ run.isSuccess = true)
  | .pathExists path, talk, isThere => talk = [⟨.pathExists path, isThere⟩]

theorem lookUp_endsAfter (module : String) :
    (tools.lookUp module).EndsAfter (tools.LooksUp module) := by
  refine Dialogue.endsAfter_ask_bind.mpr fun version ↦ ?_
  match version with
  | .finished false _ => exact .unknown rfl (.inl rfl)
  | .unprepared _ | .notStarted _ | .timedOut => exact .unknown rfl (.inr rfl)
  | .finished true output =>
    refine Dialogue.endsAfter_ask_bind.mpr fun cflags ↦ ?_
    refine Dialogue.endsAfter_ask_bind.mpr fun libs ↦ ?_
    cases hcflags : cflags.words? with
    | none => exact .flagless (.inl (ToolRun.words?_eq_none_iff.mp hcflags))
    | some first =>
      cases hlibs : libs.words? with
      | none => exact .flagless (.inr (ToolRun.words?_eq_none_iff.mp hlibs))
      | some second =>
        obtain ⟨cflags, rfl, rfl⟩ := ToolRun.words?_eq_some_iff.mp hcflags
        obtain ⟨libs, rfl, rfl⟩ := ToolRun.words?_eq_some_iff.mp hlibs
        exact .found output cflags libs

theorem answer_endsAfter (question : Question) :
    (tools.answer question).EndsAfter (tools.Answers question) := by
  cases question with
  | packageConfig module => exact tools.lookUp_endsAfter module
  | hasHeader header cppflags => exact fun run ↦ ⟨run, rfl, rfl⟩
  | linkSymbol symbol ldflags =>
    refine Dialogue.endsAfter_ask_bind.mpr fun run ↦ ?_
    match run with
    | .finished true _ => exact ⟨_, rfl, iff_of_true rfl rfl⟩
    | .finished false _ | .unprepared _ | .notStarted _ | .timedOut =>
      exact ⟨_, rfl, iff_of_false nofun nofun⟩
  | pathExists path => exact fun isThere ↦ rfl

section

variable {tools} {talk : List Exchange} {inner : List ToolExchange}

theorem LooksUp.exists_flag {module : String} {lookup : PackageLookup} {own : List ToolExchange}
    (hlooksUp : tools.LooksUp module own lookup) {call : ToolCall} {run : ToolRun}
    (hrun : ⟨.run call, run⟩ ∈ own) : ∃ flag, call = tools.packageCall flag module := by
  have hown : ∀ exchange ∈ own, ∃ flag other,
      exchange = ⟨.run (tools.packageCall flag module), other⟩ := by
    cases hlooksUp <;> simp [lookUpRuns, packageCall]
  obtain ⟨flag, other, hcall⟩ := hown _ hrun
  cases hcall
  exact ⟨flag, rfl⟩

/-- A lookup with a run that goes wrong finds nothing. -/
theorem LooksUp.not_reaches {module minimum : String} {lookup : PackageLookup}
    {own : List ToolExchange} (hlooksUp : tools.LooksUp module own lookup) {call : ToolCall}
    {run : ToolRun} (hrun : ⟨.run call, run⟩ ∈ own) (hfails : run.isSuccess = false) :
    ¬ lookup.Reaches minimum := by
  cases hlooksUp with
  | unknown _ hlookup => rcases hlookup with rfl | rfl <;> exact not_false
  | flagless _ => exact not_false
  | found version cflags libs =>
    simp only [lookUpRuns, List.mem_cons, List.not_mem_nil, or_false] at hrun
    rcases hrun with heq | heq | heq <;> cases heq <;> cases hfails

theorem looksUp_found_iff {module version : String} {cflags libs : List String}
    {own : List ToolExchange} :
    tools.LooksUp module own (.found version cflags libs) ↔
      ∃ first second third : List UInt8,
        own = tools.lookUpRuns module (.finished true first) (.finished true second)
          (.finished true third) ∧
        Text.trim (Text.Utf8.decodeLossy first) = version ∧
        Text.SplitsInto (Text.Utf8.decodeLossy second).toList cflags ∧
        Text.SplitsInto (Text.Utf8.decodeLossy third).toList libs := by
  simp only [Text.splitsInto_iff]
  constructor
  · rintro (⟨_, hlookup⟩ | _ | ⟨first, second, third⟩)
    · simp at hlookup
    · exact ⟨first, second, third, rfl, rfl, rfl, rfl⟩
  · rintro ⟨first, second, third, rfl, rfl, rfl, rfl⟩
    exact .found first second third

/-- After a success the package tool is asked for flags. -/
theorem LooksUp.length_eq {module : String} {lookup : PackageLookup} {own : List ToolExchange}
    (hlooksUp : tools.LooksUp module own lookup) {call : ToolCall} {output : List UInt8}
    (hrun : ⟨.run call, .finished true output⟩ ∈ own) : own.length = 3 := by
  cases hlooksUp with
  | unknown hfails _ =>
    cases List.mem_singleton.mp hrun
    cases hfails
  | flagless _ => rfl
  | found version cflags libs => rfl

/-- A lookup whose three runs succeed finds the module. -/
theorem LooksUp.eq_found {module : String} {lookup : PackageLookup}
    {version cflags libs : List UInt8}
    (hlooksUp : tools.LooksUp module (tools.lookUpRuns module (.finished true version)
      (.finished true cflags) (.finished true libs)) lookup) :
    lookup = .found (Text.trim (Text.Utf8.decodeLossy version))
      (Text.words (Text.Utf8.decodeLossy cflags)) (Text.words (Text.Utf8.decodeLossy libs)) := by
  generalize htalk : tools.lookUpRuns module (.finished true version) (.finished true cflags)
    (.finished true libs) = own at hlooksUp
  cases hlooksUp with
  | unknown => simp [lookUpRuns] at htalk
  | flagless hfails =>
    simp only [lookUpRuns, List.cons.injEq, Sigma.mk.injEq, heq_eq_eq, true_and, and_true] at htalk
    obtain ⟨-, rfl, rfl⟩ := htalk
    simp [ToolRun.isSuccess] at hfails
  | found first second third =>
    simp only [lookUpRuns, List.cons.injEq, Sigma.mk.injEq, heq_eq_eq, true_and, and_true,
      ToolRun.finished.injEq] at htalk
    obtain ⟨rfl, rfl, rfl⟩ := htalk
    rfl

/-- Every run is one of a lookup, or asks for a header, or links a symbol. -/
theorem exists_question_of_run (hcarries : Dialogue.Carries tools.Answers talk inner)
    {call : ToolCall} {run : ToolRun} (hrun : ⟨.run call, run⟩ ∈ inner) :
    (∃ (module : String) (lookup : PackageLookup) (flag : String)
        (before own after : List ToolExchange),
      ⟨.packageConfig module, lookup⟩ ∈ talk ∧ call = tools.packageCall flag module ∧
      inner = before ++ own ++ after ∧ tools.LooksUp module own lookup ∧ ⟨.run call, run⟩ ∈ own) ∨
    (∃ header cppflags, ⟨.hasHeader header cppflags, run.isSuccess⟩ ∈ talk ∧
      call = tools.headerCall header cppflags) ∨
    ∃ (symbol : String) (ldflags : List String) (check : LinkCheck),
      ⟨.linkSymbol symbol ldflags, check⟩ ∈ talk ∧ call = tools.linkCall symbol ldflags ∧
      (check = .linked ↔ run.isSuccess = true) := by
  obtain ⟨question, reply, before, own, after, htalk, hinner, hown, hanswers⟩ :=
    hcarries.exists_reply hrun
  cases question with
  | packageConfig module =>
    obtain ⟨flag, hcall⟩ := hanswers.exists_flag hown
    exact .inl ⟨module, reply, flag, before, own, after, htalk, hcall, hinner, hanswers, hown⟩
  | hasHeader header cppflags =>
    obtain ⟨_, rfl, rfl⟩ := hanswers
    cases List.mem_singleton.mp hown
    exact .inr (.inl ⟨header, cppflags, htalk, rfl⟩)
  | linkSymbol symbol ldflags =>
    obtain ⟨_, rfl, hcheck⟩ := hanswers
    cases List.mem_singleton.mp hown
    exact .inr (.inr ⟨symbol, ldflags, reply, htalk, rfl, hcheck⟩)
  | pathExists path =>
    obtain rfl := hanswers
    cases List.mem_singleton.mp hown

end

/-! ### The decision -/

/-- The package tool told of the library: its three runs succeeded, the version is not below the
minimum, and the flags are the words that the other two printed. -/
def IsPackaged (dependency : Dependency) (talk : List ToolExchange) (finding : Finding) : Prop :=
  ∃ version cflags libs : List UInt8,
    talk = tools.lookUpRuns dependency.libraryId (.finished true version) (.finished true cflags)
      (.finished true libs) ∧
    Version.meetsMinimum (Text.trim (Text.Utf8.decodeLossy version)) dependency.minVersion = true ∧
    Text.SplitsInto (Text.Utf8.decodeLossy cflags).toList finding.cppflags ∧
    Text.SplitsInto (Text.Utf8.decodeLossy libs).toList finding.ldflags ∧
    finding = .new dependency .systemPackage finding.cppflags finding.ldflags none

/-- The compiler could use the library: with the flags that were found, the header was included and
then the symbol linked, and nothing was run after that. -/
def IsUsed (dependency : Dependency) (talk : List ToolExchange) (finding : Finding) : Prop :=
  ∃ before header link, talk = before ++ [
    ⟨.run (tools.headerCall dependency.header finding.cppflags), .finished true header⟩,
    ⟨.run (tools.linkCall dependency.symbol finding.ldflags), .finished true link⟩]

/-- How a run bears on a decision. One that goes wrong makes its stage a miss: after a miss of the
package tool the compiler is run, and its miss is final. -/
inductive BearsOn (dependency : Dependency) (talk : List ToolExchange)
    (answer : Except Fault Finding) : ToolCall → ToolRun → Prop
  | package (flag : String) {run : ToolRun}
      (hmiss : run.isSuccess = false →
        (∃ next, ⟨.run (tools.headerCall dependency.header []), next⟩ ∈ talk) ∧
          (answer = .ok dependency.installed ∨ answer = dependency.missed)) :
      BearsOn dependency talk answer (tools.packageCall flag dependency.libraryId) run
  | header (cppflags : List String) {run : ToolRun}
      (hmiss : run.isSuccess = false → answer = dependency.missed) :
      BearsOn dependency talk answer (tools.headerCall dependency.header cppflags) run
  | link (ldflags : List String) {run : ToolRun}
      (hends : answer = if run.isSuccess then .ok dependency.installed else dependency.missed) :
      BearsOn dependency talk answer (tools.linkCall dependency.symbol ldflags) run

/-- What a decision comes to follows from how the runs of the tools ended. -/
structure Accounts (dependency : Dependency) (talk : List ToolExchange)
    (answer : Except Fault Finding) : Prop where
  package : ∀ finding, answer = .ok finding ∧ finding.outcome = .systemPackage ↔
    tools.IsPackaged dependency talk finding
  flags : ∀ finding, answer = .ok finding → finding.outcome = .systemPackage →
    ∀ flag ∈ finding.cppflags ++ finding.ldflags, flag ≠ ""
  manual : ∀ finding, answer = .ok finding → finding.outcome = .systemManual →
    tools.IsUsed dependency talk finding
  runs : ∀ call run, ⟨.run call, run⟩ ∈ talk → tools.BearsOn dependency talk answer call run
  faults : ∀ fault, answer = .error fault →
    dependency.override = .required ∨ ∃ path, dependency.override = .path path

section

variable {tools} {dependency : Dependency} {talk : List Exchange} {inner : List ToolExchange}
  {answer : Except Fault Finding}

theorem accounts_of_disabled :
    tools.Accounts dependency [] (.ok (.new dependency .disabled [] [] none)) where
  package := by
    refine fun finding ↦ iff_of_false ?_ ?_
    · rintro ⟨⟨⟩, ⟨⟩⟩
    · rintro ⟨_, _, _, hruns, -⟩
      cases hruns
  flags := by
    rintro _ ⟨⟩ ⟨⟩
  manual := by
    rintro _ ⟨⟩ ⟨⟩
  runs := nofun
  faults := nofun

/-- What is found by the package tool is told by three runs that succeed. -/
theorem isPackaged_of_systemPackage
    (hcarries : Dialogue.Carries tools.Answers talk inner) {finding : Finding}
    (hsettled : dependency.IsSettled talk (.ok finding)) (hfor : finding.IsFor dependency)
    (hbacked : dependency.IsBacked talk finding) (houtcome : finding.outcome = .systemPackage) :
    tools.IsPackaged dependency inner finding := by
  rw [Dependency.IsBacked, houtcome] at hbacked
  obtain ⟨⟨version, rfl⟩, hsource⟩ := hbacked
  rw [Finding.IsFor, houtcome, hsource] at hfor
  obtain ⟨own, rest, rfl, hlooksUp, hrest⟩ := Dialogue.carries_cons_iff.mp hcarries
  obtain rfl := Dialogue.carries_nil_iff.mp hrest
  obtain ⟨first, second, third, rfl, rfl, hcflags, hlibs⟩ := looksUp_found_iff.mp hlooksUp
  exact ⟨first, second, third, List.append_nil _, hsettled.settles_of_singleton, hcflags, hlibs,
    hfor⟩

/-- Three runs of the package tool that succeed find a library whose version is new enough. -/
theorem answer_of_lookUpRuns {version cflags libs : List UInt8}
    (hcarries : Dialogue.Carries tools.Answers talk
      (tools.lookUpRuns dependency.libraryId (.finished true version) (.finished true cflags)
        (.finished true libs)))
    (hfollows : dependency.Follows dependency.agenda talk)
    (hsettled : dependency.IsSettled talk answer)
    (hversion : Version.meetsMinimum (Text.trim (Text.Utf8.decodeLossy version))
      dependency.minVersion = true) :
    answer = .ok (.new dependency .systemPackage (Text.words (Text.Utf8.decodeLossy cflags))
      (Text.words (Text.Utf8.decodeLossy libs)) none) := by
  have hrun : ⟨.run (tools.packageCall "--modversion" dependency.libraryId),
      .finished true version⟩ ∈ tools.lookUpRuns dependency.libraryId (.finished true version)
        (.finished true cflags) (.finished true libs) := List.mem_cons_self
  rcases exists_question_of_run hcarries hrun with
    ⟨module, lookup, flag, before, own, after, hasked, hcall, hinner, hlooksUp, hown⟩ |
    ⟨header, cppflags, -, hcall⟩ | ⟨symbol, ldflags, check, -, hcall, -⟩
  · -- The runs of the lookup are all the runs there are.
    have hlength := congrArg List.length hinner
    rw [List.length_append, List.length_append, hlooksUp.length_eq hown, lookUpRuns] at hlength
    simp only [List.length_cons, List.length_nil] at hlength
    obtain rfl : before = [] := List.eq_nil_of_length_eq_zero (by omega)
    obtain rfl : after = [] := List.eq_nil_of_length_eq_zero (by omega)
    rw [List.nil_append, List.append_nil] at hinner
    obtain rfl := hinner
    obtain rfl := Dependency.isAbout_of_mem_agenda (hfollows.mem_of_mem hasked)
    obtain rfl := hlooksUp.eq_found
    exact hsettled.answer_eq hfollows hasked hversion
  · simp [packageCall, headerCall] at hcall
  · simp [packageCall, linkCall] at hcall

/-- What a manual probe finds is included and linked by two runs that succeed. -/
theorem isUsed_of_systemManual (hcarries : Dialogue.Carries tools.Answers talk inner)
    {finding : Finding} (hbacked : dependency.IsBacked talk finding)
    (houtcome : finding.outcome = .systemManual) : tools.IsUsed dependency inner finding := by
  rw [Dependency.IsBacked, houtcome] at hbacked
  obtain ⟨⟨question, reply⟩, rfl⟩ := hbacked
  obtain ⟨before, _, rfl, -, hprobes⟩ := Dialogue.carries_cons_iff.mp hcarries
  obtain ⟨_, _, rfl, ⟨first, rfl, hheader⟩, hlink⟩ := Dialogue.carries_cons_iff.mp hprobes
  obtain ⟨_, _, rfl, ⟨second, rfl, hlinked⟩, hnothing⟩ := Dialogue.carries_cons_iff.mp hlink
  obtain rfl := Dialogue.carries_nil_iff.mp hnothing
  obtain ⟨header, rfl⟩ := ToolRun.isSuccess_iff.mp hheader.symm
  obtain ⟨link, rfl⟩ := ToolRun.isSuccess_iff.mp (hlinked.mp rfl)
  exact ⟨before, header, link, rfl⟩

/-- Each run bears on the decision as one of its stage. -/
theorem bearsOn_of_run (hcarries : Dialogue.Carries tools.Answers talk inner)
    (hfollows : dependency.Follows dependency.agenda talk)
    (hsettled : dependency.IsSettled talk answer) {call : ToolCall} {run : ToolRun}
    (hrun : (⟨.run call, run⟩ : ToolExchange) ∈ inner) :
    tools.BearsOn dependency inner answer call run := by
  have habout : ∀ exchange ∈ talk, dependency.IsAbout exchange.1 := fun exchange hexchange ↦
    Dependency.isAbout_of_mem_agenda (hfollows.mem_of_mem hexchange)
  rcases exists_question_of_run hcarries hrun with
    ⟨module, lookup, flag, before, own, after, hasked, rfl, -, hlooksUp, hown⟩ |
    ⟨header, cppflags, hasked, rfl⟩ | ⟨symbol, ldflags, check, hasked, rfl, hcheck⟩
  · obtain rfl := habout _ hasked
    refine .package flag fun hfails ↦ ?_
    obtain ⟨⟨isThere, hheader⟩, hmanual⟩ :=
      hsettled.manual_of_not_reaches hfollows hasked (hlooksUp.not_reaches hown hfails)
    obtain ⟨_, ⟨next, rfl, -⟩, hruns⟩ := hcarries.exists_part hheader
    exact ⟨⟨next, hruns _ List.mem_cons_self⟩, hmanual⟩
  · obtain rfl := habout _ hasked
    exact .header cppflags fun hfails ↦ hsettled.answer_eq hfollows hasked hfails
  · obtain rfl := habout _ hasked
    refine .link ldflags ?_
    rw [hsettled.answer_eq hfollows hasked trivial]
    cases check <;> simp_all [Dependency.conclusion]

/-- Three runs that succeed are all that the package tool finds a library by. -/
theorem systemPackage_iff (hcarries : Dialogue.Carries tools.Answers talk inner)
    (hfollows : dependency.Follows dependency.agenda talk)
    (hsettled : dependency.IsSettled talk answer)
    (hfound : ∀ finding, answer = .ok finding →
      finding.IsFor dependency ∧ dependency.IsBacked talk finding) {finding : Finding} :
    answer = .ok finding ∧ finding.outcome = .systemPackage ↔
      tools.IsPackaged dependency inner finding := by
  constructor
  · rintro ⟨rfl, houtcome⟩
    obtain ⟨hfor, hbacked⟩ := hfound finding rfl
    exact isPackaged_of_systemPackage hcarries hsettled hfor hbacked houtcome
  · rintro ⟨version, cflags, libs, rfl, hversion, hcflags, hlibs, hfinding⟩
    rw [Text.splitsInto_iff] at hcflags hlibs
    rw [answer_of_lookUpRuns hcarries hfollows hsettled hversion, hcflags, hlibs, ← hfinding]
    exact ⟨rfl, congrArg Finding.outcome hfinding⟩

end

/-- Whatever the runs of the tools come to, they account for the decision. -/
theorem decision_endsAfter (dependency : Dependency) :
    (dependency.decision.through tools.answer).EndsAfter (tools.Accounts dependency) := by
  have hboth := dependency.decision_endsAfter.and dependency.decision_endsAfter_settled
  refine (hboth.through tools.answer_endsAfter).mono fun inner answer ⟨talk, hcarries,
    ⟨hfollows, hfound⟩, hend⟩ ↦ ?_
  rcases hend with ⟨rfl, rfl⟩ | hsettled
  · obtain rfl := Dialogue.carries_nil_iff.mp hcarries
    exact accounts_of_disabled
  have hpackage : ∀ {finding}, answer = .ok finding ∧ finding.outcome = .systemPackage ↔
      tools.IsPackaged dependency inner finding :=
    systemPackage_iff hcarries hfollows hsettled hfound
  exact {
    package := fun finding ↦ hpackage
    flags := by
      intro finding hfinding houtcome flag hflag
      obtain ⟨_, _, _, -, -, hcflags, hlibs, -⟩ := hpackage.mp ⟨hfinding, houtcome⟩
      exact (List.mem_append.mp hflag).elim hcflags.ne_empty hlibs.ne_empty
    manual := fun finding hfinding ↦ isUsed_of_systemManual hcarries (hfound finding hfinding).2
    runs := fun call run ↦ bearsOn_of_run hcarries hfollows hsettled
    faults := by
      rintro fault rfl
      exact hsettled.override_of_error hfollows }

/-- Nothing is found that the tools did not tell by succeeding. However a system replies, with the
tools run behind each answer, a library is found by the package tool exactly if its three runs
succeed with a version that is new enough, and the flags are the words that are printed. It is found
by a manual probe only if the preprocessor and the linker succeed with the flags that are found. A
run that goes wrong, in whatever way, makes its stage a miss, which is an error for no library but
one that is required or looked for below a path. -/
theorem decision_trusts_success_alone (tools : Toolchain) (dependency : Dependency) {σ : Type}
    (reply : (query : ToolQuery) → σ → query.Reply × σ) (state : σ) :
    tools.Accounts dependency ((dependency.decision.through tools.answer).exchanges reply state)
      (dependency.decision.run (fun question state ↦ (tools.answer question).run reply state)
        state).1 := by
  rw [← Dialogue.run_through]
  exact (tools.decision_endsAfter dependency).run reply state

-- The package tool tells a version, but takes too long to tell the flags.
example :
    ((Dependency.new "mapidb" "20120405").decision.through
        (Toolchain.answer ⟨"cc", "pkg-config", 10000⟩)).result
      (fun
        | .run call =>
          if call.arguments.contains "--libs" then .timedOut
          else .finished true (Text.Utf8.encode "20240101")
        | .pathExists _ => true) =
      .ok (.new (Dependency.new "mapidb" "20120405") .systemManual [] ["-lmapidb"] none) := by
  decide +kernel

end Toolchain

end Scaffold
