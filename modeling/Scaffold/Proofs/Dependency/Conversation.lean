import Scaffold.Proofs.Dependency.Decision
import Scaffold.Proofs.Dialogue

/-!
# What a decision asks

The `agenda` of a dependency lists the questions that its override calls for, with their flags. A
decision goes through it in order and stops behind the first answer that settles it (`Follows`);
the link of a symbol settles it in any case. What is found rests on what was exchanged
(`IsBacked`): the flags of a system copy are those that the package database gave, or those that a
probe went through with.

Both are proved along the text of the decision, whatever is answered (`decision_endsAfter`), so
they hold in every environment, also in one that answers differently at different times
(`decision_asks_agenda`).

The answer that settles a decision is its last one, and decides what it comes to, down to the
finding or the error (`decision_endsAfter_settled`). So where the package database does not settle
it, a manual probe does (`IsSettled.manual_of_not_reaches`), and only a library that is required or
looked for below a path can be an error (`IsSettled.override_of_error`).
-/

set_option autoImplicit false

namespace Scaffold

/-- A question with its answer. -/
abbrev Exchange : Type :=
  Dialogue.Exchange Question.Answer

/-- The package database knows a version that is not below a minimum. -/
def PackageLookup.Reaches (minimum : String) : PackageLookup → Prop
  | found version _ _ => Version.meetsMinimum version minimum = true
  | notFound | unavailable => False

/-- The finding has the macros that its outcome gives to a dependency. -/
def Finding.IsFor (dependency : Dependency) (finding : Finding) : Prop :=
  finding = new dependency finding.outcome finding.cppflags finding.ldflags finding.source

namespace Dependency

variable (dependency : Dependency)

/-- What a decision asks, one question after the other, until an answer settles it. -/
def agenda : List Question :=
  match dependency.override with
  | .disabled => []
  | .path path =>
    [.pathExists path, .hasHeader dependency.header [includeFlag path],
      .linkSymbol dependency.symbol [libraryFlag path, "-l" ++ dependency.linkName]]
  | .auto | .required =>
    [.packageConfig dependency.libraryId, .hasHeader dependency.header [],
      .linkSymbol dependency.symbol ["-l" ++ dependency.linkName]]

/-- The answer settles the decision: a package that is new enough, a path or a header that is not
there, and whatever linking a symbol comes to. -/
def Settles : Exchange → Prop
  | ⟨.packageConfig _, lookup⟩ => lookup.Reaches dependency.minVersion
  | ⟨.hasHeader _ _, isThere⟩ => isThere = false
  | ⟨.linkSymbol _ _, _⟩ => True
  | ⟨.pathExists _, isThere⟩ => isThere = false

/-- The exchanges go through a list of questions up to the first that settles the decision. -/
inductive Follows : List Question → List Exchange → Prop
  | nothing : Follows [] []
  | last {question : Question} {answer : question.Answer} (rest : List Question)
      (hsettles : dependency.Settles ⟨question, answer⟩) :
      Follows (question :: rest) [⟨question, answer⟩]
  | next {question : Question} {answer : question.Answer} {rest : List Question}
      {talk : List Exchange} (hopen : ¬ dependency.Settles ⟨question, answer⟩)
      (hrest : Follows rest talk) : Follows (question :: rest) (⟨question, answer⟩ :: talk)

/-- What is found rests on what was exchanged: flags from the package database are those that it
gave, and flags of a manual probe are those that the probe went through with. Those of the bundled
copy come from its path, and without a library there are none. -/
def IsBacked (talk : List Exchange) (finding : Finding) : Prop :=
  match finding.outcome with
  | .systemPackage =>
    (∃ version, talk = [⟨.packageConfig dependency.libraryId,
      .found version finding.cppflags finding.ldflags⟩]) ∧ finding.source = none
  | .systemManual =>
    ∃ first, talk = [first, ⟨.hasHeader dependency.header finding.cppflags, true⟩,
      ⟨.linkSymbol dependency.symbol finding.ldflags, .linked⟩]
  | .localFallback =>
    ∃ path, dependency.localCopy? = some path ∧ finding.cppflags = ["-I" ++ path.text] ∧
      finding.ldflags = [(path.join ⟨dependency.libraryId ++ ".la"⟩).text] ∧
      finding.source = some path
  | .disabled | .absent =>
    finding.cppflags = [] ∧ finding.ldflags = [] ∧ finding.source = none

/-! ### Following an agenda -/

section Follows

variable {dependency} {questions : List Question} {talk : List Exchange}

/-- Nothing is asked that is not on the list. -/
theorem Follows.mem_of_mem (hfollows : dependency.Follows questions talk) {exchange : Exchange}
    (hasked : exchange ∈ talk) : exchange.1 ∈ questions := by
  induction hfollows with
  | nothing => simp at hasked
  | last rest hsettles => simp_all
  | next hopen hrest ih =>
    rcases List.mem_cons.mp hasked with rfl | hlater
    · exact List.mem_cons_self
    · exact List.mem_cons_of_mem _ (ih hlater)

/-- No question follows the one that settles the decision. -/
theorem Follows.eq_nil_of_settles (hfollows : dependency.Follows questions talk)
    {past later : List Exchange} {exchange : Exchange} (htalk : talk = past ++ exchange :: later)
    (hsettles : dependency.Settles exchange) : later = [] := by
  induction hfollows generalizing past with
  | nothing => simp at htalk
  | last rest hfirst =>
    cases past with
    | nil => exact (List.cons.inj htalk).2.symm
    | cons first past => simp at htalk
  | next hopen hrest ih =>
    cases past with
    | nil =>
      obtain ⟨rfl, -⟩ := List.cons.inj htalk
      exact absurd hsettles hopen
    | cons first past => exact ih (List.cons.inj htalk).2

/-- The package database is asked for what is looked for on the system alone. -/
theorem override_of_packageConfig_mem_agenda {module : String}
    (hasked : .packageConfig module ∈ dependency.agenda) :
    dependency.override = .auto ∨ dependency.override = .required := by
  rw [agenda] at hasked
  cases hoverride : dependency.override <;> simp [hoverride] at hasked ⊢

end Follows

/-! ### The stages -/

theorem isUsable_endsAfter (cppflags ldflags : List String) :
    (dependency.isUsable cppflags ldflags).EndsAfter fun talk isUsable ↦
      dependency.Follows [.hasHeader dependency.header cppflags,
        .linkSymbol dependency.symbol (ldflags ++ ["-l" ++ dependency.linkName])] talk ∧
      (isUsable = true ↔ talk = [⟨.hasHeader dependency.header cppflags, true⟩,
        ⟨.linkSymbol dependency.symbol (ldflags ++ ["-l" ++ dependency.linkName]), .linked⟩]) := by
  refine Dialogue.endsAfter_ask_bind.mpr fun isThere ↦ ?_
  cases isThere with
  | false => exact ⟨.last _ rfl, by simp⟩
  | true =>
    have hopen : ¬ dependency.Settles ⟨.hasHeader dependency.header cppflags, true⟩ :=
      Bool.noConfusion
    exact fun check ↦ ⟨.next hopen (.last [] trivial), by simp [linkFlag]⟩

theorem decidePath_endsAfter (path : Path) :
    (dependency.decidePath path).EndsAfter fun talk answer ↦
      dependency.Follows [.pathExists path, .hasHeader dependency.header [includeFlag path],
        .linkSymbol dependency.symbol [libraryFlag path, "-l" ++ dependency.linkName]] talk ∧
      ∀ finding, answer = .ok finding →
        finding.IsFor dependency ∧ dependency.IsBacked talk finding := by
  refine Dialogue.endsAfter_ask_bind.mpr fun isThere ↦ ?_
  cases isThere with
  | false => exact ⟨.last _ rfl, nofun⟩
  | true =>
    have hopen : ¬ dependency.Settles ⟨.pathExists path, true⟩ := Bool.noConfusion
    have hprobes := dependency.isUsable_endsAfter [includeFlag path] [libraryFlag path]
    refine Dialogue.endsAfter_bind.mpr (hprobes.mono fun talk isUsable ⟨hprobe, husable⟩ ↦ ?_)
    have hfollows := Follows.next hopen hprobe
    rw [← List.append_nil talk] at hfollows
    cases isUsable with
    | false => exact ⟨hfollows, nofun⟩
    | true =>
      refine ⟨hfollows, fun finding hfinding ↦ ?_⟩
      obtain rfl := Except.ok.inj hfinding
      refine ⟨rfl, ⟨.pathExists path, true⟩, ?_⟩
      rw [List.append_nil, husable.mp rfl]
      rfl

theorem decidePackage_endsAfter :
    dependency.decidePackage.EndsAfter fun talk package ↦
      ∃ lookup : PackageLookup, talk = [⟨.packageConfig dependency.libraryId, lookup⟩] ∧
        (lookup.Reaches dependency.minVersion ↔ package.isSome = true) ∧
        ∀ finding, package = some finding →
          finding.IsFor dependency ∧ dependency.IsBacked talk finding := by
  refine Dialogue.endsAfter_ask_bind.mpr fun lookup ↦ ?_
  cases lookup with
  | unavailable => exact ⟨_, rfl, by simp [PackageLookup.Reaches], nofun⟩
  | notFound => exact ⟨_, rfl, by simp [PackageLookup.Reaches], nofun⟩
  | found version cflags libs =>
    cases hversion : Version.meetsMinimum version dependency.minVersion with
    | false =>
      simp only [hversion]
      exact ⟨_, rfl, by simp [PackageLookup.Reaches, hversion], nofun⟩
    | true =>
      simp only [hversion]
      refine ⟨_, rfl, by simp [PackageLookup.Reaches, hversion], fun finding hfinding ↦ ?_⟩
      obtain rfl := Option.some.inj hfinding
      exact ⟨rfl, ⟨version, rfl⟩, rfl⟩

theorem decideManual_endsAfter :
    dependency.decideManual.EndsAfter fun talk manual ↦
      dependency.Follows [.hasHeader dependency.header [],
        .linkSymbol dependency.symbol ["-l" ++ dependency.linkName]] talk ∧
      ∀ finding, manual = some finding → ∀ first,
        finding.IsFor dependency ∧ dependency.IsBacked (first :: talk) finding := by
  have hprobes := dependency.isUsable_endsAfter [] []
  refine Dialogue.endsAfter_bind.mpr (hprobes.mono fun talk isUsable ⟨hprobe, husable⟩ ↦ ?_)
  rw [← List.append_nil talk] at hprobe
  cases isUsable with
  | false => exact ⟨hprobe, nofun⟩
  | true =>
    refine ⟨hprobe, fun finding hfinding first ↦ ?_⟩
    obtain rfl := Option.some.inj hfinding
    rw [List.append_nil, husable.mp rfl]
    exact ⟨rfl, first, rfl⟩

theorem isFor_and_isBacked_fallback (talk : List Exchange) :
    dependency.fallback.IsFor dependency ∧ dependency.IsBacked talk dependency.fallback := by
  rw [fallback]
  cases hcopy : dependency.localCopy? with
  | none => exact ⟨rfl, rfl, rfl, rfl⟩
  | some path => exact ⟨rfl, path, hcopy, rfl, rfl, rfl⟩

theorem decideSystem_endsAfter (isRequired : Bool) :
    (dependency.decideSystem isRequired).EndsAfter fun talk answer ↦
      dependency.Follows [.packageConfig dependency.libraryId, .hasHeader dependency.header [],
        .linkSymbol dependency.symbol ["-l" ++ dependency.linkName]] talk ∧
      ∀ finding, answer = .ok finding →
        finding.IsFor dependency ∧ dependency.IsBacked talk finding := by
  refine Dialogue.endsAfter_bind.mpr (dependency.decidePackage_endsAfter.mono
    fun asked package ⟨lookup, hasked, hreaches, hpackage⟩ ↦ ?_)
  subst hasked
  cases package with
  | some finding =>
    refine ⟨.last _ (hreaches.mpr rfl), fun found hfound ↦ ?_⟩
    rw [← Except.ok.inj hfound]
    exact hpackage finding rfl
  | none =>
    have hopen : ¬ dependency.Settles ⟨.packageConfig dependency.libraryId, lookup⟩ :=
      fun hlookup ↦ Bool.noConfusion (hreaches.mp hlookup)
    refine Dialogue.endsAfter_bind.mpr (dependency.decideManual_endsAfter.mono
      fun talk manual ⟨hprobe, hmanual⟩ ↦ ?_)
    have hfollows := Follows.next hopen hprobe
    rw [← List.append_nil talk] at hfollows
    cases manual with
    | some finding =>
      refine ⟨hfollows, fun found hfound ↦ ?_⟩
      rw [← Except.ok.inj hfound, List.append_nil]
      exact hmanual finding rfl _
    | none =>
      cases isRequired with
      | true => exact ⟨hfollows, nofun⟩
      | false =>
        refine ⟨hfollows, fun found hfound ↦ ?_⟩
        rw [← Except.ok.inj hfound]
        exact dependency.isFor_and_isBacked_fallback _

/-! ### The decision -/

/-- Whatever is answered, a decision follows its agenda, and what it finds is made for its
dependency and rests on the answers. -/
theorem decision_endsAfter :
    dependency.decision.EndsAfter fun talk answer ↦
      dependency.Follows dependency.agenda talk ∧
        ∀ finding, answer = .ok finding →
        finding.IsFor dependency ∧ dependency.IsBacked talk finding := by
  rw [decision, agenda]
  cases dependency.override with
  | path path => exact dependency.decidePath_endsAfter path
  | disabled =>
    refine ⟨.nothing, fun finding hfinding ↦ ?_⟩
    rw [← Except.ok.inj hfinding]
    exact ⟨rfl, rfl, rfl, rfl⟩
  | auto => exact dependency.decideSystem_endsAfter false
  | required => exact dependency.decideSystem_endsAfter true

/-- A decision asks what is on the agenda of its dependency, in order and nothing else, up to the
first answer that settles it: no question follows that one, and the package database is never asked
about a dependency that is disabled or looked for below a path. Where a manual probe comes to a
finding, the flags of the finding are those of the question for the header, answered with yes, and
of the question for the symbol, which could be linked. -/
theorem decision_asks_agenda (dependency : Dependency) :
    (∀ environment : Environment, dependency.Follows dependency.agenda
      ((dependency.decision.questions environment).map fun question ↦
        ⟨question, environment.answer question⟩)) ∧
    ∀ {σ : Type} (answer : (question : Question) → σ → question.Answer × σ) (state : σ),
      dependency.Follows dependency.agenda (dependency.decision.exchanges answer state) ∧
      (∀ exchange ∈ dependency.decision.exchanges answer state,
        exchange.1 ∈ dependency.agenda) ∧
      (∀ module lookup,
        ⟨.packageConfig module, lookup⟩ ∈ dependency.decision.exchanges answer state →
          dependency.override = .auto ∨ dependency.override = .required) ∧
      (∀ past exchange later,
        dependency.decision.exchanges answer state = past ++ exchange :: later →
          dependency.Settles exchange → later = []) ∧
      ∀ finding, (dependency.decision.run answer state).1 = .ok finding →
        finding.outcome = .systemManual →
          ∃ first, dependency.decision.exchanges answer state =
            [first, ⟨.hasHeader dependency.header finding.cppflags, true⟩,
              ⟨.linkSymbol dependency.symbol finding.ldflags, .linked⟩] := by
  refine ⟨fun environment ↦ ?_, fun {σ} answer state ↦ ?_⟩
  · rw [← Dialogue.exchanges_of_replies environment.answer _ ()]
    exact (dependency.decision_endsAfter.run _ ()).1
  · obtain ⟨hfollows, hbacked⟩ := dependency.decision_endsAfter.run answer state
    refine ⟨hfollows, fun exchange ↦ hfollows.mem_of_mem,
      fun module lookup hasked ↦ override_of_packageConfig_mem_agenda (hfollows.mem_of_mem hasked),
      fun past exchange later ↦ hfollows.eq_nil_of_settles, fun finding hfinding hmanual ↦ ?_⟩
    have hfound := (hbacked finding hfinding).2
    rw [IsBacked, hmanual] at hfound
    exact hfound

example :
    ((Dependency.new "mapidb" "20120405").withOverride (.path ⟨"/opt/mapidb"⟩)).decision.questions
        (KnownAnswers.environment ⟨true, [], ["libmapidb.h"], [], [⟨"/opt/mapidb"⟩]⟩) =
      [.pathExists ⟨"/opt/mapidb"⟩, .hasHeader "libmapidb.h" ["-I/opt/mapidb/include"],
        .linkSymbol "libmapidb_get_version" ["-L/opt/mapidb/lib", "-lmapidb"]] := by
  decide +kernel

/-! ### The answer that settles a decision -/

/-- The finding of a manual probe. -/
def installed : Finding :=
  match dependency.override with
  | .path path =>
    .new dependency .systemManual [includeFlag path]
      [libraryFlag path, "-l" ++ dependency.linkName] (some path)
  | .auto | .required | .disabled =>
    .new dependency .systemManual [] ["-l" ++ dependency.linkName] none

/-- What a decision comes to when the manual probe goes wrong. -/
def missed : Except Fault Finding :=
  match dependency.override with
  | .path path => .error (.overrideUnusable dependency.name path)
  | .required => .error (.requiredMissing dependency.name)
  | .auto | .disabled => .ok dependency.fallback

/-- What a decision comes to with the answer that settles it. -/
def conclusion : Exchange → Except Fault Finding
  | ⟨.packageConfig _, .found _ cflags libs⟩ =>
    .ok (.new dependency .systemPackage cflags libs none)
  | ⟨.linkSymbol _ _, .linked⟩ => .ok dependency.installed
  | ⟨.pathExists path, _⟩ => .error (.pathNotFound dependency.name path)
  | _ => dependency.missed

/-- The last answer settles the decision, and the decision comes to its conclusion. -/
def IsSettled (talk : List Exchange) (answer : Except Fault Finding) : Prop :=
  ∃ past last, talk = past ++ [last] ∧ dependency.Settles last ∧
    dependency.conclusion last = answer

variable {dependency}

theorem IsSettled.append {talk : List Exchange} {answer : Except Fault Finding}
    (hsettled : dependency.IsSettled talk answer) (before : List Exchange) :
    dependency.IsSettled (before ++ talk) answer := by
  obtain ⟨past, last, rfl, hlast⟩ := hsettled
  exact ⟨before ++ past, last, (List.append_assoc _ _ _).symm, hlast⟩

variable (dependency)

theorem isUsable_endsAfter_settled (cppflags ldflags : List String) :
    (dependency.isUsable cppflags ldflags).EndsAfter fun talk isUsable ↦
      dependency.IsSettled talk
        (if isUsable then .ok dependency.installed else dependency.missed) := by
  refine Dialogue.endsAfter_ask_bind.mpr fun isThere ↦ ?_
  cases isThere with
  | false => exact ⟨[], _, rfl, rfl, rfl⟩
  | true =>
    refine fun check ↦ ⟨[_], _, rfl, trivial, ?_⟩
    cases check <;> rfl

variable {dependency}

theorem decidePath_endsAfter_settled {path : Path} (hoverride : dependency.override = .path path) :
    (dependency.decidePath path).EndsAfter dependency.IsSettled := by
  refine Dialogue.endsAfter_ask_bind.mpr fun isThere ↦ ?_
  cases isThere with
  | false => exact ⟨[], _, rfl, rfl, rfl⟩
  | true =>
    have hprobes := dependency.isUsable_endsAfter_settled [includeFlag path] [libraryFlag path]
    refine Dialogue.endsAfter_bind.mpr (hprobes.mono fun talk isUsable hsettled ↦ ?_)
    rw [← List.append_nil talk] at hsettled
    rw [installed, missed, hoverride] at hsettled
    cases isUsable with
    | false => exact hsettled.append [_]
    | true => exact hsettled.append [_]

theorem decidePackage_endsAfter_settled (dependency : Dependency) :
    dependency.decidePackage.EndsAfter fun talk package ↦
      ∀ finding, package = some finding → dependency.IsSettled talk (.ok finding) := by
  refine Dialogue.endsAfter_ask_bind.mpr fun lookup ↦ ?_
  cases lookup with
  | unavailable => exact nofun
  | notFound => exact nofun
  | found version cflags libs =>
    cases hversion : Version.meetsMinimum version dependency.minVersion with
    | false =>
      simp only [hversion]
      exact nofun
    | true =>
      simp only [hversion]
      rintro finding ⟨⟩
      exact ⟨[], _, rfl, hversion, rfl⟩

theorem decideManual_endsAfter_settled
    (hinstalled : dependency.installed =
      .new dependency .systemManual [] ["-l" ++ dependency.linkName] none) :
    dependency.decideManual.EndsAfter fun talk manual ↦
      dependency.IsSettled talk ((manual.map Except.ok).getD dependency.missed) := by
  have hprobes := dependency.isUsable_endsAfter_settled [] []
  refine Dialogue.endsAfter_bind.mpr (hprobes.mono fun talk isUsable hsettled ↦ ?_)
  rw [← List.append_nil talk, hinstalled] at hsettled
  cases isUsable with
  | false => exact hsettled
  | true => exact hsettled

theorem decideSystem_endsAfter_settled (isRequired : Bool)
    (hoverride : dependency.override = if isRequired then .required else .auto) :
    (dependency.decideSystem isRequired).EndsAfter dependency.IsSettled := by
  have hinstalled : dependency.installed =
      .new dependency .systemManual [] ["-l" ++ dependency.linkName] none := by
    rw [installed, hoverride]
    cases isRequired <;> rfl
  refine Dialogue.endsAfter_bind.mpr (dependency.decidePackage_endsAfter_settled.mono
    fun asked package hpackage ↦ ?_)
  cases package with
  | some finding =>
    have hsettled := hpackage finding rfl
    rw [← List.append_nil asked] at hsettled
    exact hsettled
  | none =>
    refine Dialogue.endsAfter_bind.mpr ((decideManual_endsAfter_settled hinstalled).mono
      fun talk manual hsettled ↦ ?_)
    rw [← List.append_nil talk, missed, hoverride] at hsettled
    cases manual with
    | some finding => exact hsettled.append asked
    | none => cases isRequired <;> exact hsettled.append asked

/-- A decision that asks anything comes to the conclusion of the last answer. -/
theorem decision_endsAfter_settled (dependency : Dependency) :
    dependency.decision.EndsAfter fun talk answer ↦
      (talk = [] ∧ answer = .ok (.new dependency .disabled [] [] none)) ∨
        dependency.IsSettled talk answer := by
  rw [decision]
  cases hoverride : dependency.override with
  | path path => exact (decidePath_endsAfter_settled hoverride).mono fun _ _ ↦ .inr
  | disabled => exact .inl ⟨rfl, rfl⟩
  | auto => exact (decideSystem_endsAfter_settled false hoverride).mono fun _ _ ↦ .inr
  | required => exact (decideSystem_endsAfter_settled true hoverride).mono fun _ _ ↦ .inr

/-- The question is about the library and is called for by its override. -/
def IsAbout (dependency : Dependency) : Question → Prop
  | .packageConfig module => module = dependency.libraryId
  | .hasHeader header _ => header = dependency.header
  | .linkSymbol symbol _ => symbol = dependency.symbol
  | .pathExists path => dependency.override = .path path

theorem isAbout_of_mem_agenda {question : Question} (hquestion : question ∈ dependency.agenda) :
    dependency.IsAbout question := by
  rw [agenda] at hquestion
  cases hoverride : dependency.override <;> simp only [hoverride] at hquestion <;>
    cases question <;> simp_all [IsAbout]

/-! ### What an answer decides -/

section

variable {talk : List Exchange} {answer : Except Fault Finding}

/-- No answer follows one that settles the decision, so that one decides it. -/
theorem IsSettled.answer_eq (hsettled : dependency.IsSettled talk answer)
    {questions : List Question} (hfollows : dependency.Follows questions talk)
    {exchange : Exchange} (hasked : exchange ∈ talk) (hsettles : dependency.Settles exchange) :
    answer = dependency.conclusion exchange := by
  obtain ⟨past, last, rfl, -, rfl⟩ := hsettled
  obtain ⟨before, later, htalk⟩ := List.append_of_mem hasked
  obtain rfl := hfollows.eq_nil_of_settles htalk hsettles
  obtain ⟨-, hlast⟩ := List.append_inj' htalk rfl
  rw [List.singleton_inj.mp hlast]

theorem IsSettled.settles_of_singleton {exchange : Exchange}
    (hsettled : dependency.IsSettled [exchange] answer) : dependency.Settles exchange := by
  obtain ⟨past, last, htalk, hsettles, -⟩ := hsettled
  cases past with
  | nil => rwa [List.singleton_inj.mp htalk]
  | cons first others => simp at htalk

theorem Follows.exists_answer {question : Question} {rest : List Question}
    (hfollows : dependency.Follows (question :: rest) talk) :
    ∃ answer later, talk = ⟨question, answer⟩ :: later ∧
      (dependency.Settles ⟨question, answer⟩ ∧ later = [] ∨
        ¬ dependency.Settles ⟨question, answer⟩ ∧ dependency.Follows rest later) := by
  cases hfollows with
  | last _ hsettles => exact ⟨_, [], rfl, .inl ⟨hsettles, rfl⟩⟩
  | next hopen hrest => exact ⟨_, _, rfl, .inr ⟨hopen, hrest⟩⟩

/-- What settles a manual probe is a finding or a miss. -/
theorem conclusion_of_mem_probes {cppflags ldflags : List String} {exchange : Exchange}
    (hprobe : exchange.1 ∈ [Question.hasHeader dependency.header cppflags,
      .linkSymbol dependency.symbol ldflags]) :
    dependency.conclusion exchange = .ok dependency.installed ∨
      dependency.conclusion exchange = dependency.missed := by
  obtain ⟨question, reply⟩ := exchange
  cases question with
  | packageConfig => simp at hprobe
  | hasHeader => exact .inr rfl
  | linkSymbol => cases reply <;> simp [conclusion]
  | pathExists => simp at hprobe

/-- Where the package database does not settle the decision, a manual probe does. -/
theorem IsSettled.manual_of_not_reaches (hsettled : dependency.IsSettled talk answer)
    (hfollows : dependency.Follows dependency.agenda talk) {module : String}
    {lookup : PackageLookup} (hasked : ⟨.packageConfig module, lookup⟩ ∈ talk)
    (hmiss : ¬ lookup.Reaches dependency.minVersion) :
    (∃ isThere, ⟨.hasHeader dependency.header [], isThere⟩ ∈ talk) ∧
      (answer = .ok dependency.installed ∨ answer = dependency.missed) := by
  have hagenda : dependency.agenda = [.packageConfig dependency.libraryId,
      .hasHeader dependency.header [],
      .linkSymbol dependency.symbol ["-l" ++ dependency.linkName]] := by
    rcases override_of_packageConfig_mem_agenda (hfollows.mem_of_mem hasked) with h | h <;>
      rw [agenda, h]
  rw [hagenda] at hfollows
  obtain ⟨first, later, rfl, ⟨hsettles, rfl⟩ | ⟨hopen, hrest⟩⟩ := hfollows.exists_answer
  · rw [← List.mem_singleton.mp hasked] at hsettles
    exact absurd hsettles hmiss
  · obtain ⟨isThere, rest, rfl, -⟩ := hrest.exists_answer
    refine ⟨⟨isThere, by simp⟩, ?_⟩
    obtain ⟨past, last, htalk, hsettles, rfl⟩ := hsettled
    have hlast : last ∈ ⟨.packageConfig dependency.libraryId, first⟩ ::
        ⟨.hasHeader dependency.header [], isThere⟩ :: rest := by rw [htalk]; simp
    rcases List.mem_cons.mp hlast with rfl | hlater
    · exact absurd hsettles hopen
    · exact conclusion_of_mem_probes (hrest.mem_of_mem hlater)

/-- Nothing is an error unless the library is required or looked for below a path. -/
theorem IsSettled.override_of_error {fault : Fault}
    (hsettled : dependency.IsSettled talk (.error fault))
    (hfollows : dependency.Follows dependency.agenda talk) :
    dependency.override = .required ∨ ∃ path, dependency.override = .path path := by
  have hmissed : dependency.missed = .error fault →
      dependency.override = .required ∨ ∃ path, dependency.override = .path path := by
    rw [missed]
    cases dependency.override <;> simp
  obtain ⟨past, ⟨question, reply⟩, rfl, hsettles, hconclusion⟩ := hsettled
  cases question with
  | packageConfig => cases reply <;> simp_all [conclusion, Settles, PackageLookup.Reaches]
  | hasHeader => exact hmissed hconclusion
  | linkSymbol => cases reply <;> simp_all [conclusion]
  | pathExists path =>
    have hquestion := hfollows.mem_of_mem (List.mem_append_right past List.mem_cons_self)
    exact .inr ⟨path, isAbout_of_mem_agenda hquestion⟩

end

end Dependency

end Scaffold
