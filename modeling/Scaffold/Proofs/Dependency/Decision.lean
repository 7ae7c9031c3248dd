import Scaffold.Dependency.Decision

/-!
# The decision procedure

In an environment a decision comes to a finding or to an error that depends on a few answers alone:
whether the path of an override exists, whether the package database knows a version that is new
enough (`Packaged`), and whether header and symbol are found with given flags (`Found`). Each stage
has its closed form (`answer_decidePath`, `answer_decidePackage`, `answer_decideManual`,
`answer_decideSystem`), and `decision_concludes` puts them in their order.
-/

set_option autoImplicit false

namespace Scaffold

namespace Inquiry

variable {α β : Type} (environment : Environment)

theorem answer_pure (outcome : α) : (pure outcome : Inquiry α).answer environment = outcome :=
  rfl

theorem answer_bind (first : Inquiry α) (next : α → Inquiry β) :
    (first >>= next).answer environment =
      (next (first.answer environment)).answer environment :=
  Dialogue.result_bind environment.answer first next

theorem questions_bind (first : Inquiry α) (next : α → Inquiry β) :
    (first >>= next).questions environment =
      first.questions environment ++ (next (first.answer environment)).questions environment :=
  Dialogue.queries_bind environment.answer first next

@[simp]
theorem answer_askPackage (module : String) :
    (askPackage module).answer environment = environment.packageConfig module :=
  rfl

@[simp]
theorem answer_askHeader (header : String) (cppflags : List String) :
    (askHeader header cppflags).answer environment = environment.hasHeader header cppflags :=
  rfl

@[simp]
theorem answer_askLink (symbol : String) (ldflags : List String) :
    (askLink symbol ldflags).answer environment = environment.linkSymbol symbol ldflags :=
  rfl

@[simp]
theorem answer_askPath (path : Path) :
    (askPath path).answer environment = environment.pathExists path :=
  rfl

end Inquiry

namespace Dependency

variable (environment : Environment) (dependency : Dependency)

/-- The header of a dependency is found with these flags, and its symbol can be linked with them. -/
def Found (cppflags ldflags : List String) : Prop :=
  environment.hasHeader dependency.header cppflags = true ∧
    environment.linkSymbol dependency.symbol (ldflags ++ ["-l" ++ dependency.linkName]) = .linked

instance (cppflags ldflags : List String) :
    Decidable (Found environment dependency cppflags ldflags) :=
  inferInstanceAs (Decidable (_ ∧ _))

/-- The package database knows the library in a version that is new enough. -/
def Packaged : Prop :=
  ∃ version cflags libs,
    environment.packageConfig dependency.libraryId = .found version cflags libs ∧
      Version.meetsMinimum version dependency.minVersion = true

/-- The preprocessor flag for an installation below a path. -/
def includeFlag (path : Path) : String :=
  "-I" ++ (path.join ⟨"include"⟩).text

/-- The linker flag for an installation below a path. -/
def libraryFlag (path : Path) : String :=
  "-L" ++ (path.join ⟨"lib"⟩).text

/-- A decision that ends with a finding of an outcome. -/
def Concludes (answer : Except Fault Finding) (outcome : Outcome) : Prop :=
  ∃ finding, answer = .ok finding ∧ finding.outcome = outcome

theorem concludes_ok {finding : Finding} {outcome : Outcome}
    (houtcome : finding.outcome = outcome) : Concludes (.ok finding) outcome :=
  ⟨finding, rfl, houtcome⟩

theorem outcome_eq_of_concludes {answer : Except Fault Finding} {outcome : Outcome}
    (hanswer : Concludes answer outcome) {finding : Finding} (hfinding : answer = .ok finding) :
    finding.outcome = outcome := by
  obtain ⟨other, hother, houtcome⟩ := hanswer
  rw [hother, Except.ok.injEq] at hfinding
  rw [← hfinding, houtcome]

/-! ### The stages -/

theorem answer_isUsable (cppflags ldflags : List String) :
    (dependency.isUsable cppflags ldflags).answer environment =
      decide (Found environment dependency cppflags ldflags) := by
  rw [isUsable, Inquiry.answer_bind, Inquiry.answer_askHeader]
  cases hheader : environment.hasHeader dependency.header cppflags with
  | false => simp [Found, hheader]
  | true =>
    simp only [if_true, Inquiry.answer_bind, Inquiry.answer_askLink, Found, hheader, linkFlag,
      true_and]
    rfl

theorem answer_decidePath (path : Path) :
    (dependency.decidePath path).answer environment =
      if environment.pathExists path = true then
        if Found environment dependency [includeFlag path] [libraryFlag path] then
          .ok (.new dependency .systemManual [includeFlag path]
            [libraryFlag path, dependency.linkFlag] (some path))
        else .error (.overrideUnusable dependency.name path)
      else .error (.pathNotFound dependency.name path) := by
  rw [decidePath, Inquiry.answer_bind, Inquiry.answer_askPath]
  cases environment.pathExists path with
  | false => rfl
  | true =>
    simp only [if_true, Inquiry.answer_bind, answer_isUsable, decide_eq_true_eq]
    rw [includeFlag, libraryFlag]
    split <;> rfl

theorem answer_decideManual :
    dependency.decideManual.answer environment =
      if Found environment dependency [] [] then
        some (.new dependency .systemManual [] [dependency.linkFlag] none)
      else none := by
  rw [decideManual, Inquiry.answer_bind, answer_isUsable]
  simp only [decide_eq_true_eq]
  split <;> rfl

/-- The database finds the library, with its flags, exactly when it is packaged. -/
theorem answer_decidePackage_eq_some (hpackaged : Packaged environment dependency) :
    ∃ cflags libs, dependency.decidePackage.answer environment =
      some (.new dependency .systemPackage cflags libs none) := by
  obtain ⟨version, cflags, libs, hfound, hversion⟩ := hpackaged
  refine ⟨cflags, libs, ?_⟩
  rw [decidePackage, Inquiry.answer_bind, Inquiry.answer_askPackage, hfound]
  simp only [hversion, if_true, Inquiry.answer_pure]

theorem answer_decidePackage_eq_none (hpackaged : ¬Packaged environment dependency) :
    dependency.decidePackage.answer environment = none := by
  rw [decidePackage, Inquiry.answer_bind, Inquiry.answer_askPackage]
  cases hlookup : environment.packageConfig dependency.libraryId with
  | unavailable => rfl
  | notFound => rfl
  | found version cflags libs =>
    have hversion : Version.meetsMinimum version dependency.minVersion = false := by
      rw [Bool.eq_false_iff]
      exact fun hversion ↦ hpackaged ⟨version, cflags, libs, hlookup, hversion⟩
    simp only [hversion, Bool.false_eq_true, if_false, Inquiry.answer_pure]

theorem answer_decideSystem (isRequired : Bool) :
    (dependency.decideSystem isRequired).answer environment =
      match dependency.decidePackage.answer environment with
      | some finding => .ok finding
      | none =>
        if Found environment dependency [] [] then
          .ok (.new dependency .systemManual [] [dependency.linkFlag] none)
        else if isRequired then .error (.requiredMissing dependency.name)
        else .ok dependency.fallback := by
  rw [decideSystem, Inquiry.answer_bind]
  cases dependency.decidePackage.answer environment with
  | some finding => rfl
  | none =>
    simp only [Inquiry.answer_bind, answer_decideManual]
    by_cases hfound : Found environment dependency [] []
    · simp only [if_pos hfound, Inquiry.answer_pure]
    · simp only [if_neg hfound]
      cases isRequired <;> rfl

/-- Without a system copy the bundled one is used, unless its path says that there is none. -/
theorem outcome_fallback :
    dependency.fallback.outcome =
      if dependency.localPath = some noLocalCopy then .absent else .localFallback := by
  rw [fallback, localCopy?]
  cases dependency.localPath with
  | none => rfl
  | some path => by_cases hpath : path = noLocalCopy <;> simp [hpath, Finding.new]

theorem concludes_of_packaged (isRequired : Bool) (hpackaged : Packaged environment dependency) :
    Concludes ((dependency.decideSystem isRequired).answer environment) .systemPackage := by
  obtain ⟨cflags, libs, hpackage⟩ := answer_decidePackage_eq_some environment dependency hpackaged
  rw [answer_decideSystem, hpackage]
  exact concludes_ok rfl

theorem concludes_of_found (isRequired : Bool) (hpackaged : ¬Packaged environment dependency)
    (hfound : Found environment dependency [] []) :
    Concludes ((dependency.decideSystem isRequired).answer environment) .systemManual := by
  rw [answer_decideSystem, answer_decidePackage_eq_none environment dependency hpackaged]
  simp only [if_pos hfound]
  exact concludes_ok rfl

theorem answer_of_not_found (isRequired : Bool) (hpackaged : ¬Packaged environment dependency)
    (hfound : ¬Found environment dependency [] []) :
    (dependency.decideSystem isRequired).answer environment =
      if isRequired then .error (.requiredMissing dependency.name)
      else .ok dependency.fallback := by
  rw [answer_decideSystem, answer_decidePackage_eq_none environment dependency hpackaged]
  simp only [if_neg hfound]

/-! ### The procedure -/

theorem decision_of_path {path : Path} (hoverride : dependency.override = .path path) :
    dependency.decision = dependency.decidePath path := by
  rw [decision, hoverride]

theorem decision_of_disabled (hoverride : dependency.override = .disabled) :
    dependency.decision = pure (.ok (.new dependency .disabled [] [] none)) := by
  rw [decision, hoverride]

theorem decision_of_auto (hoverride : dependency.override = .auto) :
    dependency.decision = dependency.decideSystem false := by
  rw [decision, hoverride]

theorem decision_of_required (hoverride : dependency.override = .required) :
    dependency.decision = dependency.decideSystem true := by
  rw [decision, hoverride]

/-- A dependency that is not required on the system always comes to a finding. -/
theorem exists_finding_of_auto :
    ∃ finding, (dependency.decideSystem false).answer environment = .ok finding := by
  by_cases hpackaged : Packaged environment dependency
  · obtain ⟨finding, hfinding, -⟩ :=
      concludes_of_packaged environment dependency false hpackaged
    exact ⟨finding, hfinding⟩
  · by_cases hfound : Found environment dependency [] []
    · obtain ⟨finding, hfinding, -⟩ :=
        concludes_of_found environment dependency false hpackaged hfound
      exact ⟨finding, hfinding⟩
    · exact ⟨dependency.fallback, answer_of_not_found environment dependency false hpackaged hfound⟩

/-- What is required on the system is found there or not at all. -/
theorem isSystem_of_required {finding : Finding}
    (hfinding : (dependency.decideSystem true).answer environment = .ok finding) :
    finding.outcome.isSystem = true := by
  by_cases hpackaged : Packaged environment dependency
  · rw [outcome_eq_of_concludes (concludes_of_packaged environment dependency true hpackaged)
      hfinding]
    rfl
  · by_cases hfound : Found environment dependency [] []
    · rw [outcome_eq_of_concludes (concludes_of_found environment dependency true hpackaged hfound)
        hfinding]
      rfl
    · rw [answer_of_not_found environment dependency true hpackaged hfound] at hfinding
      simp at hfinding

/-- What is found below a path was found by a manual probe. -/
theorem outcome_of_decidePath {path : Path} {finding : Finding}
    (hfinding : (dependency.decidePath path).answer environment = .ok finding) :
    finding.outcome = .systemManual := by
  rw [answer_decidePath] at hfinding
  split at hfinding
  · split at hfinding
    · rw [← Except.ok.inj hfinding]
      rfl
    · simp at hfinding
  · simp at hfinding

/-- The order of the stages. An override with a path stands or falls with what is found there, and a
disabled dependency is not looked for; otherwise the first of the package database, the manual probe
and, unless the dependency is required, the bundled copy decides. -/
theorem decision_concludes :
    (∀ path, dependency.override = .path path →
      (environment.pathExists path = false →
        dependency.decision.answer environment = .error (.pathNotFound dependency.name path)) ∧
      (environment.pathExists path = true →
        Found environment dependency [includeFlag path] [libraryFlag path] →
        ∃ finding, dependency.decision.answer environment = .ok finding ∧
          finding.outcome = .systemManual ∧ finding.source = some path) ∧
      (environment.pathExists path = true →
        ¬Found environment dependency [includeFlag path] [libraryFlag path] →
        dependency.decision.answer environment =
          .error (.overrideUnusable dependency.name path))) ∧
    (dependency.override = .disabled →
      Concludes (dependency.decision.answer environment) .disabled) ∧
    (dependency.override = .auto ∨ dependency.override = .required →
      (Packaged environment dependency →
        Concludes (dependency.decision.answer environment) .systemPackage) ∧
      (¬Packaged environment dependency → Found environment dependency [] [] →
        Concludes (dependency.decision.answer environment) .systemManual) ∧
      (¬Packaged environment dependency → ¬Found environment dependency [] [] →
        (dependency.override = .required →
          dependency.decision.answer environment = .error (.requiredMissing dependency.name)) ∧
        (dependency.override = .auto → dependency.localPath ≠ some "none" →
          Concludes (dependency.decision.answer environment) .localFallback) ∧
        (dependency.override = .auto → dependency.localPath = some "none" →
          Concludes (dependency.decision.answer environment) .absent))) ∧
    (dependency.override = .auto ∨ dependency.override = .disabled →
      ∃ finding, dependency.decision.answer environment = .ok finding) ∧
    (∀ finding, dependency.decision.answer environment = .ok finding →
      (dependency.override = .required →
        finding.outcome ≠ .localFallback ∧ finding.outcome ≠ .absent) ∧
      (∀ path, dependency.override = .path path → finding.outcome = .systemManual)) := by
  refine ⟨fun path hpath ↦ ?_, fun hdisabled ↦ ?_, fun hsystem ↦ ⟨?_, ?_, ?_⟩, ?_,
    fun finding hfinding ↦ ⟨fun hrequired ↦ ?_, fun path hpath ↦ ?_⟩⟩
  · rw [decision_of_path dependency hpath, answer_decidePath]
    refine ⟨fun hmissing ↦ ?_, fun hexists hfound ↦ ?_, fun hexists hfound ↦ ?_⟩
    · rw [if_neg (by simp [hmissing])]
    · rw [if_pos hexists, if_pos hfound]
      exact ⟨_, rfl, rfl, rfl⟩
    · rw [if_pos hexists, if_neg hfound]
  · rw [decision_of_disabled dependency hdisabled]
    exact concludes_ok rfl
  · intro hpackaged
    rcases hsystem with hauto | hrequired
    · rw [decision_of_auto dependency hauto]
      exact concludes_of_packaged environment dependency false hpackaged
    · rw [decision_of_required dependency hrequired]
      exact concludes_of_packaged environment dependency true hpackaged
  · intro hpackaged hfound
    rcases hsystem with hauto | hrequired
    · rw [decision_of_auto dependency hauto]
      exact concludes_of_found environment dependency false hpackaged hfound
    · rw [decision_of_required dependency hrequired]
      exact concludes_of_found environment dependency true hpackaged hfound
  · intro hpackaged hfound
    refine ⟨fun hrequired ↦ ?_, fun hauto hpath ↦ ?_, fun hauto hpath ↦ ?_⟩
    · rw [decision_of_required dependency hrequired]
      exact answer_of_not_found environment dependency true hpackaged hfound
    · rw [decision_of_auto dependency hauto,
        answer_of_not_found environment dependency false hpackaged hfound]
      exact concludes_ok (by rw [outcome_fallback, noLocalCopy, if_neg hpath])
    · rw [decision_of_auto dependency hauto,
        answer_of_not_found environment dependency false hpackaged hfound]
      exact concludes_ok (by rw [outcome_fallback, noLocalCopy, if_pos hpath])
  · rintro (hauto | hdisabled)
    · rw [decision_of_auto dependency hauto]
      exact exists_finding_of_auto environment dependency
    · rw [decision_of_disabled dependency hdisabled]
      exact ⟨_, rfl⟩
  · rw [decision_of_required dependency hrequired] at hfinding
    have hsystem := isSystem_of_required environment dependency hfinding
    constructor <;> intro houtcome <;> simp [houtcome, Outcome.isSystem] at hsystem
  · rw [decision_of_path dependency hpath] at hfinding
    exact outcome_of_decidePath environment dependency hfinding

end Dependency

end Scaffold
