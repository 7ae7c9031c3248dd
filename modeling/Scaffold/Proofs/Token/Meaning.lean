import Scaffold.Proofs.Text.Cutting
import Scaffold.Token.Meaning

/-!
# Derivations come to an end

No derivation runs in a circle: every token has a `height`, and a rule or an upper-case ending asks
only for lower tokens (`height_input_lt`, `height_stem_lt`). The height is below the number of steps
that `meaning?` allows (`height_lt_depth`), so that number plays no part in the result
(`meaningWithin_eq_meaning?`): the meaning of tokens is the one solution of the equation of a single
step (`eq_meaningStep_iff`).

A token without a meaning fails for a reason, a token that no step applies to (`cause`).
-/

set_option autoImplicit false

namespace Scaffold.Token

/-! ### Rules and stems -/

theorem ruleFor?_eq_some {token : String} {rule : Rule} (hrule : ruleFor? token = some rule) :
    rule ∈ rules ∧ rule.token = token :=
  ⟨List.mem_of_find?_eq_some hrule, by simpa using List.find?_some hrule⟩

/-- A token has a stem exactly when it is a stem that is not empty with the ending behind it. -/
theorem stem?_eq_some_iff {token stem : String} :
    stem? token = some stem ↔ stem ≠ "" ∧ stem ++ upperCaseEnding = token := by
  rw [stem?, ← Text.stripEnding?_eq_some_iff]
  cases Text.stripEnding? upperCaseEnding token with
  | none => simp
  | some rest =>
    by_cases hempty : rest = ""
    · simp only [hempty, if_true]
      grind
    · simp only [hempty, if_false]
      grind

/-- The text of parts, given the values of their inputs from left to right. -/
def assemble : List Part → List String → String
  | [], _ => ""
  | part :: rest, values =>
    match part.input? with
    | none => part.render "" ++ assemble rest values
    | some _ => part.render (values.headD "") ++ assemble rest values.tail

/-- The value that a rule gives to the values of its inputs. -/
def Rule.derive (rule : Rule) (values : List String) : String :=
  assemble rule.parts values

/-- Parts have a meaning when all their inputs have one, and it is assembled from theirs. -/
theorem partsMeaning_eq (meaning : String → Option String) (parts : List Part) :
    partsMeaning meaning parts =
      ((parts.filterMap Part.input?).mapM meaning).map (assemble parts) := by
  induction parts with
  | nil => rfl
  | cons part rest ih =>
    cases hinput : part.input? with
    | none =>
      simp only [partsMeaning, hinput, ih, List.filterMap_cons, Option.map_map]
      congr 1
      funext values
      simp [assemble, hinput]
    | some token =>
      simp only [partsMeaning, hinput, ih, List.filterMap_cons, List.mapM_cons]
      cases meaning token with
      | none => rfl
      | some value =>
        cases (rest.filterMap Part.input?).mapM meaning with
        | none => rfl
        | some values => simp [assemble, hinput]

/-! ### Heights -/

/-- The place of a rule in the table, counted from one; for a token with a stem more than any such
place, and growing with its length; otherwise zero. -/
def height (token : String) : Nat :=
  match ruleFor? token with
  | some _ => rules.findIdx (fun rule ↦ rule.token == token) + 1
  | none => if (stem? token).isSome then token.length + rules.length else 0

theorem height_of_rule_le {token : String} {rule : Rule} (hrule : ruleFor? token = some rule) :
    height token ≤ rules.length := by
  have hrules : ∀ rule ∈ rules, height rule.token ≤ rules.length := by decide
  obtain ⟨hmem, rfl⟩ := ruleFor?_eq_some hrule
  exact hrules rule hmem

/-- A rule asks only for lower tokens, since its inputs stand before it in the table. -/
theorem height_input_lt {token input : String} {rule : Rule} (hrule : ruleFor? token = some rule)
    (hinput : input ∈ rule.inputs) : height input < height token := by
  have hrules : ∀ rule ∈ rules, ∀ input ∈ rule.inputs, height input < height rule.token := by
    decide
  obtain ⟨hmem, rfl⟩ := ruleFor?_eq_some hrule
  exact hrules rule hmem input hinput

theorem height_le (token : String) : height token ≤ token.length + rules.length := by
  cases hrule : ruleFor? token with
  | some rule => exact Nat.le_trans (height_of_rule_le hrule) (Nat.le_add_left _ _)
  | none =>
    simp only [height, hrule]
    split <;> omega

/-- An upper-case ending asks only for a lower token. -/
theorem height_stem_lt {token stem : String} (hrule : ruleFor? token = none)
    (hstem : stem? token = some stem) : height stem < height token := by
  have hheight : height token = token.length + rules.length := by simp [height, hrule, hstem]
  have hlength : stem.length < token.length := by
    rw [← (stem?_eq_some_iff.mp hstem).2, String.length_append]
    exact Nat.lt_add_of_pos_right (by decide)
  have := height_le stem
  omega

/-- A derivation takes fewer steps than `depth` allows. -/
theorem height_lt_depth (token : String) : height token < depth token :=
  Nat.lt_succ_of_le (height_le token)

/-! ### The equation of a step -/

/-- One step of the meaning of a token: the supplied value, else the value that its rule gives to
the meanings of its inputs, else the upper-case form of the meaning of its stem. -/
def meaningStep (base : TokenTable) (meaning : String → Option String) (token : String) :
    Option String :=
  match base.find? token with
  | some value => some value
  | none =>
    match ruleFor? token with
    | some rule => (rule.inputs.mapM meaning).map rule.derive
    | none => (stem? token).bind fun stem ↦ (meaning stem).map upperCase

theorem meaningWithin_succ (base : TokenTable) (steps : Nat) (token : String) :
    meaningWithin base (steps + 1) token = meaningStep base (meaningWithin base steps) token := by
  rw [meaningWithin, meaningStep]
  cases base.find? token with
  | some value => rfl
  | none =>
    cases ruleFor? token with
    | some rule => exact partsMeaning_eq (meaningWithin base steps) rule.parts
    | none => cases stem? token <;> rfl

theorem mapM_congr {first second : String → Option String} {tokens : List String}
    (hsame : ∀ token ∈ tokens, first token = second token) :
    tokens.mapM first = tokens.mapM second := by
  induction tokens with
  | nil => rfl
  | cons token rest ih =>
    rw [List.mapM_cons, List.mapM_cons, hsame token List.mem_cons_self,
      ih fun other hother ↦ hsame other (List.mem_cons_of_mem _ hother)]

/-- A step looks only at the meanings of lower tokens. -/
theorem meaningStep_congr {base : TokenTable} {first second : String → Option String}
    {token : String} (hsame : ∀ lower, height lower < height token → first lower = second lower) :
    meaningStep base first token = meaningStep base second token := by
  rw [meaningStep, meaningStep]
  cases base.find? token with
  | some value => rfl
  | none =>
    cases hrule : ruleFor? token with
    | some rule =>
      have hinputs : rule.inputs.mapM first = rule.inputs.mapM second :=
        mapM_congr fun input hinput ↦ hsame input (height_input_lt hrule hinput)
      simp only [hinputs]
    | none =>
      cases hstem : stem? token with
      | none => rfl
      | some stem => simp only [Option.bind_some, hsame stem (height_stem_lt hrule hstem)]

/-- Any two numbers of steps above the height of a token give it the same meaning. -/
theorem meaningWithin_congr (base : TokenTable) {token : String} {few many : Nat}
    (hfew : height token < few) (hmany : height token < many) :
    meaningWithin base few token = meaningWithin base many token := by
  -- Each step leaves one step fewer on both sides, for tokens that are lower by at least one.
  induction few generalizing token many with
  | zero => exact absurd hfew (Nat.not_lt_zero _)
  | succ few ih =>
    cases many with
    | zero => exact absurd hmany (Nat.not_lt_zero _)
    | succ many =>
      rw [meaningWithin_succ, meaningWithin_succ]
      exact meaningStep_congr fun lower hlower ↦ ih (by omega) (by omega)

theorem meaningWithin_eq_meaning? (base : TokenTable) {token : String} {steps : Nat}
    (hsteps : height token < steps) : meaningWithin base steps token = meaning? base token :=
  meaningWithin_congr base hsteps (height_lt_depth token)

/-- The meaning of a token comes from the meanings of the tokens that a step asks for. -/
theorem meaning?_eq_meaningStep (base : TokenTable) (token : String) :
    meaning? base token = meaningStep base (meaning? base) token := by
  rw [meaning?, depth, meaningWithin_succ]
  exact meaningStep_congr fun lower hlower ↦
    meaningWithin_eq_meaning? base (Nat.lt_of_lt_of_le hlower (height_le token))

/-- The meaning of tokens is the only solution of the equation of a step. -/
theorem eq_meaningStep_iff (base : TokenTable) (meaning : String → Option String) :
    (∀ token, meaning token = meaningStep base meaning token) ↔ meaning = meaning? base := by
  constructor
  · intro hmeaning
    -- The equation alone is no recursion, so the two are compared up to a bound on the height.
    have hbelow : ∀ bound token, height token < bound → meaning token = meaning? base token := by
      intro bound
      induction bound with
      | zero => exact fun token hlower ↦ absurd hlower (Nat.not_lt_zero _)
      | succ bound ih =>
        intro token hlower
        rw [hmeaning, meaning?_eq_meaningStep]
        exact meaningStep_congr fun lower hless ↦ ih lower (by omega)
    funext token
    exact hbelow (height token + 1) token (Nat.lt_succ_self _)
  · rintro rfl token
    exact meaning?_eq_meaningStep base token

theorem meaning?_of_supplied {base : TokenTable} {token value : String}
    (hbase : base.find? token = some value) : meaning? base token = some value := by
  rw [meaning?_eq_meaningStep, meaningStep, hbase]

theorem meaning?_of_rule {base : TokenTable} {token : String} {rule : Rule}
    (hbase : base.find? token = none) (hrule : ruleFor? token = some rule) :
    meaning? base token = (rule.inputs.mapM (meaning? base)).map rule.derive := by
  rw [meaning?_eq_meaningStep, meaningStep, hbase, hrule]

/-- A rule derives from the meanings of its inputs. -/
theorem meaning?_of_inputs {base : TokenTable} {token : String} {rule : Rule}
    {inputs values : List String} (hbase : base.find? token = none)
    (hrule : ruleFor? token = some rule) (hinputs : rule.inputs = inputs)
    (hvalues : inputs.mapM (meaning? base) = some values) :
    meaning? base token = some (rule.derive values) := by
  rw [meaning?_of_rule hbase hrule, hinputs, hvalues, Option.map_some]

/-- A rule with a single input derives from the meaning of that. -/
theorem meaning?_of_input {base : TokenTable} {token input value : String} {rule : Rule}
    (hbase : base.find? token = none) (hrule : ruleFor? token = some rule)
    (hinputs : rule.inputs = [input]) (hinput : meaning? base input = some value) :
    meaning? base token = some (rule.derive [value]) :=
  meaning?_of_inputs hbase hrule hinputs (by simp [hinput])

theorem meaning?_of_stem {base : TokenTable} {token stem : String}
    (hbase : base.find? token = none) (hrule : ruleFor? token = none)
    (hstem : stem? token = some stem) :
    meaning? base token = (meaning? base stem).map upperCase := by
  rw [meaning?_eq_meaningStep, meaningStep, hbase, hrule, hstem, Option.bind_some]

theorem meaning?_of_leaf {base : TokenTable} {token : String} (hbase : base.find? token = none)
    (hrule : ruleFor? token = none) (hstem : stem? token = none) : meaning? base token = none := by
  rw [meaning?_eq_meaningStep, meaningStep, hbase, hrule, hstem, Option.bind_none]

/-! ### Why a token has no meaning -/

/-- The first of some tokens without a meaning. -/
def firstMissing? (base : TokenTable) (tokens : List String) : Option String :=
  tokens.find? fun token ↦ (meaning? base token).isNone

theorem firstMissing?_eq_none_iff {base : TokenTable} {tokens : List String} :
    firstMissing? base tokens = none ↔
      ∀ token ∈ tokens, ∃ value, meaning? base token = some value := by
  simp [firstMissing?, ← Option.isSome_iff_exists, Option.isSome_iff_ne_none]

/-- Tokens that do not all have a meaning have a first without one. -/
theorem firstMissing?_of_mapM {base : TokenTable} {tokens : List String}
    (hnone : tokens.mapM (meaning? base) = none) :
    ∃ token, firstMissing? base tokens = some token := by
  refine Option.ne_none_iff_exists'.mp fun hmissing ↦ ?_
  have hall := firstMissing?_eq_none_iff.mp hmissing
  clear hmissing
  induction tokens with
  | nil => simp at hnone
  | cons token rest ih =>
    obtain ⟨value, hvalue⟩ := hall token List.mem_cons_self
    cases hrest : rest.mapM (meaning? base) with
    | none => exact ih hrest fun other hother ↦ hall other (List.mem_cons_of_mem _ hother)
    | some values => simp [hvalue, hrest] at hnone

/-- A rule whose inputs all have a meaning gives its token one. -/
theorem exists_meaning_of_rule {base : TokenTable} {token : String} {rule : Rule}
    (hrule : ruleFor? token = some rule)
    (hinputs : ∀ input ∈ rule.inputs, ∃ value, meaning? base input = some value) :
    ∃ value, meaning? base token = some value := by
  cases hbase : base.find? token with
  | some value => exact ⟨value, meaning?_of_supplied hbase⟩
  | none =>
    rw [meaning?_of_rule hbase hrule]
    cases hvalues : rule.inputs.mapM (meaning? base) with
    | some values => exact ⟨rule.derive values, rfl⟩
    | none =>
      obtain ⟨input, hinput⟩ := firstMissing?_of_mapM hvalues
      rw [firstMissing?_eq_none_iff.mpr hinputs] at hinput
      simp at hinput

/-- A stem with a meaning gives its upper-case token one. -/
theorem exists_meaning_of_stem {base : TokenTable} {token stem : String}
    (hrule : ruleFor? token = none) (hstem : stem? token = some stem)
    (hmeaning : ∃ value, meaning? base stem = some value) :
    ∃ value, meaning? base token = some value := by
  cases hbase : base.find? token with
  | some value => exact ⟨value, meaning?_of_supplied hbase⟩
  | none =>
    obtain ⟨value, hvalue⟩ := hmeaning
    exact ⟨upperCase value, by rw [meaning?_of_stem hbase hrule hstem, hvalue, Option.map_some]⟩

theorem exists_of_mapM {meaning : String → Option String} {tokens values : List String}
    (hvalues : tokens.mapM meaning = some values) :
    ∀ token ∈ tokens, ∃ value, meaning token = some value := by
  induction tokens generalizing values with
  | nil => simp
  | cons token rest ih =>
    rw [List.mapM_cons] at hvalues
    cases hvalue : meaning token with
    | none => simp [hvalue] at hvalues
    | some value =>
      cases hrest : rest.mapM meaning with
      | none => simp [hvalue, hrest] at hvalues
      | some others => exact List.forall_mem_cons.mpr ⟨⟨value, hvalue⟩, ih hrest⟩

/-- A token with a meaning keeps one when more names are supplied, whatever their values. -/
theorem exists_meaning_mono {fewer more : TokenTable}
    (hmore : ∀ name value, fewer.find? name = some value → ∃ value, more.find? name = some value)
    {token : String} (hmeaning : ∃ value, meaning? fewer token = some value) :
    ∃ value, meaning? more token = some value := by
  -- What is supplied or derived for a token comes from lower ones.
  induction hheight : height token using Nat.strong_induction_on generalizing token with
  | _ bound ih =>
    subst hheight
    obtain ⟨value, hvalue⟩ := hmeaning
    cases hfewer : fewer.find? token with
    | some supplied =>
      obtain ⟨other, hother⟩ := hmore token supplied hfewer
      exact ⟨other, meaning?_of_supplied hother⟩
    | none =>
      cases hrule : ruleFor? token with
      | some rule =>
        rw [meaning?_of_rule hfewer hrule] at hvalue
        obtain ⟨values, hvalues, -⟩ := Option.map_eq_some_iff.mp hvalue
        refine exists_meaning_of_rule hrule fun input hinput ↦ ?_
        exact ih _ (height_input_lt hrule hinput) (exists_of_mapM hvalues input hinput) rfl
      | none =>
        cases hstem : stem? token with
        | none => simp [meaning?_of_leaf hfewer hrule hstem] at hvalue
        | some stem =>
          rw [meaning?_of_stem hfewer hrule hstem] at hvalue
          obtain ⟨other, hother, -⟩ := Option.map_eq_some_iff.mp hvalue
          exact exists_meaning_of_stem hrule hstem
            (ih _ (height_stem_lt hrule hstem) ⟨other, hother⟩ rfl)

/-- The token to blame for a token without a meaning: the one to blame for the first missing input
of its rule or for its stem, or the token itself. -/
def cause (base : TokenTable) (token : String) : String :=
  match _hrule : ruleFor? token with
  | some rule =>
    match _hmissing : firstMissing? base rule.inputs with
    | some input => cause base input
    | none => token
  | none =>
    match _hstem : stem? token with
    | some stem => cause base stem
    | none => token
  termination_by height token
  decreasing_by
    · exact height_input_lt _hrule (List.mem_of_find?_eq_some _hmissing)
    · exact height_stem_lt _hrule _hstem

theorem cause_of_rule {base : TokenTable} {token input : String} {rule : Rule}
    (hrule : ruleFor? token = some rule) (hinput : firstMissing? base rule.inputs = some input) :
    cause base token = cause base input := by
  rw [cause]
  grind

theorem cause_of_complete {base : TokenTable} {token : String} {rule : Rule}
    (hrule : ruleFor? token = some rule) (hinputs : firstMissing? base rule.inputs = none) :
    cause base token = token := by
  rw [cause]
  grind

theorem cause_of_stem {base : TokenTable} {token stem : String} (hrule : ruleFor? token = none)
    (hstem : stem? token = some stem) : cause base token = cause base stem := by
  rw [cause]
  grind

theorem cause_of_leaf {base : TokenTable} {token : String} (hrule : ruleFor? token = none)
    (hstem : stem? token = none) : cause base token = token := by
  rw [cause]
  grind

end Scaffold.Token
