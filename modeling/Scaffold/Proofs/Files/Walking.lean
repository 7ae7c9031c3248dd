import Scaffold.Files.Lookup

/-!
# Walking paths

What a walk does next is decided by what it meets at the next part (`Meeting`, `walk_cons`). So one
that succeeds needs nothing of the tree but the directories and links on its way and what it comes
to (`walkLinks_of_keepsWay`).

A walk over more parts begins as the walk over the first of them: where that fails the longer one
fails too (`walkLinks_append_of_error`), and from the location that it comes to the other parts are
walked with the links that are left (`walkLinks_append_of_ok`). Empty parts and dots carry no
meaning before another part (`walkLinks_filter`).
-/

set_option autoImplicit false

namespace Scaffold.FileTree

variable {tree other : FileTree}

/-! ### One part -/

/-- What a walk meets at a part: a location to go on from, a file to end at, a link to walk instead,
or nothing. -/
inductive Meeting
  | goes (next : Location)
  | ends (place : Location)
  | jumps (start : Location) (parts : List String)
  | fails (error : SystemError)

/-- What lies at a part, seen from a location. -/
def meeting (tree : FileTree) (here : Location) (part : String) : Meeting :=
  if part = "" ∨ part = "." then .goes here
  else if part = ".." then .goes here.dropLast
  else if part.utf8ByteSize > nameLimit then .fails .nameTooLong
  else
    match tree.find? (here ++ [part]) with
    | none => .fails .notFound
    | some .directory => .goes (here ++ [part])
    | some (.file _ _) => .ends (here ++ [part])
    | some (.link target) =>
      .jumps (if target.isAbsolute then [] else here) (Text.parts '/' target.text)

theorem walk_cons (jump : Location → List String → Except SystemError Location) (here : Location)
    (part : String) (rest : List String) :
    tree.walk true jump here (part :: rest) =
      match tree.meeting here part with
      | .goes next => tree.walk true jump next rest
      | .ends place => if rest.isEmpty then .ok place else .error .notDirectory
      | .jumps start parts => jump start (parts ++ rest)
      | .fails error => .error error := by
  rw [walk, meeting]
  by_cases hblank : part = "" ∨ part = "."
  · rw [if_pos hblank, if_pos hblank]
  · rw [if_neg hblank, if_neg hblank]
    by_cases hparent : part = ".."
    · rw [if_pos hparent, if_pos hparent]
    · rw [if_neg hparent, if_neg hparent]
      by_cases hlong : part.utf8ByteSize > nameLimit
      · rw [if_pos hlong, if_pos hlong]
      · rw [if_neg hlong, if_neg hlong]
        rcases tree.find? (here ++ [part]) with - | entry
        · rfl
        · cases entry <;> simp

/-- What a walk meets at a name that is there. -/
theorem meeting_of_name (tree : FileTree) (here : Location) {name : String}
    (hplain : name ≠ "" ∧ name ≠ ".") (hname : name ≠ "..")
    (hlength : ¬name.utf8ByteSize > nameLimit) :
    tree.meeting here name =
      match tree.find? (here ++ [name]) with
      | none => .fails .notFound
      | some .directory => .goes (here ++ [name])
      | some (.file _ _) => .ends (here ++ [name])
      | some (.link target) =>
        .jumps (if target.isAbsolute then [] else here) (Text.parts '/' target.text) := by
  rw [meeting, if_neg (not_or.mpr hplain), if_neg hname, if_neg hlength]

/-! ### What a walk needs -/

/-- The other tree has what leads to a place in the tree: the directories and the links, and a file
at the place itself. -/
def KeepsWay (tree other : FileTree) (place : Location) : Prop :=
  ∀ location entry, tree.find? location = some entry →
    (∀ octets isExecutable, entry = .file octets isExecutable → location = place) →
    other.find? location = some entry

theorem KeepsWay.meeting_eq {place here : Location} {part : String}
    (hkeeps : tree.KeepsWay other place) (hmeets : ∀ error, tree.meeting here part ≠ .fails error)
    (hends : ∀ location, tree.meeting here part = .ends location → location = place) :
    other.meeting here part = tree.meeting here part := by
  rw [meeting] at hmeets hends ⊢
  rw [meeting]
  by_cases hblank : part = "" ∨ part = "."
  · rw [if_pos hblank, if_pos hblank]
  · rw [if_neg hblank] at hmeets hends ⊢
    rw [if_neg hblank]
    by_cases hparent : part = ".."
    · rw [if_pos hparent, if_pos hparent]
    · rw [if_neg hparent] at hmeets hends ⊢
      rw [if_neg hparent]
      by_cases hlong : part.utf8ByteSize > nameLimit
      · rw [if_pos hlong, if_pos hlong]
      · rw [if_neg hlong] at hmeets hends ⊢
        rw [if_neg hlong]
        cases hfind : tree.find? (here ++ [part]) with
        | none =>
          rw [hfind] at hmeets
          exact absurd rfl (hmeets .notFound)
        | some entry =>
          have hkept : other.find? (here ++ [part]) = some entry := by
            refine hkeeps _ entry hfind fun octets isExecutable hentry ↦ hends _ ?_
            rw [hfind, hentry]
          rw [hkept]

theorem walk_of_keepsWay {place : Location} (hkeeps : tree.KeepsWay other place)
    {jump otherJump : Location → List String → Except SystemError Location}
    (hjump : ∀ here parts, jump here parts = .ok place → otherJump here parts = .ok place)
    {here : Location} {parts : List String} (hwalk : tree.walk true jump here parts = .ok place) :
    other.walk true otherJump here parts = .ok place := by
  induction parts generalizing here with
  | nil => exact hwalk
  | cons part rest ih =>
    rw [walk_cons] at hwalk ⊢
    have hmeeting : other.meeting here part = tree.meeting here part := by
      refine hkeeps.meeting_eq (fun error hfails ↦ ?_) fun location hends ↦ ?_
      · rw [hfails] at hwalk
        cases hwalk
      -- A walk does not go on from a file, so it ends there.
      · rw [hends] at hwalk
        cases rest with
        | nil => exact Except.ok.inj hwalk
        | cons _ _ => cases hwalk
    rw [hmeeting]
    cases hmeets : tree.meeting here part with
    | goes next =>
      rw [hmeets] at hwalk
      exact ih hwalk
    | ends location =>
      rw [hmeets] at hwalk
      exact hwalk
    | jumps start target =>
      rw [hmeets] at hwalk
      exact hjump start _ hwalk
    | fails error =>
      rw [hmeets] at hwalk
      exact hwalk

/-- A walk leads to the same place in a tree that has what leads there. -/
theorem walkLinks_of_keepsWay {place : Location} (hkeeps : tree.KeepsWay other place) {left : Nat}
    {here : Location} {parts : List String}
    (hwalk : tree.walkLinks true left here parts = .ok place) :
    other.walkLinks true left here parts = .ok place := by
  induction left generalizing here parts with
  | zero => exact walk_of_keepsWay hkeeps (fun _ _ hjump ↦ hjump) hwalk
  | succ left ih => exact walk_of_keepsWay hkeeps (fun _ _ hjump ↦ ih hjump) hwalk

/-! ### Longer walks -/

theorem walk_append_of_error {error : SystemError} (more : List String)
    {jump : Location → List String → Except SystemError Location}
    (hjump : ∀ here parts, jump here parts = .error error →
      jump here (parts ++ more) = .error error)
    {here : Location} {parts : List String}
    (hwalk : tree.walk true jump here parts = .error error) :
    tree.walk true jump here (parts ++ more) = .error error := by
  induction parts generalizing here with
  | nil => cases hwalk
  | cons part rest ih =>
    rw [walk_cons] at hwalk
    rw [List.cons_append, walk_cons]
    cases hmeets : tree.meeting here part with
    | goes next =>
      rw [hmeets] at hwalk
      exact ih hwalk
    | ends location =>
      rw [hmeets] at hwalk
      cases rest with
      | nil => cases hwalk
      | cons _ _ => exact hwalk
    | jumps start target =>
      rw [hmeets] at hwalk
      simp only [← List.append_assoc]
      exact hjump start _ hwalk
    | fails error =>
      rw [hmeets] at hwalk
      exact hwalk

/-- Where a walk fails, a longer one fails too. -/
theorem walkLinks_append_of_error {error : SystemError} (more : List String) {left : Nat}
    {here : Location} {parts : List String}
    (hwalk : tree.walkLinks true left here parts = .error error) :
    tree.walkLinks true left here (parts ++ more) = .error error := by
  induction left generalizing here parts with
  | zero =>
    refine walk_append_of_error more ?_ hwalk
    exact fun _ _ hjump ↦ hjump
  | succ left ih => exact walk_append_of_error more (fun _ _ hjump ↦ ih hjump) hwalk

/-- A result is that of walking on from a place, with some number of links left, or the place is a
file and the result says so. -/
def GoesOn (tree : FileTree) (place : Location) (more : List String)
    (result : Except SystemError Location) : Prop :=
  (∃ left, result = tree.walkLinks true left place more) ∨
    (∃ octets isExecutable, tree.find? place = some (.file octets isExecutable)) ∧
      result = .error .notDirectory

theorem find?_of_meeting_ends {here place : Location} {part : String}
    (hends : tree.meeting here part = .ends place) :
    ∃ octets isExecutable, tree.find? place = some (.file octets isExecutable) := by
  rw [meeting] at hends
  split at hends
  · cases hends
  · split at hends
    · cases hends
    · split at hends
      · cases hends
      · split at hends
        · cases hends
        · cases hends
        · rename_i octets isExecutable hfile
          cases hends
          exact ⟨octets, isExecutable, hfile⟩
        · cases hends

theorem walk_append_of_ok {place : Location} {more : List String} (hmore : more ≠ [])
    {jump : Location → List String → Except SystemError Location}
    (hbase : ∃ left, tree.walk true jump place more = tree.walkLinks true left place more)
    (hjump : ∀ here parts, jump here parts = .ok place →
      tree.GoesOn place more (jump here (parts ++ more)))
    {here : Location} {parts : List String} (hwalk : tree.walk true jump here parts = .ok place) :
    tree.GoesOn place more (tree.walk true jump here (parts ++ more)) := by
  induction parts generalizing here with
  | nil =>
    obtain rfl : here = place := Except.ok.inj hwalk
    exact .inl hbase
  | cons part rest ih =>
    rw [walk_cons] at hwalk
    rw [List.cons_append, walk_cons]
    cases hmeets : tree.meeting here part with
    | goes next =>
      rw [hmeets] at hwalk
      exact ih hwalk
    | ends location =>
      rw [hmeets] at hwalk
      cases rest with
      | nil =>
        obtain rfl : location = place := Except.ok.inj hwalk
        refine .inr ⟨find?_of_meeting_ends hmeets, ?_⟩
        rw [List.nil_append]
        exact if_neg (by simpa using hmore)
      | cons _ _ => cases hwalk
    | jumps start target =>
      rw [hmeets] at hwalk
      simp only [← List.append_assoc]
      exact hjump start _ hwalk
    | fails error =>
      rw [hmeets] at hwalk
      cases hwalk

/-- A longer walk goes on from the place that the first parts lead to. -/
theorem walkLinks_append_of_ok {place : Location} {more : List String} (hmore : more ≠ [])
    {left : Nat} {here : Location} {parts : List String}
    (hwalk : tree.walkLinks true left here parts = .ok place) :
    tree.GoesOn place more (tree.walkLinks true left here (parts ++ more)) := by
  induction left generalizing here parts with
  | zero =>
    refine walk_append_of_ok hmore ⟨0, rfl⟩ ?_ hwalk
    exact fun _ _ hjump ↦ nomatch hjump
  | succ left ih => exact walk_append_of_ok hmore ⟨left + 1, rfl⟩ (fun _ _ hjump ↦ ih hjump) hwalk

/-! ### Parts without meaning -/

/-- The part is a step of a path. -/
def isStep (part : String) : Bool :=
  part != "" && part != "."

theorem meeting_of_not_isStep {here : Location} {part : String} (hblank : isStep part = false) :
    tree.meeting here part = .goes here := by
  refine if_pos (Decidable.or_iff_not_imp_left.mpr ?_)
  simpa [isStep] using hblank

theorem walk_filter {more : List String} (hmore : more ≠ [])
    {jump : Location → List String → Except SystemError Location}
    (hjump : ∀ here parts skipped, jump here (parts ++ (skipped.filter isStep ++ more)) =
      jump here (parts ++ (skipped ++ more)))
    (here : Location) (parts skipped : List String) :
    tree.walk true jump here (parts ++ (skipped.filter isStep ++ more)) =
      tree.walk true jump here (parts ++ (skipped ++ more)) := by
  have hnonempty : ∀ first second : List String,
      (first ++ (second ++ more)).isEmpty = false := by simp [hmore]
  induction parts generalizing here with
  | cons part rest ih =>
    simp only [List.cons_append, walk_cons, ih, hnonempty]
    cases tree.meeting here part with
    | jumps start target =>
      simpa only [List.append_assoc] using hjump start (target ++ rest) skipped
    | _ => rfl
  | nil =>
    simp only [List.nil_append]
    induction skipped generalizing here with
    | nil => rfl
    | cons part rest ih =>
      cases hstep : isStep part with
      | false =>
        rw [List.filter_cons_of_neg (by simp [hstep]), List.cons_append, walk_cons,
          meeting_of_not_isStep hstep]
        exact ih here
      | true =>
        rw [List.filter_cons_of_pos hstep, List.cons_append, List.cons_append, walk_cons, walk_cons]
        simp only [ih, hjump]
        cases tree.meeting here part with
        | ends place => simp [hmore]
        | _ => rfl

/-- Parts without meaning can be left out before others. -/
theorem walkLinks_filter (tree : FileTree) {more : List String} (hmore : more ≠ []) (left : Nat)
    (here : Location) (parts skipped : List String) :
    tree.walkLinks true left here (parts ++ (skipped.filter isStep ++ more)) =
      tree.walkLinks true left here (parts ++ (skipped ++ more)) := by
  induction left generalizing here parts skipped with
  | zero => exact walk_filter hmore (fun _ _ _ ↦ rfl) here parts skipped
  | succ left ih => exact walk_filter hmore ih here parts skipped

end Scaffold.FileTree
