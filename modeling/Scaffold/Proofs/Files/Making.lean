import Scaffold.Proofs.Files.Following

/-!
# Making directories

Making a directory puts one under a free name of a directory (`exists_of_makeDirectory`), and making
those on the way does this again and again, each time where an initial part of the components leads
(`makeSteps_induction`). So the tree grows by directories on the way and by nothing else
(`growsAlong_makeDirectories`), wherever the system refuses to go on, and it stays sound.

A path that led nowhere is not led anywhere by this: the directories that are made are empty
(`entryAt_makeDirectories_ne_ok`). Only a path that goes up again from one of them may come to what
was there before.
-/

set_option autoImplicit false

namespace Scaffold.FileTree

variable {tree other made : FileTree} {here : Location}

/-! ### Larger trees -/

/-- Every entry lies in a directory. -/
def IsSound (tree : FileTree) : Prop :=
  ∀ location name entry, tree.find? (location ++ [name]) = some entry →
    tree.find? location = some .directory

theorem isSound_empty : empty.IsSound := by
  intro location name entry hentry
  rw [find?_empty (by simp)] at hentry
  cases hentry

/-- The other tree has every entry of the tree. -/
def Keeps (tree other : FileTree) : Prop :=
  ∀ location entry, tree.find? location = some entry → other.find? location = some entry

theorem Keeps.follow_eq (hkeeps : tree.Keeps other) {components : List Component}
    {place : Location} (hfollow : tree.follow here components = .ok place) :
    other.follow here components = .ok place :=
  walkLinks_of_keepsWay (fun location entry hfind _ ↦ hkeeps location entry hfind) hfollow

theorem Keeps.reaches (hkeeps : tree.Keeps other) {components : List Component}
    {directory : Location} (hreaches : tree.Reaches here components directory) :
    other.Reaches here components directory :=
  ⟨hkeeps.follow_eq hreaches.1, hkeeps _ _ hreaches.2⟩

/-- What a path leads to it leads to in a larger tree. -/
theorem Keeps.entryAt_eq (hkeeps : tree.Keeps other) {path : Path} {entry : Entry}
    (hentry : tree.entryAt here path = .ok entry) : other.entryAt here path = .ok entry := by
  rw [entryAt, bind_eq_ok_iff] at hentry ⊢
  obtain ⟨location, hlocate, hfind⟩ := hentry
  refine ⟨location, ?_, ?_⟩
  · rw [locate] at hlocate ⊢
    cases hfault : pathFault? path with
    | some fault =>
      rw [hfault] at hlocate
      cases hlocate
    | none =>
      rw [hfault] at hlocate
      exact walkLinks_of_keepsWay (fun location entry hfind _ ↦ hkeeps location entry hfind) hlocate
  · cases hheld : tree.find? location with
    | none =>
      rw [hheld] at hfind
      cases hfind
    | some held =>
      rw [hheld] at hfind
      rw [hkeeps _ _ hheld]
      exact hfind

theorem keeps_put {location : Location} (hbelow : location ≠ [])
    (hfree : tree.find? location = none) (entry : Entry) :
    tree.Keeps (tree.put location entry) := by
  intro place held hheld
  rw [find?_put tree hbelow, if_neg, hheld]
  rintro rfl
  rw [hfree] at hheld
  cases hheld

/-- A new directory in a sound tree leaves it sound. -/
theorem IsSound.put_directory (hsound : tree.IsSound) {directory : Location} {name : String}
    (hdirectory : tree.find? directory = some .directory)
    (hfree : tree.find? (directory ++ [name]) = none) :
    (tree.put (directory ++ [name]) .directory).IsSound := by
  have hbelow : directory ++ [name] ≠ [] := by simp
  have hkeeps := keeps_put hbelow hfree .directory
  intro location last entry hentry
  rw [find?_put tree hbelow] at hentry
  split at hentry
  · rename_i hplace
    obtain ⟨rfl, -⟩ := List.append_inj' hplace rfl
    exact hkeeps _ _ hdirectory
  · exact hkeeps _ _ (hsound location last entry hentry)

/-- Nothing lies below what is no directory. -/
theorem IsSound.find?_below (hsound : tree.IsSound) {location : Location}
    (hnone : tree.find? location = none) (name : String) :
    tree.find? (location ++ [name]) = none := by
  by_contra hheld
  obtain ⟨entry, hentry⟩ := Option.ne_none_iff_exists'.mp hheld
  rw [hsound location name entry hentry] at hnone
  cases hnone

/-! ### One directory -/

/-- Making a directory puts one under a free name of the directory that the path lies in. -/
theorem exists_of_makeDirectory {path : Path} (hmake : tree.makeDirectory here path = .ok made) :
    ∃ before name directory, path.components = before ++ [.named name] ∧
      tree.Reaches here before directory ∧ tree.find? (directory ++ [name]) = none ∧
      ¬name.utf8ByteSize > nameLimit ∧ made = tree.put (directory ++ [name]) .directory := by
  rw [makeDirectory, bind_eq_ok_iff] at hmake
  obtain ⟨location, hlocate, hput⟩ := hmake
  obtain ⟨before, name, directory, hcomponents, hreaches, rfl, hlength, -⟩ :=
    exists_of_locateNew hlocate
  cases hfind : tree.find? (directory ++ [name]) with
  | some entry =>
    rw [hfind] at hput
    cases hput
  | none =>
    rw [hfind] at hput
    exact ⟨before, name, directory, hcomponents, hreaches, hfind, hlength,
      (Except.ok.inj hput).symm⟩

/-- Components that end in a new directory lead there. -/
theorem Reaches.put_directory {before : List Component} {name : String} {directory : Location}
    (hreaches : tree.Reaches here before directory) (hname : Component.IsName name)
    (hfree : tree.find? (directory ++ [name]) = none) (hlength : ¬name.utf8ByteSize > nameLimit) :
    (tree.put (directory ++ [name]) .directory).Reaches here (before ++ [.named name])
      (directory ++ [name]) := by
  have hbelow : directory ++ [name] ≠ [] := by simp
  have hnew : (tree.put (directory ++ [name]) .directory).find? (directory ++ [name]) =
      some .directory := by
    rw [find?_put tree hbelow, if_pos rfl]
  obtain ⟨left, hfollow⟩ := ((keeps_put hbelow hfree _).reaches hreaches).exists_follow_append
    (List.cons_ne_nil (Component.named name) [])
    (by simpa using .inr ⟨name, hname, rfl⟩)
  refine ⟨hfollow.trans ?_, hnew⟩
  exact walkLinks_name hname hlength hnew (fun _ ↦ nofun) left

/-! ### Directories on the way -/

section Steps

variable {refusals : Refusals} {components : List Component}

/-- What one directory keeps, made where an initial part of the components leads, is kept by making
all of them. -/
theorem makeSteps_induction {P : FileTree → Prop} (htrack : Path.IsTrack components)
    (hmake : ∀ tree before name directory, before ++ [.named name] <+: components →
      tree.Reaches here before directory → tree.find? (directory ++ [name]) = none →
      ¬name.utf8ByteSize > nameLimit → P tree → P (tree.put (directory ++ [name]) .directory))
    (htree : P tree) : P (tree.makeSteps refusals here components.reverse).2 := by
  have hensure : ∀ tree before, before <+: components → P tree →
      P (tree.ensureDirectory refusals here (Path.ofComponents before)).2 := by
    intro tree before hbefore htree
    rw [ensureDirectory]
    split
    · rename_i made hmade
      rw [bind_eq_ok_iff] at hmade
      obtain ⟨-, -, hmade⟩ := hmade
      obtain ⟨front, name, directory, hcomponents, hreaches, hfree, hlength, rfl⟩ :=
        exists_of_makeDirectory hmade
      rw [Path.components_ofComponents (htrack.of_prefix hbefore)] at hcomponents
      exact hmake tree front name directory (hcomponents ▸ hbefore) hreaches hfree hlength htree
    · exact htree
  have hsteps : ∀ steps : List Component, steps.reverse <+: components → ∀ tree, P tree →
      P (tree.makeSteps refusals here steps).2 := by
    intro steps
    induction steps with
    | nil => exact fun _ _ htree ↦ htree
    | cons last before ih =>
      intro hprefix tree htree
      have hbefore : before.reverse <+: components := by
        rw [List.reverse_cons] at hprefix
        exact (List.prefix_append _ _).trans hprefix
      have hfirst := hensure tree _ hprefix htree
      rw [makeSteps]
      split
      · have hothers := ih hbefore tree htree
        split
        · rename_i grown hgrown
          rw [hgrown] at hothers
          exact hensure grown _ hprefix hothers
        · rename_i grown hgrown
          rw [hgrown] at hothers
          exact hothers
      · rename_i outcome grown _ houtcome
        rw [houtcome] at hfirst
        exact hfirst
  have hall : components.reverse.reverse <+: components := by simp
  exact hsteps components.reverse hall tree htree

end Steps

/-- The tree has grown by nothing but directories, each where an initial part of the components
leads. -/
structure GrowsAlong (tree made : FileTree) (here : Location) (components : List Component) :
    Prop where
  keeps : tree.Keeps made
  added : ∀ location entry, tree.find? location = none → made.find? location = some entry →
    entry = .directory ∧
      ∃ before, before <+: components ∧ made.follow here before = .ok location

/-- Making a directory, and those on the way to it, makes nothing else. -/
theorem growsAlong_makeDirectories (tree : FileTree) (refusals : Refusals) (here : Location)
    (path : Path) :
    tree.GrowsAlong (tree.makeDirectories refusals here path).2 here path.components := by
  have htrack := path.isTrack_components
  refine makeSteps_induction (P := fun made ↦ tree.GrowsAlong made here path.components) htrack ?_
    ⟨fun _ _ hfind ↦ hfind, fun location entry hnone hfind ↦ ?_⟩
  · intro made before name directory hprefix hreaches hfree hlength hgrows
    have hbelow : directory ++ [name] ≠ [] := by simp
    have hkeeps := keeps_put hbelow hfree .directory
    have hname := (htrack.of_prefix hprefix).isName (List.mem_append_right _ List.mem_cons_self)
    refine ⟨fun location entry hfind ↦ hkeeps _ _ (hgrows.keeps _ _ hfind), ?_⟩
    intro location entry hnone hfind
    rw [find?_put made hbelow] at hfind
    split at hfind
    · rename_i hplace
      subst hplace
      exact ⟨(Option.some.inj hfind).symm, _, hprefix,
        (hreaches.put_directory hname hfree hlength).1⟩
    · obtain ⟨hentry, shorter, hshorter, hfollow⟩ := hgrows.added location entry hnone hfind
      exact ⟨hentry, shorter, hshorter, hkeeps.follow_eq hfollow⟩
  · rw [hnone] at hfind
    cases hfind

/-- Every step up on the way is taken from a place that is there. -/
def HasAscents (tree : FileTree) (here : Location) (path : Path) : Prop :=
  ∀ before after, path.components = before ++ .parent :: after →
    ∃ place, tree.follow here before = .ok place

/-- A path without steps up takes none from a missing place. -/
theorem hasAscents_of_not_mem {path : Path} (hnone : .parent ∉ path.components) :
    tree.HasAscents here path := by
  intro before after hcomponents
  rw [hcomponents] at hnone
  exact absurd (List.mem_append_right before List.mem_cons_self) hnone

/-- Components that end in a name that is not there lead nowhere. -/
theorem Reaches.exists_follow_eq_error {before : List Component} {name : String}
    {directory : Location} (hreaches : tree.Reaches here before directory)
    (hname : Component.IsName name) (hfree : tree.find? (directory ++ [name]) = none)
    {rest : List Component} (hinner : ∀ component ∈ rest, component.IsInner) :
    ∃ error, tree.follow here (before ++ .named name :: rest) = .error error := by
  obtain ⟨left, hfollow⟩ := hreaches.exists_follow_append (List.cons_ne_nil (.named name) rest)
    (List.forall_mem_cons.mpr ⟨.inr ⟨name, hname, rfl⟩, hinner⟩)
  obtain ⟨error, herror⟩ := exists_walkLinks_eq_error hname hfree left (rest.map Component.part)
  exact ⟨error, hfollow.trans herror⟩

/-- What led nowhere leads nowhere when a directory on the way to it is made, since nothing lies in
it: this takes a path that does not go up again from there. -/
theorem entryAt_makeDirectories_ne_ok (hsound : tree.IsSound) (refusals : Refusals) {path : Path}
    {before : List Component} {name : String}
    (hcomponents : path.components = before ++ [.named name])
    (hascents : tree.HasAscents here path)
    (hnowhere : ∀ entry, tree.entryAt here path ≠ .ok entry) (entry : Entry) :
    (tree.makeDirectories refusals here path.parent).2.entryAt here path ≠ .ok entry := by
  have htrack := path.isTrack_components
  have hprefix : before <+: path.components := hcomponents ▸ List.prefix_append _ _
  have hbefore : path.parent.components = before := by
    rw [Path.parent, hcomponents, List.dropLast_concat,
      Path.components_ofComponents (htrack.of_prefix hprefix)]
  suffices hmade : tree.Keeps (tree.makeDirectories refusals here path.parent).2 ∧
      (tree.makeDirectories refusals here path.parent).2.IsSound ∧
      ∀ entry, (tree.makeDirectories refusals here path.parent).2.entryAt here path ≠ .ok entry from
    hmade.2.2 entry
  rw [makeDirectories, hbefore]
  refine makeSteps_induction (P := fun made ↦ tree.Keeps made ∧ made.IsSound ∧
    ∀ entry, made.entryAt here path ≠ .ok entry) (htrack.of_prefix hprefix) ?_
    ⟨fun _ _ hfind ↦ hfind, hsound, hnowhere⟩
  rintro made front last directory ⟨after, rfl⟩ hreaches hfree hlength ⟨hkept, hmade, -⟩
  have hname : Component.IsName last := htrack.isName (by simp [hcomponents])
  have hkeeps := keeps_put (by simp) hfree .directory
  refine ⟨fun location held hheld ↦ hkeeps _ _ (hkept _ _ hheld),
    hmade.put_directory hreaches.2 hfree, fun entry hentry ↦ ?_⟩
  obtain ⟨next, rest, hrest⟩ : ∃ next rest, after ++ [.named name] = next :: rest :=
    List.exists_cons_of_ne_nil (by simp)
  have hlonger : path.components = front ++ [.named last] ++ next :: rest := by
    rw [hcomponents, List.append_assoc, hrest]
  have hinner : ∀ component ∈ next :: rest, component.IsInner := fun component hcomponent ↦
    (hlonger ▸ htrack).isInner (by simp) hcomponent
  -- The path goes on by a name, since it does not go up from a place that was not there.
  obtain ⟨step, hstep, rfl⟩ : ∃ step, Component.IsName step ∧ next = .named step := by
    rcases hinner next List.mem_cons_self with rfl | hstep
    · obtain ⟨place, hplace⟩ := hascents _ _ hlonger
      obtain ⟨error, herror⟩ : ∃ error, made.follow here (front ++ [.named last]) = .error error :=
        hreaches.exists_follow_eq_error hname hfree (by simp)
      rw [hkept.follow_eq hplace] at herror
      cases herror
    · exact hstep
  have hempty : (made.put (directory ++ [last]) .directory).find?
      (directory ++ [last] ++ [step]) = none := by
    rw [find?_put made (by simp), if_neg (by simp)]
    exact hmade.find?_below hfree step
  obtain ⟨error, herror⟩ := (hreaches.put_directory hname hfree hlength).exists_follow_eq_error
    hstep hempty fun component hcomponent ↦ hinner component (List.mem_cons_of_mem _ hcomponent)
  rw [← hlonger] at herror
  obtain ⟨location, hlocate, -⟩ := bind_eq_ok_iff.mp hentry
  exact locate_ne_ok hcomponents herror location hlocate

end Scaffold.FileTree
