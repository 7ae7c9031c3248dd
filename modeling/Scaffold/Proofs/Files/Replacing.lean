import Scaffold.Proofs.Files.Making

/-!
# Putting a whole file in place

The temporary file lies under a name that no entry has, so filling it and taking it away again
leaves the tree as it was (`HasBeside.find?_erase`), and moving it changes the destination and
nothing else (`exists_replaces_of_rename`). Whatever the system refuses, the destination has either
what it had or the whole new contents (`putsWhole_of_writeWhole`, `leavesAlone_of_writeWhole`): the
rest of the tree has at most grown by directories on the way.

The path leads to the new file afterwards (`Replaces.read_eq`), unless this has replaced a link that
the path itself goes through.
-/

set_option autoImplicit false

namespace Scaffold.FileTree

variable {tree made filled after : FileTree} {refusals : Refusals} {here : Location} {path : Path}
  {octets : List UInt8}

/-! ### The temporary file -/

/-- The tree with an entry at one location. -/
def HasBeside (tree filled : FileTree) (location : Location) (entry : Entry) : Prop :=
  ∀ other, filled.find? other = if location = other then some entry else tree.find? other

theorem hasBeside_put_put {location : Location} (hbelow : location ≠ []) (first second : Entry) :
    tree.HasBeside ((tree.put location first).put location second) location second := by
  intro other
  rw [find?_put _ hbelow, find?_put tree hbelow]
  split <;> rfl

/-- What lies under a free name and is taken away again leaves no trace. -/
theorem HasBeside.find?_erase {location : Location} {entry : Entry}
    (hfilled : tree.HasBeside filled location entry) (hbelow : location ≠ [])
    (hfree : tree.find? location = none) (other : Location) :
    (filled.erase location).find? other = tree.find? other := by
  rw [FileTree.find?_erase _ hbelow, hfilled]
  split
  · rename_i hplace
    rw [← hplace, hfree]
  · rfl

theorem HasBeside.keeps {location : Location} {entry : Entry}
    (hfilled : tree.HasBeside filled location entry) (hfree : tree.find? location = none) :
    tree.Keeps filled := by
  intro other held hheld
  rw [hfilled, if_neg, hheld]
  rintro rfl
  rw [hfree] at hheld
  cases hheld

/-- A temporary file is made under a fresh name beside the destination. -/
theorem exists_of_locateTemporary {temporary : Location}
    (hlocate : tree.locateTemporary refusals here path = .ok temporary) :
    ∃ directory, tree.locateParent here path = .ok directory ∧
      temporary = directory ++ [tree.freshName] := by
  rw [locateTemporary] at hlocate
  simp only [bind_eq_ok_iff] at hlocate
  obtain ⟨directory, hparent, -, -, hlocate⟩ := hlocate
  split at hlocate
  · cases hlocate
  · cases hlocate
  · exact ⟨directory, hparent, (Except.ok.inj hlocate).symm⟩

theorem exists_of_rename {source : Location} (hrename : tree.rename source here path = .ok after) :
    ∃ target entry last, tree.locateNew here path = .ok target ∧
      (Text.parts '/' path.text).getLast? = some last ∧ isStep last = true ∧
      tree.find? source = some entry ∧ tree.find? target ≠ some .directory ∧
      after = (tree.erase source).put target entry := by
  rw [rename] at hrename
  split at hrename
  · simp only [bind_eq_ok_iff] at hrename
    obtain ⟨_, _, _, hbusy, _⟩ := hrename
    cases hbusy
  · rename_i hdot
    simp only [bind_eq_ok_iff, unless_throw_eq_ok_iff] at hrename
    obtain ⟨target, hlocate, hslash, hmove⟩ := hrename
    obtain ⟨last, hlast⟩ : ∃ last, (Text.parts '/' path.text).getLast? = some last :=
      ⟨_, List.getLast?_eq_some_getLast (Text.parts_ne_nil '/' path.text)⟩
    have hstep : isStep last = true := by
      rw [hlast, Option.some.injEq] at hdot hslash
      simp [isStep, hdot, hslash]
    split at hmove
    · cases hmove
    · cases hmove
    · rename_i entry hentry hdirectory
      exact ⟨target, entry, last, hlocate, hlast, hstep, hentry,
        hdirectory, (Except.ok.inj hmove).symm⟩

/-! ### The steps -/

/-- A file is put in place: it lies under the name that the path ends in, in a directory that was
there, and nothing else has changed. -/
structure Replaces (tree after : FileTree) (path : Path) (octets : List UInt8)
    (directory : Location) (name : String) : Prop where
  fileName : path.fileName? = some name
  isDirectory : tree.find? directory = some .directory
  isFile : tree.find? (directory ++ [name]) ≠ some .directory
  after : ∀ location, after.find? location =
    if location = directory ++ [name] then some (.file octets false) else tree.find? location
  lengthLe : ¬name.utf8ByteSize > nameLimit
  isPath : pathFault? path = none
  isPlain : ∃ last, (Text.parts '/' path.text).getLast? = some last ∧ isStep last = true

/-- Moving a temporary file that lies beside the destination puts it in place. -/
theorem exists_replaces_of_rename {directory temporary : Location}
    (hparent : tree.locateParent here path = .ok directory) (hbelow : temporary ≠ [])
    (hfree : tree.find? temporary = none)
    (hfilled : tree.HasBeside filled temporary (.file octets false))
    (hrename : filled.rename temporary here path = .ok after) :
    ∃ name, tree.Replaces after path octets directory name := by
  obtain ⟨target, entry, last, hlocate, hlast, hstep, hentry, hfile, rfl⟩ :=
    exists_of_rename hrename
  obtain ⟨before, name, place, hcomponents, hreaches, rfl, hlength, hfault⟩ :=
    exists_of_locateNew hlocate
  obtain rfl : entry = .file octets false := by
    rw [hfilled, if_pos rfl] at hentry
    exact (Option.some.inj hentry).symm
  have hkeeps := hfilled.keeps hfree
  -- The directory is found where it was before the temporary file was there.
  obtain rfl : place = directory := by
    have hfollow := locateParent_eq_ok hparent
    rw [hcomponents, List.dropLast_concat] at hfollow
    exact Except.ok.inj (hreaches.1.symm.trans (hkeeps.follow_eq hfollow))
  have hplace : temporary ≠ place := by
    rintro rfl
    have hdirectory := hreaches.2
    rw [hfilled, if_pos rfl] at hdirectory
    cases hdirectory
  refine ⟨name, ?_, ?_, fun hdirectory ↦ hfile (hkeeps _ _ hdirectory), fun location ↦ ?_,
    hlength, hfault, last, hlast, hstep⟩
  · rw [Path.fileName?, hcomponents, List.getLast?_concat]
  · have hdirectory := hreaches.2
    rwa [hfilled, if_neg hplace] at hdirectory
  · rw [find?_put _ (by simp), hfilled.find?_erase hbelow hfree]
    simp only [eq_comm]

/-- A temporary file that is moved is put in place. -/
theorem exists_replaces_of_fillAndSettle {directory : Location}
    (hparent : tree.locateParent here path = .ok directory)
    (hsettle : tree.fillAndSettle refusals here path octets (directory ++ [tree.freshName]) =
      (.ok (), after)) :
    ∃ name, tree.Replaces after path octets directory name := by
  have hbelow : directory ++ [tree.freshName] ≠ [] := by simp
  rw [fillAndSettle] at hsettle
  split at hsettle
  · cases hsettle
  · dsimp only at hsettle
    split at hsettle
    · rename_i hmove
      obtain ⟨-, rfl⟩ := Prod.mk.inj hsettle
      simp only [settle, bind_eq_ok_iff] at hmove
      obtain ⟨_, _, _, _, hrename⟩ := hmove
      exact exists_replaces_of_rename hparent hbelow (tree.find?_freshName directory)
        (hasBeside_put_put hbelow _ _) hrename
    · cases hsettle

/-- A temporary file that is not moved is taken away again. -/
theorem find?_of_fillAndSettle_error {directory : Location} {error : SystemError}
    (hsettle : tree.fillAndSettle refusals here path octets (directory ++ [tree.freshName]) =
      (.error error, after)) (location : Location) :
    after.find? location = tree.find? location := by
  have hbelow : directory ++ [tree.freshName] ≠ [] := by simp
  have hfree := tree.find?_freshName directory
  rw [fillAndSettle] at hsettle
  split at hsettle
  · obtain ⟨-, rfl⟩ := Prod.mk.inj hsettle
    have hopened : tree.HasBeside _ _ _ := find?_put tree hbelow (.file [] false)
    exact hopened.find?_erase hbelow hfree location
  · dsimp only at hsettle
    split at hsettle
    · cases hsettle
    · obtain ⟨-, rfl⟩ := Prod.mk.inj hsettle
      exact (hasBeside_put_put hbelow _ _).find?_erase hbelow hfree location

/-! ### Whole files -/

/-- A whole file that is put in place changes nothing but its place, once the directories on the way
are made. -/
theorem exists_replaces_of_writeWhole
    (hwrite : tree.writeWhole refusals here path octets = (.ok (), after)) :
    ∃ directory name,
      (tree.makeDirectories refusals here path.parent).2.locateParent here path = .ok directory ∧
      (tree.makeDirectories refusals here path.parent).2.Replaces after path octets directory
        name := by
  unfold writeWhole at hwrite
  split at hwrite
  · cases hwrite
  · rename_i made hmade
    rw [hmade]
    split at hwrite
    · cases hwrite
    · rename_i temporary hlocate
      obtain ⟨directory, hparent, rfl⟩ := exists_of_locateTemporary hlocate
      obtain ⟨name, hreplaces⟩ := exists_replaces_of_fillAndSettle hparent hwrite
      exact ⟨directory, name, hparent, hreplaces⟩

/-- A whole file that is not put in place changes nothing, once the directories on the way are made,
or as many of them as could be. -/
theorem find?_of_writeWhole_error {error : SystemError}
    (hwrite : tree.writeWhole refusals here path octets = (.error error, after))
    (location : Location) :
    after.find? location =
      (tree.makeDirectories refusals here path.parent).2.find? location := by
  unfold writeWhole at hwrite
  split at hwrite
  · rename_i fault made hmade
    obtain ⟨-, rfl⟩ := Prod.mk.inj hwrite
    rw [hmade]
  · rename_i made hmade
    rw [hmade]
    split at hwrite
    · obtain ⟨-, rfl⟩ := Prod.mk.inj hwrite
      rfl
    · rename_i temporary hlocate
      obtain ⟨directory, hparent, rfl⟩ := exists_of_locateTemporary hlocate
      exact find?_of_fillAndSettle_error hwrite location

/-- The way to the directory meets directories and links. So it is as it was, unless the new file
has taken the place of a link. -/
theorem Replaces.follow_eq {directory : Location} {name : String}
    (hreplaces : tree.Replaces after path octets directory name)
    (hparent : tree.locateParent here path = .ok directory)
    (hlink : ∀ target, tree.find? (directory ++ [name]) ≠ some (.link target)) :
    after.follow here path.components.dropLast = .ok directory := by
  have hkeeps : tree.KeepsWay after directory := by
    intro location entry hfind hends
    rw [hreplaces.after, if_neg, hfind]
    rintro rfl
    cases entry with
    | directory => exact hreplaces.isFile hfind
    | link target => exact hlink target hfind
    | file held isExecutable => simpa using hends held isExecutable rfl
  exact walkLinks_of_keepsWay hkeeps (locateParent_eq_ok hparent)

/-- The path leads to the file that was put in place, if its directory is still found. -/
theorem Replaces.read_eq {directory : Location} {name : String}
    (hreplaces : tree.Replaces after path octets directory name)
    (hway : after.follow here path.components.dropLast = .ok directory) :
    after.read here path = .ok octets := by
  obtain ⟨hname, hdirectory, -, hafter, hlength, hfault, last, hlast, hstep⟩ := hreplaces
  have hcomponents : path.components = path.components.dropLast ++ [.named name] :=
    (List.dropLast_append_getLast? _ (fileName?_eq_some hname)).symm
  have hisName : Component.IsName name :=
    path.isTrack_components.isName (hcomponents ▸ List.mem_append_right _ List.mem_cons_self)
  have hnew : after.find? (directory ++ [name]) = some (.file octets false) := by
    rw [hafter, if_pos rfl]
  have hreaches : after.Reaches here path.components.dropLast directory := by
    refine ⟨hway, ?_⟩
    rw [hafter, if_neg (by simp), hdirectory]
  obtain ⟨left, hfollow⟩ := hreaches.exists_follow_append
    (List.cons_ne_nil (Component.named name) []) (by simpa using .inr ⟨name, hisName, rfl⟩)
  have hlocate : after.locate here path true = .ok (directory ++ [name]) := by
    rw [locate_eq_follow hcomponents hlast hstep hfault, hcomponents, hfollow]
    exact walkLinks_name hisName hlength hnew (fun _ ↦ nofun) left
  have hentry : after.entryAt here path = .ok (.file octets false) := by
    rw [entryAt, hlocate]
    simp only [bind, Except.bind, hnew]
    rfl
  rw [read, hentry]
  rfl

/-! ### All or nothing -/

/-- A file is put in place over a tree that has grown: the location that the path names has a file
with the octets, every other location is as it was, and the path leads to the file. Where the file
took the place of a link, the last is said only if the directory is still found: the path may have
gone through this very link. -/
def PutsWhole (tree grown after : FileTree) (here : Location) (path : Path)
    (octets : List UInt8) : Prop :=
  ∃ directory name, grown.locateParent here path = .ok directory ∧ path.fileName? = some name ∧
    (∀ location, after.find? location =
      if location = directory ++ [name] then some (.file octets false)
      else grown.find? location) ∧
    ((∀ target, tree.find? (directory ++ [name]) = some (.link target) →
        after.locateParent here path = .ok directory) →
      after.read here path = .ok octets)

/-- A tree that has grown is left alone: every location is as it was, and the path leads to what it
led to before it has grown, or nowhere if it led nowhere. The latter is said of a path that goes up
from known places only: one that goes up from a new directory may come to what was there before. -/
structure LeavesAlone (tree grown after : FileTree) (here : Location) (path : Path) : Prop where
  same : ∀ location, after.find? location = grown.find? location
  leads : ∀ entry, tree.entryAt here path = .ok entry → after.entryAt here path = .ok entry
  leadsNowhere : tree.IsSound → tree.HasAscents here path →
    (∀ entry, tree.entryAt here path ≠ .ok entry) → ∀ entry, after.entryAt here path ≠ .ok entry

theorem putsWhole_of_writeWhole
    (hwrite : tree.writeWhole refusals here path octets = (.ok (), after)) :
    tree.PutsWhole (tree.makeDirectories refusals here path.parent).2 after here path octets := by
  have hgrows := tree.growsAlong_makeDirectories refusals here path.parent
  obtain ⟨directory, name, hparent, hreplaces⟩ := exists_replaces_of_writeWhole hwrite
  refine ⟨directory, name, hparent, hreplaces.fileName, hreplaces.after, fun hway ↦ ?_⟩
  refine hreplaces.read_eq ?_
  by_cases hlink : ∃ target, tree.find? (directory ++ [name]) = some (.link target)
  · obtain ⟨target, htarget⟩ := hlink
    exact locateParent_eq_ok (hway target htarget)
  · refine hreplaces.follow_eq hparent fun target htarget ↦ ?_
    -- A link there was there before the directories were made.
    cases hfind : tree.find? (directory ++ [name]) with
    | none =>
      obtain ⟨hentry, -⟩ := hgrows.added _ _ hfind htarget
      cases hentry
    | some entry =>
      rw [hgrows.keeps _ _ hfind, Option.some.injEq] at htarget
      exact hlink ⟨target, htarget ▸ hfind⟩

theorem leavesAlone_of_writeWhole {before : List Component} {name : String}
    (hcomponents : path.components = before ++ [.named name]) {error : SystemError}
    (hwrite : tree.writeWhole refusals here path octets = (.error error, after)) :
    tree.LeavesAlone (tree.makeDirectories refusals here path.parent).2 after here path := by
  have hsame := find?_of_writeWhole_error hwrite
  have hgrows := tree.growsAlong_makeDirectories refusals here path.parent
  have hkeeps : tree.Keeps after := fun location entry hfind ↦
    (hsame location).trans (hgrows.keeps location entry hfind)
  refine ⟨hsame, fun entry hentry ↦ hkeeps.entryAt_eq hentry, ?_⟩
  intro hsound hascents hnowhere entry hentry
  have hback : after.Keeps (tree.makeDirectories refusals here path.parent).2 :=
    fun location held hheld ↦ (hsame location).symm.trans hheld
  exact entryAt_makeDirectories_ne_ok hsound refusals hcomponents hascents hnowhere entry
    (hback.entryAt_eq hentry)

end Scaffold.FileTree
