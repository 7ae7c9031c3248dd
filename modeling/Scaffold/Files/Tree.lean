import Scaffold.Path

/-!
# File trees

A file tree is a map from locations to entries. A location is the list of names from the root, and
the root is always a directory. `put` and `erase` change one location and no other (`find?_put`,
`find?_erase`), and `eraseBelow` a location and what lies below it (`find?_eraseBelow`). `freshName`
is a name that no entry has (`find?_freshName`).
-/

set_option autoImplicit false

namespace Scaffold

/-- The names that lead from the root to an entry. -/
abbrev Location := List String

/-- What lies at a location. -/
inductive Entry
  | directory
  | file (octets : List UInt8) (isExecutable : Bool)
  | link (target : Path)
  deriving DecidableEq, Repr

/-- The entries of a file system; the first entry of a location is the one that counts. -/
structure FileTree where
  entries : List (Location × Entry)
  deriving DecidableEq, Repr

namespace FileTree

/-- The tree with nothing but its root. -/
def empty : FileTree :=
  ⟨[]⟩

/-- The first entry of a location. -/
def lookup (location : Location) : List (Location × Entry) → Option Entry
  | [] => none
  | (place, entry) :: rest => if place = location then some entry else lookup location rest

/-- What lies at a location. -/
def find? (tree : FileTree) (location : Location) : Option Entry :=
  if location = [] then some .directory else lookup location tree.entries

/-- The tree without what lies at a location. -/
def erase (tree : FileTree) (location : Location) : FileTree :=
  ⟨tree.entries.filter fun entry ↦ entry.1 != location⟩

/-- The tree with an entry at a location. -/
def put (tree : FileTree) (location : Location) (entry : Entry) : FileTree :=
  ⟨(location, entry) :: (tree.erase location).entries⟩

/-- The tree without what lies at a location and below it. -/
def eraseBelow (tree : FileTree) (location : Location) : FileTree :=
  ⟨tree.entries.filter fun entry ↦ !location.isPrefixOf entry.1⟩

/-- A directory lies at the location. -/
def hasDirectory (tree : FileTree) (location : Location) : Bool :=
  tree.find? location == some .directory

/-- The locations of the tree, each once. -/
def locations (tree : FileTree) : List Location :=
  (tree.entries.map (·.1)).eraseDups

/-- The names of what lies directly below a location, in ascending order. -/
def namesBelow (tree : FileTree) (location : Location) : List String :=
  (tree.locations.filterMap fun place ↦
    if place.dropLast = location then place.getLast? else none).mergeSort
      fun first second ↦ first ≤ second

/-- The length of the longest name. -/
def longestName (tree : FileTree) : Nat :=
  (tree.entries.map fun entry ↦ (entry.1.getLast?.getD "").length).foldr max 0

/-- A name that no entry has. -/
def freshName (tree : FileTree) : String :=
  ".tmp" ++ Text.repeated '0' tree.longestName

/-! ### Looking up -/

/-- Where entries are kept by their locations, what is kept is found as before. -/
theorem lookup_filter (keeps : Location → Bool) (location : Location)
    (entries : List (Location × Entry)) :
    lookup location (entries.filter fun entry ↦ keeps entry.1) =
      if keeps location then lookup location entries else none := by
  induction entries with
  | nil => simp [lookup]
  | cons head rest ih =>
    obtain ⟨place, entry⟩ := head
    by_cases hplace : place = location
    · subst hplace
      by_cases hkeeps : keeps place <;> simp [lookup, hkeeps, ih]
    · by_cases hkeeps : keeps place <;> simp [lookup, hkeeps, hplace, ih]

@[simp]
theorem find?_root (tree : FileTree) : tree.find? [] = some .directory :=
  rfl

/-- Nothing lies below the root of the empty tree. -/
theorem find?_empty {location : Location} (hbelow : location ≠ []) :
    empty.find? location = none :=
  if_neg hbelow

/-- After an `erase` below the root the location is empty, and every other is as before. -/
theorem find?_erase (tree : FileTree) {location : Location} (hbelow : location ≠ [])
    (other : Location) :
    (tree.erase location).find? other = if location = other then none else tree.find? other := by
  by_cases hroot : other = []
  · simp [find?, hroot, hbelow]
  · rw [find?, find?, if_neg hroot, if_neg hroot, erase, lookup_filter (· != location)]
    by_cases heq : location = other
    · simp [heq]
    · simp [heq, Ne.symm heq]

/-- After a `put` below the root the location has the new entry, and every other its old one. -/
theorem find?_put (tree : FileTree) {location : Location} (hbelow : location ≠ [])
    (entry : Entry) (other : Location) :
    (tree.put location entry).find? other =
      if location = other then some entry else tree.find? other := by
  by_cases hroot : other = []
  · simp [find?, hroot, hbelow]
  · by_cases heq : location = other
    · simp [find?, put, lookup, hroot, heq]
    · simpa [find?, put, lookup, hroot, heq] using tree.find?_erase hbelow other

/-- After an `eraseBelow` below the root nothing lies at the location and below it, and all else is
as before. -/
theorem find?_eraseBelow (tree : FileTree) {location : Location} (hbelow : location ≠ [])
    (other : Location) :
    (tree.eraseBelow location).find? other =
      if location <+: other then none else tree.find? other := by
  by_cases hroot : other = []
  · simp [find?, hroot, hbelow]
  · simp only [find?, eraseBelow, if_neg hroot, lookup_filter (!location.isPrefixOf ·),
      ← List.isPrefixOf_iff_prefix]
    cases location.isPrefixOf other <;> rfl

/-- What is put below a location goes with it. -/
theorem eraseBelow_put (tree : FileTree) {location place : Location} (hplace : location <+: place)
    (entry : Entry) : (tree.put place entry).eraseBelow location = tree.eraseBelow location := by
  have hfirst : location.isPrefixOf place = true := List.isPrefixOf_iff_prefix.mpr hplace
  simp only [eraseBelow, put, erase, List.filter_cons, hfirst, Bool.not_true, Bool.false_eq_true,
    if_false, List.filter_filter, mk.injEq]
  refine List.filter_congr fun held _ ↦ ?_
  by_cases heq : held.1 = place
  · simp [heq, hfirst]
  · simp [heq]

/-- Where nothing lies at a location and below it, there is nothing to erase. -/
theorem eraseBelow_of_forall {tree : FileTree} {location : Location}
    (hfree : ∀ held ∈ tree.entries, ¬location <+: held.1) : tree.eraseBelow location = tree := by
  have hkeeps : tree.entries.filter (fun held ↦ !location.isPrefixOf held.1) = tree.entries := by
    refine List.filter_eq_self.mpr fun held hheld ↦ ?_
    simpa [← List.isPrefixOf_iff_prefix] using hfree held hheld
  rw [eraseBelow, hkeeps]

/-- What is looked up successfully is an entry. -/
theorem mem_of_lookup {location : Location} {entry : Entry} {entries : List (Location × Entry)}
    (hlookup : lookup location entries = some entry) : (location, entry) ∈ entries := by
  induction entries with
  | nil => simp [lookup] at hlookup
  | cons head rest ih =>
    obtain ⟨place, held⟩ := head
    rw [lookup] at hlookup
    split at hlookup
    · simp_all
    · exact List.mem_cons_of_mem _ (ih hlookup)

theorem le_foldr_max {lengths : List Nat} {length : Nat} (hmem : length ∈ lengths) :
    length ≤ lengths.foldr max 0 := by
  induction lengths with
  | nil => simp at hmem
  | cons head rest ih =>
    rcases List.mem_cons.mp hmem with rfl | hmem
    · simp only [List.foldr_cons]
      omega
    · have := ih hmem
      simp only [List.foldr_cons]
      omega

/-- Nothing lies under the fresh name, in any directory. -/
theorem find?_freshName (tree : FileTree) (directory : Location) :
    tree.find? (directory ++ [tree.freshName]) = none := by
  by_cases hnone : lookup (directory ++ [tree.freshName]) tree.entries = none
  · simp [find?, hnone]
  · obtain ⟨entry, hentry⟩ := Option.ne_none_iff_exists'.mp hnone
    have hmem := mem_of_lookup hentry
    have hlength : tree.freshName.length ≤ tree.longestName := by
      refine le_foldr_max (List.mem_map.mpr ⟨_, hmem, ?_⟩)
      simp
    simp only [freshName, Text.repeated, String.length_append, String.length_ofList,
      List.length_replicate] at hlength
    have : (".tmp" : String).length = 4 := rfl
    omega

end FileTree

end Scaffold
