/-!
# Tables in name order

A finite map from names to values, held as the list of its entries in strictly ascending order of
names (code point by code point, which is also the order of the UTF-8 octets). Two tables with the
same answers are equal (`Table.ext_find?`), so a law about `find?` is a law about the table.

`insert` replaces (`find?_insert`), and `ofList` lets a later pair replace an earlier one of the
same name (`find?_ofList`).
-/

set_option autoImplicit false

namespace Scaffold

/-- A finite map from names to values, in ascending order of names. -/
structure Table (α : Type) where
  entries : List (String × α)
  ascending : entries.Pairwise fun first second ↦ first.1 < second.1
  deriving DecidableEq

namespace Table

variable {α : Type}

/-- The table without entries. -/
def empty : Table α :=
  ⟨[], List.Pairwise.nil⟩

instance : Inhabited (Table α) := ⟨empty⟩

/-- The value of the first entry of that name. -/
def lookup (name : String) : List (String × α) → Option α
  | [] => none
  | (key, value) :: rest => if key = name then some value else lookup name rest

/-- The entries with `name` set to `value`, in its place in the order. -/
def put (name : String) (value : α) : List (String × α) → List (String × α)
  | [] => [(name, value)]
  | (key, held) :: rest =>
    if name < key then (name, value) :: (key, held) :: rest
    else if name = key then (name, value) :: rest
    else (key, held) :: put name value rest

/-- An entry after a `put` is the new one or an old one. -/
theorem mem_put {name : String} {value : α} {entry : String × α} {entries : List (String × α)}
    (hentry : entry ∈ put name value entries) : entry = (name, value) ∨ entry ∈ entries := by
  induction entries with
  | nil => simpa [put] using hentry
  | cons head rest ih =>
    obtain ⟨key, held⟩ := head
    rw [put] at hentry
    split at hentry
    · simpa using hentry
    · split at hentry
      · rcases List.mem_cons.mp hentry with h | h
        · exact .inl h
        · exact .inr (List.mem_cons_of_mem _ h)
      · rcases List.mem_cons.mp hentry with h | h
        · exact .inr (h ▸ List.mem_cons_self)
        · exact (ih h).imp_right (List.mem_cons_of_mem _)

/-- A `put` keeps the ascending order of names. -/
theorem pairwise_put (name : String) (value : α) {entries : List (String × α)}
    (hascending : entries.Pairwise fun first second ↦ first.1 < second.1) :
    (put name value entries).Pairwise fun first second ↦ first.1 < second.1 := by
  induction entries with
  | nil => simp [put]
  | cons head rest ih =>
    obtain ⟨key, held⟩ := head
    have hrest := List.pairwise_cons.mp hascending
    rw [put]
    split
    · rename_i hlt
      refine List.pairwise_cons.mpr ⟨fun entry hentry ↦ ?_, hascending⟩
      rcases List.mem_cons.mp hentry with rfl | hentry
      · exact hlt
      · exact String.lt_trans hlt (hrest.1 entry hentry)
    · split
      · rename_i heq
        subst heq
        exact List.pairwise_cons.mpr hrest
      · rename_i hlt hne
        refine List.pairwise_cons.mpr ⟨fun entry hentry ↦ ?_, ih hrest.2⟩
        rcases mem_put hentry with rfl | hentry
        · rcases String.le_total key name with hle | hle
          · exact Classical.byContradiction fun hnot ↦
              hne (String.le_antisymm (String.not_lt.mp hnot) hle)
          · exact absurd (String.le_antisymm hle (String.not_lt.mp hlt)) hne
        · exact hrest.1 entry hentry

/-- The value of a name. -/
def find? (table : Table α) (name : String) : Option α :=
  lookup name table.entries

/-- The table knows the name. -/
def contains (table : Table α) (name : String) : Bool :=
  (table.find? name).isSome

/-- The table with `name` set to `value`. -/
def insert (table : Table α) (name : String) (value : α) : Table α :=
  ⟨put name value table.entries, pairwise_put name value table.ascending⟩

/-- The table of the pairs; a later pair replaces an earlier one of the same name. -/
def ofList (pairs : List (String × α)) : Table α :=
  pairs.foldl (fun table pair ↦ table.insert pair.1 pair.2) empty

/-- The names in ascending order. -/
def names (table : Table α) : List String :=
  table.entries.map (·.1)

/-- The number of names. -/
def size (table : Table α) : Nat :=
  table.entries.length

/-! ### Looking up -/

theorem lookup_put (name other : String) (value : α) (entries : List (String × α)) :
    lookup other (put name value entries) =
      if name = other then some value else lookup other entries := by
  induction entries with
  | nil => simp [put, lookup]
  | cons head rest ih =>
    obtain ⟨key, held⟩ := head
    rw [put]
    split
    · simp [lookup]
    · split
      · rename_i heq
        subst heq
        by_cases h : name = other <;> simp [lookup, h]
      · rename_i hne
        by_cases h : name = other
        · subst h
          simp [lookup, ih, Ne.symm hne]
        · simp [lookup, ih, h]

/-- After an insertion the name has the new value and every other name its old one. -/
@[simp]
theorem find?_insert (table : Table α) (name other : String) (value : α) :
    (table.insert name value).find? other =
      if name = other then some value else table.find? other :=
  lookup_put name other value table.entries

@[simp]
theorem find?_empty (name : String) : (empty : Table α).find? name = none :=
  rfl

theorem mem_of_lookup {name : String} {value : α} {entries : List (String × α)}
    (hlookup : lookup name entries = some value) : (name, value) ∈ entries := by
  induction entries with
  | nil => simp [lookup] at hlookup
  | cons head rest ih =>
    obtain ⟨key, held⟩ := head
    rw [lookup] at hlookup
    split at hlookup
    · rename_i heq
      subst heq
      simp_all
    · exact List.mem_cons_of_mem _ (ih hlookup)

theorem lookup_of_mem {name : String} {value : α} {entries : List (String × α)}
    (hascending : entries.Pairwise fun first second ↦ first.1 < second.1)
    (hmem : (name, value) ∈ entries) : lookup name entries = some value := by
  induction entries with
  | nil => simp at hmem
  | cons head rest ih =>
    obtain ⟨key, held⟩ := head
    have hrest := List.pairwise_cons.mp hascending
    rcases List.mem_cons.mp hmem with heq | hmem
    · simp_all [lookup]
    · have hlt : key < name := hrest.1 _ hmem
      have hne : key ≠ name := fun h ↦ String.lt_irrefl _ (h ▸ hlt)
      simp [lookup, hne, ih hrest.2 hmem]

/-- A name has a value exactly when the pair is an entry. -/
theorem find?_eq_some_iff (table : Table α) (name : String) (value : α) :
    table.find? name = some value ↔ (name, value) ∈ table.entries :=
  ⟨mem_of_lookup, lookup_of_mem table.ascending⟩

/-- Two ascending lists with the same entries are equal. -/
theorem eq_of_mem_iff {first second : List (String × α)}
    (hfirst : first.Pairwise fun left right ↦ left.1 < right.1)
    (hsecond : second.Pairwise fun left right ↦ left.1 < right.1)
    (hmem : ∀ entry, entry ∈ first ↔ entry ∈ second) : first = second := by
  induction first generalizing second with
  | nil =>
    cases second with
    | nil => rfl
    | cons head rest => simpa using hmem head
  | cons head rest ih =>
    cases second with
    | nil => simpa using hmem head
    | cons other others =>
      obtain ⟨hhead, hrest⟩ := List.pairwise_cons.mp hfirst
      obtain ⟨hother, hothers⟩ := List.pairwise_cons.mp hsecond
      have hsame : head = other := by
        rcases List.mem_cons.mp ((hmem head).mp List.mem_cons_self) with h | h
        · exact h
        · rcases List.mem_cons.mp ((hmem other).mpr List.mem_cons_self) with h' | h'
          · exact h'.symm
          · exact absurd (String.lt_trans (hhead other h') (hother head h)) (String.lt_irrefl _)
      subst hsame
      congr 1
      refine ih hrest hothers fun entry ↦ ⟨fun h ↦ ?_, fun h ↦ ?_⟩
      · rcases List.mem_cons.mp ((hmem entry).mp (List.mem_cons_of_mem _ h)) with rfl | h'
        · exact absurd (hhead _ h) (String.lt_irrefl _)
        · exact h'
      · rcases List.mem_cons.mp ((hmem entry).mpr (List.mem_cons_of_mem _ h)) with rfl | h'
        · exact absurd (hother _ h) (String.lt_irrefl _)
        · exact h'

/-- Tables that give every name the same value are equal. -/
theorem ext_find? {first second : Table α} (hfind : ∀ name, first.find? name = second.find? name) :
    first = second := by
  obtain ⟨entries, hentries⟩ := first
  obtain ⟨others, hothers⟩ := second
  congr 1
  refine eq_of_mem_iff hentries hothers fun entry ↦ ?_
  rw [← find?_eq_some_iff ⟨entries, hentries⟩, ← find?_eq_some_iff ⟨others, hothers⟩, hfind]

theorem find?_foldl_insert (pairs : List (String × α)) (table : Table α) (name : String) :
    (pairs.foldl (fun table pair ↦ table.insert pair.1 pair.2) table).find? name =
      (lookup name pairs.reverse).or (table.find? name) := by
  induction pairs generalizing table with
  | nil => simp [lookup]
  | cons pair rest ih =>
    have happend : ∀ entries : List (String × α),
        lookup name (entries ++ [pair]) =
          (lookup name entries).or (if pair.1 = name then some pair.2 else none) := by
      intro entries
      induction entries with
      | nil => simp [lookup]
      | cons head others ih' =>
        obtain ⟨key, held⟩ := head
        by_cases h : key = name <;> simp [lookup, h, ih']
    rw [List.foldl_cons, ih, List.reverse_cons, happend, find?_insert]
    cases lookup name rest.reverse <;> by_cases h : pair.1 = name <;> simp [h]

/-- The table of a list gives every name the value of its last pair. -/
theorem find?_ofList (pairs : List (String × α)) (name : String) :
    (ofList pairs).find? name = lookup name pairs.reverse := by
  simp [ofList, find?_foldl_insert]

/-- The table of its own entries is the table. -/
theorem ofList_entries (table : Table α) : ofList table.entries = table := by
  refine ext_find? fun name ↦ ?_
  rw [find?_ofList]
  refine Option.ext fun value ↦ ?_
  constructor
  · intro h
    exact (table.find?_eq_some_iff name value).mpr (List.mem_reverse.mp (mem_of_lookup h))
  · intro h
    have hmem := List.mem_reverse.mpr ((table.find?_eq_some_iff name value).mp h)
    cases hlookup : lookup name table.entries.reverse with
    | none =>
      exfalso
      have hnone : ∀ entries : List (String × α), (name, value) ∈ entries →
          lookup name entries ≠ none := by
        intro entries
        induction entries with
        | nil => simp
        | cons head rest ih =>
          obtain ⟨key, held⟩ := head
          intro hin
          by_cases hkey : key = name
          · simp [lookup, hkey]
          · rcases List.mem_cons.mp hin with heq | hin
            · simp_all
            · simpa [lookup, hkey] using ih hin
      exact hnone _ hmem hlookup
    | some other =>
      have hother := List.mem_reverse.mp (mem_of_lookup hlookup)
      rw [(table.find?_eq_some_iff name other).mpr hother] at h
      simpa using h

end Table

end Scaffold
