import Mathlib.Data.List.Nodup
import Scaffold.Proofs.Fault
import Scaffold.Text.Octets
import Scaffold.Token.Table

/-!
# Defining and merging tokens

A definition that agrees with what a table holds is an insertion (`define_of_agree`). Tables that
agree on the names they share can be merged, and then hold the tokens of both
(`merge_of_agree`, `find?_union`). Tables that do not agree have a first clash, and a merge stops
there: the tokens before it are merged and those behind it are not (`merge_of_isFirstClash`). It is
one or the other (`agree_or_exists_isFirstClash`), so merging is a union wherever it goes through,
and inherits the laws of one (`Agree.union_comm`, `merged_assoc`).

A change, whether it goes through or not, extends a table (`Change.extends_apply`), and so does
every run of changes (`extends_foldl_apply`). A table of pairs with different names has just these
pairs as entries (`perm_entries_ofList`).
-/

set_option autoImplicit false

namespace Scaffold

/-- Inserting the value that a name has already changes nothing. -/
theorem Table.insert_of_find? {α : Type} {table : Table α} {name : String} {value : α}
    (hfind : table.find? name = some value) : table.insert name value = table := by
  refine Table.ext_find? fun other ↦ ?_
  rw [Table.find?_insert]
  split
  · rename_i heq
    rw [← heq, hfind]
  · rfl

/-- A table of pairs has a name only if one of the pairs has it. -/
theorem Table.mem_of_find?_ofList {α : Type} {pairs : List (String × α)} {name : String} {value : α}
    (hfind : (Table.ofList pairs).find? name = some value) : (name, value) ∈ pairs := by
  rw [Table.find?_ofList] at hfind
  exact List.mem_reverse.mp (Table.mem_of_lookup hfind)

/-- The first pair of a list plays no part for other names. -/
theorem Table.find?_ofList_cons_of_ne {α : Type} {key name : String} (value : α)
    (rest : List (String × α)) (hne : key ≠ name) :
    (Table.ofList ((key, value) :: rest)).find? name = (Table.ofList rest).find? name := by
  rw [Table.ofList, List.foldl_cons, Table.find?_foldl_insert, Table.find?_insert, if_neg hne,
    Table.ofList, Table.find?_foldl_insert]

/-- A table of pairs has every name of a pair. -/
theorem Table.exists_find?_ofList {α : Type} {pairs : List (String × α)} {name : String}
    (hname : name ∈ pairs.map Prod.fst) :
    ∃ value, (Table.ofList pairs).find? name = some value := by
  rw [Table.find?_ofList]
  have hreverse : name ∈ pairs.reverse.map Prod.fst := by simpa using hname
  generalize pairs.reverse = entries at hreverse
  induction entries with
  | nil => simp at hreverse
  | cons entry rest ih =>
    rw [Table.lookup]
    split
    · exact ⟨_, rfl⟩
    · rename_i hne
      rcases List.mem_cons.mp hreverse with heq | hrest
      · exact absurd heq.symm hne
      · exact ih hrest

/-- The names of a table of pairs are those of the pairs. -/
theorem Table.mem_names_ofList {α : Type} {pairs : List (String × α)} {name : String} :
    name ∈ (Table.ofList pairs).names ↔ name ∈ pairs.map Prod.fst := by
  constructor
  · intro hname
    obtain ⟨⟨_, value⟩, hentry, rfl⟩ := List.mem_map.mp hname
    exact List.mem_map_of_mem (f := Prod.fst)
      (Table.mem_of_find?_ofList ((Table.find?_eq_some_iff _ _ _).mpr hentry))
  · intro hname
    obtain ⟨value, hvalue⟩ := Table.exists_find?_ofList hname
    exact List.mem_map_of_mem (f := Prod.fst) ((Table.find?_eq_some_iff _ _ _).mp hvalue)

/-- A table of pairs with different names has these pairs as entries. -/
theorem Table.perm_entries_ofList {α : Type} {pairs : List (String × α)}
    (hnames : (pairs.map Prod.fst).Nodup) : (Table.ofList pairs).entries.Perm pairs := by
  have hentries : (Table.ofList pairs).entries.Nodup := by
    refine List.nodup_iff_pairwise_ne.mpr ((Table.ofList pairs).ascending.imp ?_)
    rintro first _ hlt rfl
    exact String.lt_irrefl _ hlt
  have hpairs : pairs.Nodup := .of_map _ hnames
  refine (List.perm_ext_iff_of_nodup hentries hpairs).mpr fun ⟨name, value⟩ ↦ ?_
  rw [← Table.find?_eq_some_iff]
  refine ⟨Table.mem_of_find?_ofList, fun hpair ↦ ?_⟩
  obtain ⟨other, hother⟩ := Table.exists_find?_ofList (List.mem_map_of_mem (f := Prod.fst) hpair)
  have hsame := List.inj_on_of_nodup_map hnames hpair (Table.mem_of_find?_ofList hother) rfl
  rw [hother, ← (Prod.mk.inj hsame).2]

namespace TokenTable

/-- A definition goes through as long as the table holds no other value for the name. -/
theorem define_of_agree {table : TokenTable} {name value : String}
    (hagree : ∀ held, table.find? name = some held → held = value) :
    table.define name value = .ok (table.insert name value) := by
  rw [define]
  cases hfind : table.find? name with
  | none => rfl
  | some held =>
    have heq := hagree held hfind
    subst heq
    simp [Table.insert_of_find? hfind]

/-- The tables give no name two different values. -/
def Agree (table other : TokenTable) : Prop :=
  ∀ name held value, table.find? name = some held → other.find? name = some value → held = value

/-- The tokens of two tables. -/
def union (table other : TokenTable) : TokenTable :=
  other.entries.foldl (fun union entry ↦ union.insert entry.1 entry.2) table

theorem find?_union (table other : TokenTable) (name : String) :
    (table.union other).find? name = (other.find? name).or (table.find? name) := by
  rw [union, Table.find?_foldl_insert, ← Table.find?_ofList, Table.ofList_entries]

/-- Entries in ascending order of names that agree with a table are defined, and then the entries
behind them. -/
theorem defineAll_append_of_agree {table : TokenTable} {entries : List (String × String)}
    (hascending : entries.Pairwise fun first second ↦ first.1 < second.1)
    (hagree : ∀ name held value, table.find? name = some held → (name, value) ∈ entries →
      held = value) (later : List (String × String)) :
    table.defineAll (entries ++ later) =
      (entries.foldl (fun union entry ↦ union.insert entry.1 entry.2) table).defineAll later := by
  induction entries generalizing table with
  | nil => rfl
  | cons entry rest ih =>
    obtain ⟨name, value⟩ := entry
    obtain ⟨hbelow, hrest⟩ := List.pairwise_cons.mp hascending
    have hdefine : table.define name value = .ok (table.insert name value) :=
      define_of_agree fun held hheld ↦ hagree name held value hheld List.mem_cons_self
    rw [List.cons_append, defineAll, hdefine, List.foldl_cons]
    refine ih hrest fun other held inserted hheld hmem ↦ ?_
    -- Names do not recur, so what was just defined cannot clash with what follows.
    have hne : name ≠ other := by
      rintro rfl
      exact String.lt_irrefl name (hbelow (name, inserted) hmem)
    rw [Table.find?_insert, if_neg hne] at hheld
    exact hagree other held inserted hheld (List.mem_cons_of_mem _ hmem)

/-- A merge of tables that agree goes through with the tokens of both. -/
theorem merge_of_agree {table other : TokenTable} (hagree : table.Agree other) :
    table.merge other = (table.union other, .ok ()) := by
  have hrun := defineAll_append_of_agree other.ascending (fun name held value hheld hmem ↦
    hagree name held value hheld ((other.find?_eq_some_iff name value).mpr hmem)) []
  rwa [List.append_nil] at hrun

/-- Tables that agree can be merged. -/
theorem merged_of_agree {table other : TokenTable} (hagree : table.Agree other) :
    table.merged other = .ok (table.union other) := by
  rw [merged, merge_of_agree hagree]
  rfl

/-! ### Clashes -/

/-- The tables give the name different values. -/
def Clashes (table other : TokenTable) (name : String) : Prop :=
  ∃ held value, table.find? name = some held ∧ other.find? name = some value ∧ held ≠ value

/-- The tables give the name different values, and no name before it. -/
def IsFirstClash (table other : TokenTable) (name : String) : Prop :=
  table.Clashes other name ∧ ∀ earlier, earlier < name → ¬table.Clashes other earlier

/-- The tokens with names before a name. -/
def below (table : TokenTable) (name : String) : TokenTable :=
  ⟨table.entries.filter fun entry ↦ entry.1 < name, table.ascending.filter _⟩

theorem find?_below (table : TokenTable) (name other : String) :
    (table.below name).find? other = if other < name then table.find? other else none := by
  refine Option.ext fun value ↦ ?_
  rw [Table.find?_eq_some_iff, below, List.mem_filter, decide_eq_true_eq]
  split
  · simp_all [Table.find?_eq_some_iff]
  · simp_all

/-- The entries of a table stand before one of them if their names do. -/
theorem exists_entries_eq {table : TokenTable} {name value : String}
    (hfind : table.find? name = some value) :
    ∃ after, table.entries = (table.below name).entries ++ (name, value) :: after := by
  obtain ⟨before, after, hentries⟩ :=
    List.append_of_mem ((table.find?_eq_some_iff name value).mp hfind)
  have hascending := table.ascending
  rw [hentries, List.pairwise_append, List.pairwise_cons] at hascending
  obtain ⟨-, ⟨hafter, -⟩, hbefore⟩ := hascending
  have hkept : before.filter (fun entry ↦ entry.1 < name) = before := by
    refine List.filter_eq_self.mpr fun entry hentry ↦ ?_
    exact decide_eq_true (hbefore entry hentry (name, value) List.mem_cons_self)
  have hdropped : ((name, value) :: after).filter (fun entry ↦ entry.1 < name) = [] := by
    refine List.filter_eq_nil_iff.mpr fun entry hentry ↦ ?_
    rw [decide_eq_true_eq]
    rcases List.mem_cons.mp hentry with rfl | hlater
    · exact String.lt_irrefl name
    · exact fun hlt ↦ String.lt_irrefl _ (String.lt_trans hlt (hafter entry hlater))
  have hbelow : (table.below name).entries = before := by
    change table.entries.filter _ = before
    rw [hentries, List.filter_append, hkept, hdropped, List.append_nil]
  exact ⟨after, by rw [hbelow, hentries]⟩

/-- A merge stops at the first clash, with the tokens before it merged. -/
theorem merge_of_isFirstClash {table other : TokenTable} {name : String}
    (hclash : table.IsFirstClash other name) :
    table.merge other =
      (table.union (other.below name), .error (.conflictingToken name)) := by
  obtain ⟨⟨held, value, hheld, hvalue, hne⟩, hfirst⟩ := hclash
  obtain ⟨after, hentries⟩ := exists_entries_eq hvalue
  have hbelow : ∀ earlier inserted, (earlier, inserted) ∈ (other.below name).entries →
      earlier < name ∧ other.find? earlier = some inserted := by
    intro earlier inserted hmem
    have hfind := ((other.below name).find?_eq_some_iff earlier inserted).mpr hmem
    rw [find?_below] at hfind
    split at hfind
    · exact ⟨‹_›, hfind⟩
    · cases hfind
  have hagree : ∀ earlier kept inserted, table.find? earlier = some kept →
      (earlier, inserted) ∈ (other.below name).entries → kept = inserted := by
    intro earlier kept inserted hkept hmem
    obtain ⟨hlt, hinserted⟩ := hbelow earlier inserted hmem
    by_contra hdiffer
    exact hfirst earlier hlt ⟨kept, inserted, hkept, hinserted, hdiffer⟩
  have hstill : (table.union (other.below name)).find? name = some held := by
    rw [find?_union, find?_below, if_neg (String.lt_irrefl name), Option.none_or, hheld]
  rw [merge, hentries, defineAll_append_of_agree (other.below name).ascending hagree]
  change (table.union (other.below name)).defineAll ((name, value) :: after) = _
  rw [defineAll, define, hstill]
  simp only [if_neg hne]

/-- Tables agree, or there is a first name that they give different values. -/
theorem agree_or_exists_isFirstClash (table other : TokenTable) :
    table.Agree other ∨ ∃ name, table.IsFirstClash other name := by
  classical
  cases hfind : other.entries.find? fun entry ↦ table.Clashes other entry.1 with
  | none =>
    refine .inl fun name held value hheld hvalue ↦ ?_
    have hentry := List.find?_eq_none.mp hfind _ ((other.find?_eq_some_iff name value).mp hvalue)
    by_contra hne
    exact hentry (decide_eq_true ⟨held, value, hheld, hvalue, hne⟩)
  | some entry =>
    obtain ⟨hclash, before, after, hentries, hbefore⟩ := List.find?_eq_some_iff_append.mp hfind
    refine .inr ⟨entry.1, of_decide_eq_true hclash, fun earlier hlt hearlier ↦ ?_⟩
    obtain ⟨-, value, -, hvalue, -⟩ := id hearlier
    have hascending := other.ascending
    rw [Table.find?_eq_some_iff, hentries] at hvalue
    rw [hentries, List.pairwise_append, List.pairwise_cons] at hascending
    -- An entry of a smaller name stands before the one that was found.
    rcases List.mem_append.mp hvalue with hmem | hmem
    · simpa [hearlier] using hbefore _ hmem
    · rcases List.mem_cons.mp hmem with heq | hafter
      · exact String.lt_irrefl _ (heq ▸ hlt)
      · exact String.lt_irrefl _ (String.lt_trans hlt (hascending.2.1.1 _ hafter))

/-! ### Laws of merging -/

section Laws

variable {table other third : TokenTable}

theorem Agree.symm (hagree : table.Agree other) : other.Agree table :=
  fun name held value hheld hvalue ↦ (hagree name value held hvalue hheld).symm

theorem not_agree_of_clashes {name : String} (hclash : table.Clashes other name) :
    ¬table.Agree other := by
  obtain ⟨held, value, hheld, hvalue, hne⟩ := hclash
  exact fun hagree ↦ hne (hagree name held value hheld hvalue)

theorem merge_eq_ok_iff {union : TokenTable} :
    table.merge other = (union, .ok ()) ↔ table.Agree other ∧ table.union other = union := by
  rcases agree_or_exists_isFirstClash table other with hagree | ⟨name, hfirst⟩
  · simp [merge_of_agree hagree, hagree]
  · simp [merge_of_isFirstClash hfirst, not_agree_of_clashes hfirst.1]

theorem merged_eq_ok_iff {union : TokenTable} :
    table.merged other = .ok union ↔ table.Agree other ∧ table.union other = union := by
  rcases agree_or_exists_isFirstClash table other with hagree | ⟨name, hfirst⟩
  · simp [merged_of_agree hagree, hagree]
  · simp [merged, merge_of_isFirstClash hfirst, not_agree_of_clashes hfirst.1, Except.map]

theorem merge_eq_error_iff {after : TokenTable} {fault : Fault} :
    table.merge other = (after, .error fault) ↔
      ∃ name, table.IsFirstClash other name ∧ fault = .conflictingToken name ∧
        table.union (other.below name) = after := by
  constructor
  · intro herror
    rcases agree_or_exists_isFirstClash table other with hagree | ⟨name, hfirst⟩
    · simp [merge_of_agree hagree] at herror
    · rw [merge_of_isFirstClash hfirst, Prod.mk.injEq, Except.error.injEq] at herror
      exact ⟨name, hfirst, herror.2.symm, herror.1⟩
  · rintro ⟨name, hfirst, rfl, rfl⟩
    exact merge_of_isFirstClash hfirst

/-- Where tables do not clash it does not matter which one is looked up first. -/
theorem or_comm_of_not_clashes {name : String} (hnone : ¬table.Clashes other name) :
    (other.find? name).or (table.find? name) = (table.find? name).or (other.find? name) := by
  cases hheld : table.find? name with
  | none => exact Option.or_none.trans Option.none_or.symm
  | some held =>
    cases hvalue : other.find? name with
    | none => rfl
    | some value =>
      by_contra hne
      exact hnone ⟨held, value, hheld, hvalue, fun heq ↦ hne (by rw [heq])⟩

theorem Agree.union_comm (hagree : table.Agree other) :
    table.union other = other.union table := by
  refine Table.ext_find? fun name ↦ ?_
  rw [find?_union, find?_union]
  exact or_comm_of_not_clashes fun hclash ↦ not_agree_of_clashes hclash hagree

theorem union_assoc (table other third : TokenTable) :
    (table.union other).union third = table.union (other.union third) := by
  refine Table.ext_find? fun name ↦ ?_
  simp only [find?_union, Option.or_assoc]

/-- What agrees with the tokens of two tables agrees with each of them. -/
theorem Agree.union_agree_iff (hagree : table.Agree other) :
    (table.union other).Agree third ↔ table.Agree third ∧ other.Agree third := by
  constructor
  · intro hunion
    have hsecond : other.Agree third := fun name held value hheld ↦
      hunion name held value (by rw [find?_union, hheld, Option.some_or])
    have hfirst : table.Agree third := fun name held value hheld ↦
      hunion name held value (by rw [hagree.union_comm, find?_union, hheld, Option.some_or])
    exact ⟨hfirst, hsecond⟩
  · rintro ⟨hfirst, hsecond⟩ name held value hheld hvalue
    rw [find?_union, Option.or_eq_some_iff] at hheld
    rcases hheld with hother | ⟨-, htable⟩
    · exact hsecond name held value hother hvalue
    · exact hfirst name held value htable hvalue

/-- Three tables merged from either side come to the same table, or go through from neither. -/
theorem merged_assoc {union : TokenTable} :
    (table.merged other >>= fun front ↦ front.merged third) = .ok union ↔
      (other.merged third >>= fun rest ↦ table.merged rest) = .ok union := by
  simp only [bind_eq_ok_iff, merged_eq_ok_iff]
  constructor
  · rintro ⟨_, ⟨hfront, rfl⟩, hthird, hunion⟩
    obtain ⟨houter, hrest⟩ := hfront.union_agree_iff.mp hthird
    have hfirst : table.Agree (other.union third) :=
      (hrest.union_agree_iff.mpr ⟨hfront.symm, houter.symm⟩).symm
    exact ⟨_, ⟨hrest, rfl⟩, hfirst, (union_assoc table other third).symm.trans hunion⟩
  · rintro ⟨_, ⟨hrest, rfl⟩, hfirst, hunion⟩
    obtain ⟨hfront, houter⟩ := hrest.union_agree_iff.mp hfirst.symm
    have hthird : (table.union other).Agree third :=
      hfront.symm.union_agree_iff.mpr ⟨houter.symm, hrest⟩
    exact ⟨_, ⟨hfront.symm, rfl⟩, hthird, (union_assoc table other third).trans hunion⟩

end Laws

/-! ### Tables that change -/

/-- What one table holds the other holds with the same value. -/
def Extends (before after : TokenTable) : Prop :=
  ∀ name value, before.find? name = some value → after.find? name = some value

theorem Extends.refl (table : TokenTable) : table.Extends table :=
  fun _ _ hvalue ↦ hvalue

theorem Extends.trans {before between after : TokenTable} (hfirst : before.Extends between)
    (hsecond : between.Extends after) : before.Extends after :=
  fun name value hvalue ↦ hsecond name value (hfirst name value hvalue)

/-- A definition that goes through changes no other value. -/
theorem extends_of_define {table extended : TokenTable} {name value : String}
    (hdefine : table.define name value = .ok extended) : table.Extends extended := by
  intro other held hheld
  rw [define] at hdefine
  split at hdefine
  · rename_i hfree
    rw [← Except.ok.inj hdefine, Table.find?_insert, if_neg, hheld]
    rintro rfl
    rw [hheld] at hfree
    cases hfree
  · split at hdefine
    · rw [← Except.ok.inj hdefine, hheld]
    · cases hdefine

/-- Definitions one after the other change no value, also where they stop at a clash. -/
theorem extends_defineAll (table : TokenTable) (entries : List (String × String)) :
    table.Extends (table.defineAll entries).1 := by
  induction entries generalizing table with
  | nil => exact .refl table
  | cons entry rest ih =>
    obtain ⟨name, value⟩ := entry
    rw [defineAll]
    cases hdefine : table.define name value with
    | ok extended => exact (extends_of_define hdefine).trans (ih extended)
    | error fault => exact .refl table

/-- What is done to a table: a definition, or a merge with another table. -/
inductive Change
  | define (name value : String)
  | merge (other : TokenTable)

/-- The table after a change, whether the change went through or not. -/
def Change.apply (table : TokenTable) : Change → TokenTable
  | define name value => (table.define name value).toOption.getD table
  | merge other => (table.merge other).1

theorem Change.extends_apply (table : TokenTable) (change : Change) :
    table.Extends (change.apply table) := by
  cases change with
  | define name value =>
    rw [apply]
    cases hdefine : table.define name value with
    | ok extended => exact extends_of_define hdefine
    | error fault => exact .refl table
  | merge other => exact extends_defineAll table other.entries

/-- No run of changes takes a token away or gives it another value. -/
theorem extends_foldl_apply (table : TokenTable) (changes : List Change) :
    table.Extends (changes.foldl Change.apply table) := by
  induction changes generalizing table with
  | nil => exact .refl table
  | cons change rest ih => exact (change.extends_apply table).trans (ih _)

/-! ### Merging -/

/-- A merge goes through exactly if the tables agree on the names they share. It then gives the
tokens of both, whichever table is merged into the other, and three tables can be merged from either
side. Otherwise it names the first clash, in the order of octets, and the table is left with its own
tokens and those of the other table before the clash. No run of definitions and merges, whether they
go through or not, takes a token away or gives it another value. -/
theorem merge_unites_or_stops_at_clash (table other : TokenTable) :
    ((∃ union, table.merge other = (union, .ok ())) ↔ table.Agree other) ∧
    (∀ union, table.merge other = (union, .ok ()) →
      (∀ token, union.find? token = (table.find? token).or (other.find? token)) ∧
        other.merge table = (union, .ok ())) ∧
    (∀ third union,
      (table.merged other >>= fun front ↦ front.merged third) = .ok union ↔
        (other.merged third >>= fun rest ↦ table.merged rest) = .ok union) ∧
    (∀ after fault, table.merge other = (after, .error fault) →
      ∃ name, fault = .conflictingToken name ∧ table.Clashes other name ∧
        (∀ clash, table.Clashes other clash →
          Text.Utf8.encode name ≤ Text.Utf8.encode clash) ∧
        ∀ token, after.find? token =
          if Text.Utf8.encode token < Text.Utf8.encode name then
            (table.find? token).or (other.find? token)
          else table.find? token) ∧
    ∀ (changes : List Change) (token value : String), table.find? token = some value →
      (changes.foldl Change.apply table).find? token = some value := by
  refine ⟨⟨?_, fun hagree ↦ ⟨_, merge_of_agree hagree⟩⟩, fun union hmerge ↦ ?_,
    fun third union ↦ merged_assoc, fun after fault herror ↦ ?_,
    extends_foldl_apply table⟩
  · rintro ⟨union, hmerge⟩
    exact (merge_eq_ok_iff.mp hmerge).1
  · obtain ⟨hagree, rfl⟩ := merge_eq_ok_iff.mp hmerge
    refine ⟨fun token ↦ by rw [hagree.union_comm, find?_union], ?_⟩
    rw [merge_of_agree hagree.symm, hagree.union_comm]
  · obtain ⟨name, ⟨hclash, hfirst⟩, rfl, rfl⟩ := merge_eq_error_iff.mp herror
    refine ⟨name, rfl, hclash, fun clash hother hlt ↦ ?_, fun token ↦ ?_⟩
    · exact hfirst clash (Text.Utf8.encode_lt_encode_iff.mp hlt) hother
    · rw [find?_union, find?_below]
      simp only [Text.Utf8.encode_lt_encode_iff]
      split
      · exact or_comm_of_not_clashes (hfirst token ‹_›)
      · exact Option.none_or

example :
    merge (Table.ofList [("a", "1"), ("c", "3")])
        (Table.ofList [("b", "2"), ("c", "4"), ("d", "5")]) =
      (Table.ofList [("a", "1"), ("b", "2"), ("c", "3")], .error (.conflictingToken "c")) := by
  decide +kernel

end TokenTable

end Scaffold
