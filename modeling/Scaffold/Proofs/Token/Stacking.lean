import Scaffold.Proofs.Token.Resolution

/-!
# Stacked upper-case endings

A token may have any number of upper-case endings behind it (`stacked`). No rule derives a token
with such an ending (`ruleFor?_append_ending`), so over a table that supplies none of them the
endings are taken off one by one down to the token itself. Only the first of them changes anything,
since an upper-case form is its own: all of them together come to the upper-case form of the token's
value (`meaning?_stacked`, `resolve_stacked`).
-/

set_option autoImplicit false

namespace Scaffold.Token

/-! ### Upper-case forms -/

/-- An upper-case form is made of capitals, digits and underscores. -/
theorem mem_upperCase {text : String} {c : Char} (hc : c ∈ (upperCase text).toList) :
    ('A' ≤ c ∧ c ≤ 'Z') ∨ ('0' ≤ c ∧ c ≤ '9') ∨ c = '_' :=
  (isMacroChar_iff c).mp (forall_mem_upperCase text c hc)

theorem length_upperCase (text : String) : (upperCase text).length = text.length := by
  rw [upperCase, ← String.length_toList, String.toList_map, List.length_map, String.length_toList]

theorem upperCase_append (first second : String) :
    upperCase (first ++ second) = upperCase first ++ upperCase second := by
  apply String.toList_inj.mp
  simp only [upperCase, String.toList_map, String.toList_append, List.map_append]

/-! ### Endings -/

/-- A token with a number of upper-case endings behind it. -/
def stacked (token : String) : Nat → String
  | 0 => token
  | count + 1 => stacked token count ++ upperCaseEnding

theorem stacked_ne_empty {token : String} (htoken : token ≠ "") (count : Nat) :
    stacked token count ≠ "" := by
  cases count with
  | zero => exact htoken
  | succ count => simp [stacked, upperCaseEnding]

/-- No rule derives a token with an upper-case ending. -/
theorem ruleFor?_append_ending (stem : String) : ruleFor? (stem ++ upperCaseEnding) = none := by
  have hrules : ∀ rule ∈ rules, Text.stripEnding? upperCaseEnding rule.token = none := by decide
  refine Option.eq_none_iff_forall_ne_some.mpr fun rule hrule ↦ ?_
  obtain ⟨hmem, htoken⟩ := ruleFor?_eq_some hrule
  have hstem := Text.stripEnding?_eq_some_iff.mpr htoken.symm
  rw [hrules rule hmem] at hstem
  cases hstem

/-- A token with an ending that is not supplied means the upper-case form of what stands before the
ending. -/
theorem meaning?_append_ending {base : TokenTable} {stem : String} (hstem : stem ≠ "")
    (hbase : base.find? (stem ++ upperCaseEnding) = none) :
    meaning? base (stem ++ upperCaseEnding) = (meaning? base stem).map upperCase :=
  meaning?_of_stem hbase (ruleFor?_append_ending stem) (stem?_eq_some_iff.mpr ⟨hstem, rfl⟩)

/-- Any number of endings that are not supplied come to one upper-case form. -/
theorem meaning?_stacked {base : TokenTable} {token value : String} (htoken : token ≠ "")
    (hvalue : meaning? base token = some value) (count : Nat)
    (hbase : ∀ fewer ≤ count, base.find? (stacked token (fewer + 1)) = none) :
    meaning? base (stacked token (count + 1)) = some (upperCase value) := by
  induction count with
  | zero =>
    rw [stacked, stacked, meaning?_append_ending htoken (hbase 0 le_rfl), hvalue, Option.map_some]
  | succ count ih =>
    have hshorter := ih fun fewer hfewer ↦ hbase fewer (Nat.le_succ_of_le hfewer)
    rw [stacked, meaning?_append_ending (stacked_ne_empty htoken _) (hbase _ le_rfl), hshorter,
      Option.map_some, upperCase_upperCase]

/-- Upper-case endings collapse. Where a token can be resolved, it can be with any number of endings
behind it, as long as the table supplies none of these tokens. It then comes to the upper-case form
of the token's value, alone and in every pass that goes through. The form is made of capitals,
digits and underscores, one for each character of the value; it is its own form, and that of texts
put together is put together of theirs. -/
theorem resolve_stacked {base resolved : TokenTable} {token value context : String} {count : Nat}
    (htoken : token ≠ "") (hresolve : resolve base [token] context = .ok resolved)
    (hvalue : resolved.find? token = some value) (hcount : 1 ≤ count)
    (hbase : ∀ fewer, 1 ≤ fewer → fewer ≤ count →
      base.contains (stacked token fewer) = false) :
    (∀ elsewhere, ∃ found, resolve base [stacked token count] elsewhere = .ok found ∧
      found.find? (stacked token count) = some (upperCase value)) ∧
    (∀ required elsewhere found, resolve base required elsewhere = .ok found →
      stacked token count ∈ required →
        found.find? (stacked token count) = some (upperCase value)) ∧
    (∀ c ∈ (upperCase value).toList,
      ('A' ≤ c ∧ c ≤ 'Z') ∨ ('0' ≤ c ∧ c ≤ '9') ∨ c = '_') ∧
    (upperCase value).length = value.length ∧
    (∀ text, upperCase (upperCase text) = upperCase text) ∧
    ∀ first second, upperCase (first ++ second) = upperCase first ++ upperCase second := by
  have hmeaning : meaning? base token = some value :=
    exists_resolve_singleton_iff.mp ⟨resolved, hresolve, hvalue⟩
  obtain ⟨fewer, rfl⟩ := Nat.exists_eq_add_of_le' hcount
  have hstacked := meaning?_stacked htoken hmeaning fewer fun other hother ↦
    Option.isNone_iff_eq_none.mp
      (Option.isSome_eq_false_iff.mp (hbase (other + 1) (by omega) (by omega)))
  refine ⟨fun elsewhere ↦ exists_resolve_singleton_iff.mpr hstacked,
    fun required elsewhere found hfound hmem ↦ ?_, fun c ↦ mem_upperCase, length_upperCase value,
    upperCase_upperCase, upperCase_append⟩
  obtain ⟨-, rfl⟩ := resolve_eq_ok_iff.mp hfound
  rw [find?_extension, if_pos hmem, hstacked]

/-- A derived token has three endings, and its value has characters that no macro name has. -/
theorem resolve_stacked_suffix :
    let base : TokenTable := Table.ofList [("library_name", "lib7-zähler")]
    let resolved : TokenTable :=
      Table.ofList [("library_name", "lib7-zähler"), ("library_name_suffix", "7-zähler")]
    resolve base ["library_name_suffix"] "t" = .ok resolved ∧
      (∀ fewer, 1 ≤ fewer → fewer ≤ 3 →
        base.contains (stacked "library_name_suffix" fewer) = false) ∧
      stacked "library_name_suffix" 3 =
        "library_name_suffix_upper_case_upper_case_upper_case" ∧
      ∃ found, resolve base [stacked "library_name_suffix" 3] "t" = .ok found ∧
        found.find? (stacked "library_name_suffix" 3) = some "7_Z_HLER" := by
  intro base resolved
  have hresolve : resolve base ["library_name_suffix"] "t" = .ok resolved := by decide +kernel
  have hvalue : resolved.find? "library_name_suffix" = some "7-zähler" := by decide +kernel
  have hfree : ∀ fewer < 4, 1 ≤ fewer →
      base.contains (stacked "library_name_suffix" fewer) = false := by decide +kernel
  have hbase : ∀ fewer, 1 ≤ fewer → fewer ≤ 3 →
      base.contains (stacked "library_name_suffix" fewer) = false :=
    fun fewer hpositive hbound ↦ hfree fewer (Nat.lt_succ_of_le hbound) hpositive
  have hform : upperCase "7-zähler" = "7_Z_HLER" := by decide +kernel
  have hfound :=
    (resolve_stacked (by decide) hresolve hvalue (by decide : 1 ≤ 3) hbase).1 "t"
  rw [hform] at hfound
  exact ⟨hresolve, hbase, by decide +kernel, hfound⟩

end Scaffold.Token
