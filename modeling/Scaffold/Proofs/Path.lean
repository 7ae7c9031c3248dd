import Scaffold.Path
import Scaffold.Proofs.Text.Cutting

/-!
# The components and the order of paths

The components of a path are its lead, the root or a leading dot if it has one, and its steps
(`components_eq`). A path without a lead, seen from a base, has the components of the base and then
its own (`components_join`): it leads below the base unless a step of it goes up.

Paths with equal components are the same place. The order by components is total and transitive, and
two paths are on a level exactly when they are the same place (`order_eq_eq_iff`), so of two paths
that are not the same place one comes strictly first (`order_eq_lt`).
-/

set_option autoImplicit false

namespace Scaffold

namespace Component

/-- Rank and label tell components apart. -/
theorem eq_of_rank_label {first second : Component} (hrank : first.rank = second.rank)
    (hlabel : first.label = second.label) : first = second := by
  cases first <;> cases second <;> simp_all [rank, label]

instance : Std.TransCmp order :=
  inferInstanceAs (Std.TransCmp (compareLex (compareOn rank) (compareOn label)))

instance : Std.LawfulEqCmp order where
  compare_self := Std.ReflCmp.compare_self
  eq_of_compare {first second} hcompare := by
    obtain ⟨hrank, hlabel⟩ := compareLex_eq_eq.mp hcompare
    exact eq_of_rank_label (Std.LawfulEqCmp.eq_of_compare hrank)
      (Std.LawfulEqCmp.eq_of_compare hlabel)

/-- The text is the name of a single step. -/
def IsName (text : String) : Prop :=
  text ≠ "" ∧ text ≠ "." ∧ text ≠ ".." ∧ '/' ∉ text.toList

theorem isName_of_mem {text : String} {c : Char} (hc : c ∈ text.toList) (hdot : c ≠ '.')
    (hslash : '/' ∉ text.toList) : IsName text := by
  refine ⟨?_, ?_, ?_, hslash⟩ <;> rintro rfl <;> simp [hdot] at hc

theorem ofPart?_of_isName {text : String} (hname : IsName text) :
    ofPart? text = some (named text) := by
  obtain ⟨hempty, hcurrent, hparent, -⟩ := hname
  simp [ofPart?, hempty, hcurrent, hparent]

theorem parts_of_isName {text : String} (hname : IsName text) : Text.parts '/' text = [text] :=
  Text.parts_of_not_mem hname.2.2.2

end Component

namespace Path

/-! ### Components -/

/-- The component that a path has before its steps: the root, or a leading dot. -/
def lead (path : Path) : List Component :=
  if path.isAbsolute then [.root]
  else if (Text.parts '/' path.text).head? = some "." then [.current]
  else []

/-- The steps of a path without its lead. -/
def steps (path : Path) : List Component :=
  (Text.parts '/' path.text).filterMap Component.ofPart?

theorem components_eq (path : Path) : path.components = path.lead ++ path.steps := by
  rw [components, lead, steps]
  split
  · rfl
  · split <;> rfl

theorem isAbsolute_append_slash (first second : String) :
    isAbsolute ⟨first ++ "/" ++ second⟩ = true ↔ first = "" ∨ isAbsolute ⟨first⟩ = true := by
  rw [isAbsolute, isAbsolute, String.append_assoc, String.toList_append]
  cases hchars : first.toList with
  | nil => simp [String.toList_eq_nil_iff.mp hchars]
  | cons c rest =>
    have hfull : first ≠ "" := fun hempty ↦ by simp [hempty] at hchars
    simp [hfull]

/-- What follows a slash has no say in the lead of a path. -/
theorem lead_append_slash (first second : String) :
    lead ⟨first ++ "/" ++ second⟩ = if first = "" then [.root] else lead ⟨first⟩ := by
  have habsolute := isAbsolute_append_slash first second
  split
  · rename_i hempty
    rw [lead, if_pos (habsolute.mpr (.inl hempty))]
  · rename_i hfull
    have hhead : (Text.parts '/' (first ++ "/" ++ second)).head? =
        (Text.parts '/' first).head? := by
      rw [Text.parts_append (by rfl),
        List.head?_append_of_ne_nil _ (Text.parts_ne_nil '/' first)]
    simp only [hfull, false_or] at habsolute
    simp only [lead, habsolute, hhead]

theorem steps_append_slash (first second : String) :
    steps ⟨first ++ "/" ++ second⟩ = steps ⟨first⟩ ++ steps ⟨second⟩ := by
  have hparts : Text.parts '/' (first ++ "/" ++ second) =
      Text.parts '/' first ++ Text.parts '/' second := Text.parts_append (by rfl) first second
  rw [steps, hparts, List.filterMap_append, steps, steps]

theorem steps_empty : steps ⟨""⟩ = [] :=
  rfl

/-- A path without a lead has the components of its base before its own. -/
theorem components_join {base child : Path} (hchild : child.lead = []) :
    (base.join child).components = base.components ++ child.components := by
  have hrelative : child.isAbsolute ≠ true := by
    intro habsolute
    simp [lead, habsolute] at hchild
  rw [components_eq, components_eq base, components_eq child, hchild, List.nil_append]
  by_cases hempty : base.text = ""
  · obtain rfl : base = ⟨""⟩ := congrArg Path.mk hempty
    rw [join, if_pos (.inr rfl), hchild]
    rfl
  rw [join, if_neg (by simp [hrelative, hempty])]
  split
  · -- The slash between the two is the one that the base ends with.
    rename_i hlast
    obtain ⟨chars, hchars⟩ := List.getLast?_eq_some_iff.mp hlast
    obtain ⟨front, hfront⟩ : ∃ front, base.text = front ++ "/" ++ "" :=
      ⟨String.ofList chars, String.toList_inj.mp (by simpa using hchars)⟩
    have hlead : base.lead = if front = "" then [.root] else lead ⟨front⟩ := by
      rw [← lead_append_slash front "", ← hfront]
    have hsteps : base.steps = steps ⟨front⟩ := by
      have happend := steps_append_slash front ""
      rwa [← hfront, steps_empty, List.append_nil] at happend
    have hjoined : base.text ++ child.text = front ++ "/" ++ child.text := by
      rw [hfront, String.append_empty]
    rw [hjoined, lead_append_slash, steps_append_slash, hlead, hsteps, List.append_assoc]
  · rw [lead_append_slash, if_neg hempty, steps_append_slash, List.append_assoc]

theorem steps_of_isName {text : String} (hname : Component.IsName text) :
    steps ⟨text⟩ = [.named text] := by
  rw [steps, Component.parts_of_isName hname, List.filterMap_cons_some
    (Component.ofPart?_of_isName hname), List.filterMap_nil]

theorem lead_of_isName {text : String} (hname : Component.IsName text) : lead ⟨text⟩ = [] := by
  have habsolute : isAbsolute ⟨text⟩ ≠ true := by
    intro habsolute
    have hhead : text.toList.head? = some '/' := by simpa [isAbsolute] using habsolute
    exact hname.2.2.2 (List.mem_of_mem_head? hhead)
  rw [lead, if_neg habsolute, Component.parts_of_isName hname, if_neg (by simpa using hname.2.1)]

/-- A path of two names has these as components. -/
theorem components_pair {first second : String} (hfirst : Component.IsName first)
    (hsecond : Component.IsName second) :
    components ⟨first ++ "/" ++ second⟩ = [.named first, .named second] := by
  rw [components_eq, lead_append_slash, if_neg hfirst.1, lead_of_isName hfirst, steps_append_slash,
    steps_of_isName hfirst, steps_of_isName hsecond]
  rfl

/-- A name behind a slash alone is a step from the root. -/
theorem components_rooted {name : String} (hname : Component.IsName name) :
    components ⟨"" ++ "/" ++ name⟩ = [.root, .named name] := by
  rw [components_eq, lead_append_slash, if_pos rfl, steps_append_slash, steps_of_isName hname]
  rfl

/-- A path that ends with a name behind a slash has this name as its last component. -/
theorem getLast?_components {name : String} (hname : Component.IsName name) (folder : String) :
    (components ⟨folder ++ "/" ++ name⟩).getLast? = some (.named name) := by
  rw [components_eq, steps_append_slash, steps_of_isName hname]
  simp [List.getLast?_append]

/-- A path that begins with a named step has no lead. -/
theorem lead_eq_nil {path : Path} {name : String} {rest : List Component}
    (hcomponents : path.components = .named name :: rest) : path.lead = [] := by
  rw [components_eq, lead] at hcomponents
  rw [lead]
  split
  · rename_i habsolute
    simp [habsolute] at hcomponents
  · rename_i hrelative
    split
    · rename_i hcurrent
      simp [hrelative, hcurrent] at hcomponents
    · rfl

/-! ### Order -/

theorem same_iff {first second : Path} :
    first.same second = true ↔ first.components = second.components := by
  simp [same]

instance : Std.TransCmp order where
  eq_swap {first second} := by
    rw [order, order]
    exact Std.OrientedCmp.eq_swap
  isLE_trans {first second third} hfirst hsecond := by
    rw [order] at hfirst hsecond ⊢
    exact Std.TransCmp.isLE_trans hfirst hsecond

theorem order_eq_eq_iff {first second : Path} :
    first.order second = .eq ↔ first.components = second.components := by
  rw [order]
  exact Std.LawfulEqCmp.compare_eq_iff_eq

theorem atMost_iff {first second : Path} :
    first.atMost second = true ↔ (first.order second).isLE = true := by
  rw [atMost]
  cases first.order second <;> decide

theorem atMost_trans {first second third : Path} (hfirst : first.atMost second = true)
    (hsecond : second.atMost third = true) : first.atMost third = true := by
  rw [atMost_iff] at hfirst hsecond ⊢
  exact Std.TransCmp.isLE_trans hfirst hsecond

theorem atMost_total (first second : Path) :
    (first.atMost second || second.atMost first) = true := by
  have hswap : first.order second = (second.order first).swap :=
    Std.OrientedCmp.eq_swap
  rw [atMost, atMost, hswap]
  cases second.order first <;> decide

/-- Of two paths that are not the same place, the one that is not after the other is before it. -/
theorem order_eq_lt {first second : Path} (hatMost : first.atMost second = true)
    (hdistinct : first.components ≠ second.components) : first.order second = .lt := by
  cases horder : first.order second with
  | lt => rfl
  | eq => exact absurd (order_eq_eq_iff.mp horder) hdistinct
  | gt => simp [atMost, horder] at hatMost

theorem order_asymm {first second : Path} (hbefore : first.order second = .lt) :
    second.order first ≠ .lt := by
  intro hafter
  have hswap : first.order second = (second.order first).swap := Std.OrientedCmp.eq_swap
  rw [hbefore, hafter] at hswap
  cases hswap

end Path

end Scaffold
