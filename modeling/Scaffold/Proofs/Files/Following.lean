import Scaffold.Files.Change
import Scaffold.Proofs.Fault
import Scaffold.Proofs.Files.Walking
import Scaffold.Proofs.Path

/-!
# Following the components of a path

The components of a path are the root or a leading dot, if it has one, and then steps up and to
names. Every initial part of them is the components of the path that is made of it
(`isTrack_components`, `components_ofComponents`), so looking a path up and looking up the
directories on the way to it come down to following components (`locate_ofComponents`,
`locate_eq_follow`).

From a directory that some components lead to, the components after them are followed on their own
(`Reaches.exists_follow_append`), and a new entry gets its place there (`exists_of_locateNew`).
-/

set_option autoImplicit false

namespace Scaffold

namespace Component

/-- The step is one that stands inside a path: up, or to a name. -/
def IsInner (component : Component) : Prop :=
  component = .parent ∨ ∃ name, IsName name ∧ component = .named name

theorem isInner_of_ofPart? {text part : String} {component : Component}
    (hpart : part ∈ Text.parts '/' text) (hcomponent : ofPart? part = some component) :
    component.IsInner := by
  rw [ofPart?] at hcomponent
  split at hcomponent
  · cases hcomponent
  · rename_i hstep
    rw [not_or] at hstep
    split at hcomponent
    · exact .inl (Option.some.inj hcomponent).symm
    · rename_i hparent
      exact .inr ⟨part, ⟨hstep.1, hstep.2, hparent, Text.not_mem_of_mem_parts hpart⟩,
        (Option.some.inj hcomponent).symm⟩

theorem ofPart?_part {component : Component} (hinner : component.IsInner) :
    ofPart? component.part = some component := by
  rcases hinner with rfl | ⟨name, hname, rfl⟩
  · rfl
  · exact ofPart?_of_isName hname

theorem slash_not_mem_part {component : Component}
    (hname : ∀ name, component = .named name → IsName name) : '/' ∉ component.part.toList := by
  cases component with
  | named name => exact (hname name rfl).2.2.2
  | _ => decide

end Component

namespace Path

/-! ### Components as a path -/

/-- The components are those of some path: the root or a leading dot at most at the front, and then
steps up and to names. -/
def IsTrack : List Component → Prop
  | [] => True
  | first :: rest =>
    (first = .root ∨ first = .current ∨ first.IsInner) ∧ ∀ component ∈ rest, component.IsInner

theorem isTrack_of_forall {components : List Component}
    (hinner : ∀ component ∈ components, component.IsInner) : IsTrack components := by
  cases components with
  | nil => trivial
  | cons first rest =>
    exact ⟨.inr (.inr (hinner first List.mem_cons_self)), fun component hcomponent ↦
      hinner component (List.mem_cons_of_mem _ hcomponent)⟩

theorem isTrack_components (path : Path) : IsTrack path.components := by
  have hsteps : ∀ component ∈ path.steps, component.IsInner := by
    intro component hcomponent
    obtain ⟨part, hpart, hstep⟩ := List.mem_filterMap.mp hcomponent
    exact Component.isInner_of_ofPart? hpart hstep
  rw [components_eq, lead]
  split
  · exact ⟨.inl rfl, hsteps⟩
  · split
    · exact ⟨.inr (.inl rfl), hsteps⟩
    · exact isTrack_of_forall hsteps

theorem IsTrack.of_prefix {before components : List Component} (hbefore : before <+: components)
    (htrack : IsTrack components) : IsTrack before := by
  obtain ⟨after, rfl⟩ := hbefore
  cases before with
  | nil => trivial
  | cons first rest =>
    exact ⟨htrack.1, fun component hcomponent ↦
      htrack.2 component (List.mem_append_left _ hcomponent)⟩

theorem IsTrack.isInner {before after : List Component} (hnonempty : before ≠ [])
    (htrack : IsTrack (before ++ after)) {component : Component} (hcomponent : component ∈ after) :
    component.IsInner := by
  cases before with
  | nil => exact absurd rfl hnonempty
  | cons first rest => exact htrack.2 component (List.mem_append_right _ hcomponent)

theorem IsTrack.isName {components : List Component} (htrack : IsTrack components) {name : String}
    (hname : .named name ∈ components) : Component.IsName name := by
  have hinner : ∀ {component : Component}, component.IsInner → component = .named name →
      Component.IsName name := by
    rintro component (rfl | ⟨other, hother, rfl⟩) hcomponent
    · cases hcomponent
    · obtain rfl := Component.named.inj hcomponent
      exact hother
  cases components with
  | nil => cases hname
  | cons first rest =>
    rcases List.mem_cons.mp hname with hfirst | hrest
    · rcases htrack.1 with hroot | hcurrent | hstep
      · rw [hroot] at hfirst
        cases hfirst
      · rw [hcurrent] at hfirst
        cases hfirst
      · exact hinner hstep hfirst.symm
    · exact hinner (htrack.2 _ hrest) rfl

theorem IsTrack.slash_not_mem {components : List Component} (htrack : IsTrack components) :
    ∀ part ∈ components.map Component.part, '/' ∉ part.toList := by
  intro part hpart
  obtain ⟨component, hcomponent, rfl⟩ := List.mem_map.mp hpart
  refine Component.slash_not_mem_part fun name hname ↦ ?_
  exact htrack.isName (hname ▸ hcomponent)

theorem ofComponents_of_ne {components : List Component} (hroot : components ≠ [.root]) :
    ofComponents components = ⟨Text.joinWith "/" (components.map Component.part)⟩ := by
  rw [ofComponents]
  exact hroot

theorem steps_joinWith {components : List Component}
    (hinner : ∀ component ∈ components, component.IsInner) :
    steps ⟨Text.joinWith "/" (components.map Component.part)⟩ = components := by
  cases components with
  | nil => rfl
  | cons first rest =>
    rw [steps, Text.parts_joinWith (by rfl) (by simp)
      (IsTrack.slash_not_mem (isTrack_of_forall hinner)), List.filterMap_map]
    have hparts : ∀ component ∈ first :: rest,
        (Component.ofPart? ∘ Component.part) component = some component :=
      fun component hcomponent ↦ Component.ofPart?_part (hinner component hcomponent)
    rw [List.filterMap_congr hparts, List.filterMap_some]

theorem components_part {first : Component}
    (hfirst : first = .root ∨ first = .current ∨ first.IsInner) :
    (if first.part = "" then [.root] else lead ⟨first.part⟩) ++ steps ⟨first.part⟩ = [first] := by
  rcases hfirst with rfl | rfl | rfl | ⟨name, hname, rfl⟩
  · rfl
  · decide
  · decide
  · rw [Component.part, if_neg hname.1, lead_of_isName hname, steps_of_isName hname]
    rfl

/-- The components of the path that is made of components. -/
theorem components_ofComponents {components : List Component} (htrack : IsTrack components) :
    (ofComponents components).components = components := by
  match components with
  | [] => rfl
  | [.root] => decide
  | [.current] => decide
  | [.parent] => decide
  | [.named name] =>
    have hname : Component.IsName name := htrack.isName List.mem_cons_self
    rw [ofComponents_of_ne (by simp), components_eq, List.map_singleton, Text.joinWith,
      Component.part, lead_of_isName hname, steps_of_isName hname, List.nil_append]
  | first :: second :: others =>
    rw [ofComponents_of_ne (by simp), components_eq, List.map_cons, List.map_cons, Text.joinWith,
      ← List.map_cons, lead_append_slash, steps_append_slash, ← List.append_assoc,
      components_part htrack.1, steps_joinWith htrack.2, List.singleton_append]
    simp

theorem isAbsolute_iff {path : Path} :
    path.isAbsolute = true ↔ path.components.head? = some .root := by
  rw [components_eq, lead]
  constructor
  · intro habsolute
    rw [if_pos habsolute]
    rfl
  · intro hhead
    by_contra hrelative
    rw [if_neg hrelative] at hhead
    have hroot : Component.root ∉ path.steps := by
      intro hmem
      obtain ⟨part, hpart, hstep⟩ := List.mem_filterMap.mp hmem
      rcases Component.isInner_of_ofPart? hpart hstep with hparent | ⟨name, -, hname⟩
      · cases hparent
      · cases hname
    split at hhead
    · cases hhead
    · exact hroot (List.mem_of_mem_head? hhead)

theorem text_ofComponents_eq_empty_iff {components : List Component} (htrack : IsTrack components) :
    (ofComponents components).text = "" ↔ components = [] := by
  constructor
  · intro hempty
    rw [← components_ofComponents htrack]
    exact congrArg Path.components (congrArg Path.mk hempty : ofComponents components = ⟨""⟩)
  · rintro rfl
    rfl

end Path

namespace FileTree

variable {tree other : FileTree} {here : Location}

/-! ### Following components -/

/-- The location that components lead to, links followed. -/
def follow (tree : FileTree) (here : Location) (components : List Component) :
    Except SystemError Location :=
  tree.walkLinks true linkLimit (if components.head? = some .root then [] else here)
    (components.map Component.part)

theorem walkLinks_blank {left : Nat} {part : String} (hblank : isStep part = false)
    (rest : List String) :
    tree.walkLinks true left here (part :: rest) = tree.walkLinks true left here rest := by
  have hskip : ∀ jump, tree.walk true jump here (part :: rest) = tree.walk true jump here rest := by
    intro jump
    rw [walk_cons, meeting_of_not_isStep hblank]
  cases left with
  | zero => exact hskip _
  | succ left => exact hskip _

/-- A path that is made of components leads where they lead. -/
theorem locate_ofComponents {components : List Component} (htrack : Path.IsTrack components)
    (hfault : pathFault? (Path.ofComponents components) = none) :
    tree.locate here (Path.ofComponents components) true = tree.follow here components := by
  have hnonempty : components ≠ [] := by
    rintro rfl
    cases hfault
  have hstart : (if (Path.ofComponents components).isAbsolute then [] else here) =
      if components.head? = some .root then [] else here := by
    simp only [Path.isAbsolute_iff, Path.components_ofComponents htrack]
  rw [locate, hfault, hstart]
  by_cases hroot : components = [.root]
  · subst hroot
    exact walkLinks_blank rfl _
  · rw [Path.ofComponents_of_ne hroot, Text.parts_joinWith (by rfl) (by simpa using hnonempty)
      htrack.slash_not_mem]
    rfl

theorem map_part_ofPart? (text : String) :
    (Component.ofPart? text).map Component.part = if isStep text then some text else none := by
  rw [Component.ofPart?]
  split
  · rename_i hblank
    rcases hblank with rfl | rfl <;> rfl
  · rename_i hplain
    have hstep : isStep text = true := by simpa [isStep, not_or] using hplain
    rw [if_pos hstep]
    split
    · rename_i hparent
      exact congrArg some hparent.symm
    · rfl

/-- The parts of a path that stand for its steps. -/
theorem map_part_steps (path : Path) :
    path.steps.map Component.part = (Text.parts '/' path.text).filter isStep := by
  rw [Path.steps, List.map_filterMap, ← List.filterMap_eq_filter]
  refine List.filterMap_congr fun part _ ↦ ?_
  rw [map_part_ofPart?, Option.guard]

/-- A path that ends in a name has this name for a part, and then at most parts without meaning. Up
to there its parts are walked as its components are. -/
theorem exists_parts {path : Path} {before : List Component} {name : String}
    (hcomponents : path.components = before ++ [.named name]) :
    ∃ skipped trailing, Text.parts '/' path.text = skipped ++ name :: trailing ∧
      (∀ part ∈ trailing, isStep part = false) ∧
      ∀ (tree : FileTree) (left : Nat) (here : Location),
        tree.walkLinks true left here (skipped ++ [name]) =
          tree.walkLinks true left here (path.components.map Component.part) := by
  -- The name is a step, since nothing but the root or a dot comes before the steps.
  obtain ⟨inner, hsteps⟩ : ∃ inner, path.steps = inner ++ [.named name] := by
    have hlast := congrArg List.getLast? hcomponents
    rw [Path.components_eq, List.getLast?_concat] at hlast
    rcases List.eq_nil_or_concat path.steps with hnone | ⟨inner, last, hsteps⟩
    · rw [hnone, List.append_nil, Path.lead] at hlast
      split at hlast
      · cases hlast
      · split at hlast <;> cases hlast
    · rw [List.concat_eq_append] at hsteps
      rw [hsteps, ← List.append_assoc, List.getLast?_concat] at hlast
      exact ⟨inner, by rw [hsteps, Option.some.inj hlast]⟩
  have hfilter := map_part_steps path
  rw [hsteps, List.map_append, eq_comm, List.filter_eq_append_iff] at hfilter
  obtain ⟨first, second, hparts, hfirst, hsecond⟩ := hfilter
  obtain ⟨blank, trailing, rfl, hblank, -, htrailing⟩ := List.filter_eq_cons_iff.mp hsecond
  refine ⟨first ++ blank, trailing, by rw [hparts, List.append_assoc]; rfl, ?_, ?_⟩
  · simpa [List.filter_eq_nil_iff] using htrailing
  · intro tree left here
    have hskipped : (first ++ blank).filter isStep = inner.map Component.part := by
      rw [List.filter_append, hfirst, List.filter_eq_nil_iff.mpr hblank, List.append_nil]
    have hlead : (path.lead.map Component.part).filter isStep = [] := by
      rw [Path.lead]
      split
      · decide
      · split <;> decide
    have hmore : inner.map Component.part ++ [name] ≠ [] := by simp
    have hshort : tree.walkLinks true left here (inner.map Component.part ++ [name]) =
        tree.walkLinks true left here (first ++ blank ++ [name]) := by
      rw [← hskipped]
      exact walkLinks_filter tree (List.cons_ne_nil name []) left here [] (first ++ blank)
    have hlong : tree.walkLinks true left here (inner.map Component.part ++ [name]) =
        tree.walkLinks true left here
          (path.lead.map Component.part ++ (inner.map Component.part ++ [name])) := by
      have hfiltered := walkLinks_filter tree hmore left here []
        (path.lead.map Component.part)
      rwa [hlead] at hfiltered
    rw [← hshort, hlong, Path.components_eq, hsteps, List.map_append, List.map_append]
    rfl

/-- A path that ends in a name, and in no slash or dot after it, leads where its components lead. -/
theorem locate_eq_follow {path : Path} {before : List Component} {name last : String}
    (hcomponents : path.components = before ++ [.named name])
    (hlast : (Text.parts '/' path.text).getLast? = some last) (hstep : isStep last = true)
    (hfault : pathFault? path = none) :
    tree.locate here path true = tree.follow here path.components := by
  obtain ⟨skipped, trailing, hparts, htrailing, hwalk⟩ := exists_parts hcomponents
  obtain rfl : trailing = [] := by
    rcases List.eq_nil_or_concat trailing with hnone | ⟨others, part, htrail⟩
    · exact hnone
    · rw [hparts, htrail, List.concat_eq_append, ← List.cons_append, ← List.append_assoc,
        List.getLast?_concat] at hlast
      rw [htrailing last (by rw [htrail, ← Option.some.inj hlast]; simp)] at hstep
      cases hstep
  rw [locate, hfault, hparts, follow, ← hwalk]
  simp only [Path.isAbsolute_iff]

/-- Where components lead nowhere, a path with these components leads nowhere. -/
theorem locate_ne_ok {path : Path} {before : List Component} {name : String} {error : SystemError}
    (hcomponents : path.components = before ++ [.named name])
    (hfollow : tree.follow here path.components = .error error) (location : Location) :
    tree.locate here path true ≠ .ok location := by
  obtain ⟨skipped, trailing, hparts, -, hwalk⟩ := exists_parts hcomponents
  rw [follow, ← hwalk] at hfollow
  have hlonger := walkLinks_append_of_error trailing hfollow
  rw [locate]
  cases pathFault? path with
  | some fault => exact fun hlocated ↦ nomatch hlocated
  | none =>
    rw [hparts]
    simp only [Path.isAbsolute_iff]
    rw [List.append_assoc, List.singleton_append] at hlonger
    rw [hlonger]
    exact fun hlocated ↦ nomatch hlocated

/-! ### Directories on the way -/

/-- The components lead to a directory. -/
def Reaches (tree : FileTree) (here : Location) (components : List Component)
    (directory : Location) : Prop :=
  tree.follow here components = .ok directory ∧ tree.find? directory = some .directory

/-- From a directory on the way one goes on. -/
theorem Reaches.exists_follow_append {before : List Component} {directory : Location}
    (hreaches : tree.Reaches here before directory) {more : List Component} (hmore : more ≠ [])
    (hinner : ∀ component ∈ more, component.IsInner) :
    ∃ left, tree.follow here (before ++ more) =
      tree.walkLinks true left directory (more.map Component.part) := by
  have hstart : (before ++ more).head? = some .root ↔ before.head? = some .root := by
    cases before with
    | cons first rest => rfl
    | nil =>
      cases more with
      | nil => rfl
      | cons first rest =>
        rcases hinner first List.mem_cons_self with rfl | ⟨name, -, rfl⟩ <;> simp
  have hparts : more.map Component.part ≠ [] := by simpa using hmore
  have hgoes := walkLinks_append_of_ok hparts hreaches.1
  rw [follow, List.map_append]
  simp only [hstart]
  rcases hgoes with hwalk | ⟨⟨octets, isExecutable, hfile⟩, -⟩
  · exact hwalk
  · rw [hreaches.2] at hfile
    cases hfile

/-- Nothing is found under a name that is not there. -/
theorem exists_walkLinks_eq_error {directory : Location} {name : String}
    (hname : Component.IsName name) (hfree : tree.find? (directory ++ [name]) = none) (left : Nat)
    (rest : List String) :
    ∃ error, tree.walkLinks true left directory (name :: rest) = .error error := by
  have hmeeting : ∃ error, tree.meeting directory name = .fails error := by
    by_cases hlength : name.utf8ByteSize > nameLimit
    · refine ⟨.nameTooLong, ?_⟩
      rw [meeting, if_neg (not_or.mpr ⟨hname.1, hname.2.1⟩), if_neg hname.2.2.1, if_pos hlength]
    · refine ⟨.notFound, ?_⟩
      rw [meeting_of_name tree directory ⟨hname.1, hname.2.1⟩ hname.2.2.1 hlength, hfree]
  obtain ⟨error, hfails⟩ := hmeeting
  refine ⟨error, ?_⟩
  cases left <;> rw [walkLinks, walk_cons, hfails]

/-- A name leads to what lies under it, if this is no link. -/
theorem walkLinks_name {directory : Location} {name : String} {entry : Entry}
    (hname : Component.IsName name) (hlength : ¬name.utf8ByteSize > nameLimit)
    (hfind : tree.find? (directory ++ [name]) = some entry)
    (hplain : ∀ target, entry ≠ .link target) (left : Nat) :
    tree.walkLinks true left directory [name] = .ok (directory ++ [name]) := by
  have hmeeting := meeting_of_name tree directory ⟨hname.1, hname.2.1⟩ hname.2.2.1 hlength
  rw [hfind] at hmeeting
  cases entry with
  | directory => cases left <;> rw [walkLinks, walk_cons, hmeeting] <;> rfl
  | file octets isExecutable => cases left <;> rw [walkLinks, walk_cons, hmeeting] <;> rfl
  | link target => exact absurd rfl (hplain target)

theorem fileName?_eq_some {path : Path} {name : String} (hname : path.fileName? = some name) :
    path.components.getLast? = some (.named name) := by
  rw [Path.fileName?] at hname
  split at hname
  · rename_i last hlast
    rw [hlast, Option.some.inj hname]
  · cases hname

theorem locateParent_eq_ok {path : Path} {directory : Location}
    (hparent : tree.locateParent here path = .ok directory) :
    tree.follow here path.components.dropLast = .ok directory := by
  have htrack : Path.IsTrack path.components.dropLast :=
    path.isTrack_components.of_prefix path.components.dropLast_prefix
  rw [locateParent, Path.parent] at hparent
  split at hparent
  · rename_i hempty
    rw [(Path.text_ofComponents_eq_empty_iff htrack).mp hempty]
    exact hparent
  · cases hfault : pathFault? (Path.ofComponents path.components.dropLast) with
    | some fault =>
      rw [locate, hfault] at hparent
      cases hparent
    | none => rwa [locate_ofComponents htrack hfault] at hparent

/-- The location of a new entry is a name in the directory that the components before it lead to. -/
theorem exists_of_locateNew {path : Path} {location : Location}
    (hlocate : tree.locateNew here path = .ok location) :
    ∃ before name directory, path.components = before ++ [.named name] ∧
      tree.Reaches here before directory ∧ location = directory ++ [name] ∧
      ¬name.utf8ByteSize > nameLimit ∧ pathFault? path = none := by
  cases hfault : pathFault? path with
  | some fault =>
    rw [locateNew, hfault] at hlocate
    cases hlocate
  | none =>
    simp only [locateNew, hfault, bind_eq_ok_iff, unless_throw_eq_ok_iff] at hlocate
    obtain ⟨directory, hparent, hdirectory, hlocate⟩ := hlocate
    cases hname : path.fileName? with
    | none =>
      rw [hname] at hlocate
      cases hlocate
    | some name =>
      simp only [hname, unless_throw_eq_ok_iff] at hlocate
      have hlocation : location = directory ++ [name] := by
        have hplace := hlocate.2
        split at hplace
        · split at hplace
          · cases hplace
          · exact (Except.ok.inj hplace).symm
        · exact (Except.ok.inj hplace).symm
      refine ⟨path.components.dropLast, name, directory, ?_, ⟨locateParent_eq_ok hparent, ?_⟩,
        hlocation, hlocate.1, rfl⟩
      · have hlast := fileName?_eq_some hname
        rw [List.dropLast_append_getLast? _ hlast]
      · simpa [hasDirectory] using hdirectory

end FileTree

end Scaffold
