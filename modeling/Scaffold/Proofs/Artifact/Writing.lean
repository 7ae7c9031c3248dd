import Scaffold.Artifact.FileWriter
import Scaffold.Proofs.Files.Replacing

/-!
# Artifacts are written whole or not at all

A file writer makes the directories on the way to an artifact, and then either the file of the
artifact holds all of its contents or nothing else has changed, whatever the system refuses
(`FileWriter.write_whole_or_nothing`).
-/

set_option autoImplicit false

namespace Scaffold

/-- The path is made of names, and of at least one. -/
def Path.IsPlain (path : Path) : Prop :=
  path.components ≠ [] ∧ ∀ component ∈ path.components, ∃ name, component = .named name

theorem Path.IsPlain.exists_concat {path : Path} (hplain : path.IsPlain) :
    ∃ before name, path.components = before ++ [.named name] := by
  rcases List.eq_nil_or_concat path.components with hnone | ⟨before, last, hcomponents⟩
  · exact absurd hnone hplain.1
  · rw [List.concat_eq_append] at hcomponents
    obtain ⟨name, rfl⟩ := hplain.2 last (by simp [hcomponents])
    exact ⟨before, name, hcomponents⟩

theorem Path.IsPlain.components_join {base child : Path} (hplain : child.IsPlain) :
    (base.join child).components = base.components ++ child.components := by
  refine Path.components_join ?_
  obtain ⟨first, rest, hcomponents⟩ := List.exists_cons_of_ne_nil hplain.1
  obtain ⟨name, rfl⟩ := hplain.2 first (by simp [hcomponents])
  exact Path.lead_eq_nil hcomponents

namespace FileWriter

/-- Writing an artifact is all or nothing, for every tree and whatever the system refuses. Before
anything else the directories on the way are made, or some of them, and nothing but these is ever
added. A write that succeeds puts the file in place with all the contents and changes nothing else.
One that fails names the path and leaves everything alone; so no temporary file is left by
either. -/
theorem write_whole_or_nothing (writer : FileWriter) {artifact : Artifact} (tree : FileTree)
    (hdestination : artifact.destination.IsPlain) :
    ∃ grown, tree.GrowsAlong grown writer.here (writer.path artifact).parent.components ∧
      match writer.write artifact tree with
      | (.ok _, after) => tree.PutsWhole grown after writer.here (writer.path artifact)
          (Text.Utf8.encode artifact.contents)
      | (.error fault, after) =>
        (∃ cause, fault = .writeFailure (writer.path artifact) cause) ∧
          tree.LeavesAlone grown after writer.here (writer.path artifact) := by
  obtain ⟨before, name, hcomponents⟩ := hdestination.exists_concat
  have hpath : (writer.path artifact).components =
      writer.output.components ++ before ++ [.named name] := by
    rw [path, hdestination.components_join, hcomponents, List.append_assoc]
  refine ⟨_, tree.growsAlong_makeDirectories writer.refusals writer.here
    (writer.path artifact).parent, ?_⟩
  rw [write]
  rcases hwrite : tree.writeWhole writer.refusals writer.here (writer.path artifact)
    (Text.Utf8.encode artifact.contents) with ⟨error | ⟨⟩, after⟩
  · exact ⟨⟨error, rfl⟩, FileTree.leavesAlone_of_writeWhole hpath hwrite⟩
  · exact FileTree.putsWhole_of_writeWhole hwrite

/-! ### Below a missing directory -/

/-- A macro file. -/
def sampleMacro : Artifact :=
  ⟨.buildMacro, ⟨"m4/libz.m4"⟩, "dnl\n"⟩

/-- A writer into a directory that is missing. -/
def intoMissing (refusals : FileTree.Refusals) : FileWriter :=
  ⟨[], ⟨"out"⟩, refusals⟩

/-- There is no room for what is written. -/
def noRoom : FileTree.Refusals :=
  fun step ↦ if step = .flush then some .noRoom else none

theorem path_intoMissing (refusals : FileTree.Refusals) :
    (intoMissing refusals).path sampleMacro = ⟨"out/m4/libz.m4"⟩ := by
  have hjoin : Path.join ⟨"out"⟩ ⟨"m4/libz.m4"⟩ = ⟨"out/m4/libz.m4"⟩ := by decide
  exact hjoin

theorem isPlain_sampleMacro : sampleMacro.destination.IsPlain := by
  have hcomponents : sampleMacro.destination.components = [.named "m4", .named "libz.m4"] := by
    decide
  simp [Path.IsPlain, hcomponents]

theorem write_whole_or_nothing_below_missing :
    sampleMacro.destination.IsPlain ∧
    (∃ after, (intoMissing .none).write sampleMacro .empty = (.ok (), after) ∧
      after.read [] ⟨"out/m4/libz.m4"⟩ = .ok (Text.Utf8.encode "dnl\n")) ∧
    ∃ cause after, (intoMissing noRoom).write sampleMacro .empty =
        (.error (.writeFailure ⟨"out/m4/libz.m4"⟩ cause), after) ∧
      ∀ entry, after.entryAt [] ⟨"out/m4/libz.m4"⟩ ≠ .ok entry := by
  refine ⟨isPlain_sampleMacro, ?_, ?_⟩
  · have hwhole := write_whole_or_nothing (intoMissing .none) .empty isPlain_sampleMacro
    have hok : ((intoMissing .none).write sampleMacro .empty).1.isOk = true := by decide +kernel
    rcases hwrite : (intoMissing .none).write sampleMacro .empty with ⟨fault | ⟨⟩, after⟩
    · rw [hwrite] at hok
      cases hok
    · rw [hwrite, path_intoMissing] at hwhole
      obtain ⟨grown, -, directory, name, -, -, -, hread⟩ := hwhole
      refine ⟨after, rfl, hread fun target hlink ↦ ?_⟩
      rw [FileTree.find?_empty (by simp)] at hlink
      cases hlink
  · have hwhole := write_whole_or_nothing (intoMissing noRoom) .empty isPlain_sampleMacro
    have hfails : ((intoMissing noRoom).write sampleMacro .empty).1.isOk = false := by
      decide +kernel
    rcases hwrite : (intoMissing noRoom).write sampleMacro .empty with ⟨fault | ⟨⟩, after⟩
    · rw [hwrite, path_intoMissing] at hwhole
      obtain ⟨grown, -, ⟨cause, rfl⟩, hleaves⟩ := hwhole
      have hascents : FileTree.empty.HasAscents [] ⟨"out/m4/libz.m4"⟩ :=
        FileTree.hasAscents_of_not_mem (by decide)
      have hnowhere : (FileTree.empty.entryAt [] ⟨"out/m4/libz.m4"⟩).isOk = false := by
        decide +kernel
      refine ⟨cause, after, rfl,
        hleaves.leadsNowhere FileTree.isSound_empty hascents fun entry hentry ↦ ?_⟩
      rw [intoMissing] at hentry
      rw [hentry] at hnowhere
      cases hnowhere
    · rw [hwrite] at hfails
      cases hfails

end FileWriter

end Scaffold
