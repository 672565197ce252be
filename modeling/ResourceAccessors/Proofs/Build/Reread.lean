import Mathlib.Data.List.Find
import ResourceAccessors.Proofs.Build.Convergence
import ResourceAccessors.Proofs.Generation.Rerun
import ResourceAccessors.Proofs.Project.Reread

/-!
# Reading and passing again

On a disk that is alike below the project folder a build reads the same input. Its pass starts from
the state that the pass before it left, reuses every output, and asks as often whether to go on.
-/

namespace ResourceAccessors

/-- A pass with this token goes on at least as long as one with the other. -/
def Generation.Cancellation.Outlasts (again token : Cancellation) : Prop :=
  ∀ count rest, token.spend count = .ok rest → ∃ left, again.spend count = .ok left

namespace Build

open Generation
open Disk (Location)
open FilePath (IsEntryName)

/-! ### Reading the input again -/

section Reading

variable {before after : Disk} {root : FilePath}

/-- A configuration file stands below the root. -/
theorem under_of_mem_candidates {path : FilePath} (mem : path ∈ Config.candidates.map root.join) :
    root.Under path := by
  have named : IsEntryName "embedres.toml" := by decide
  have hidden : IsEntryName ".config" := by decide
  simp only [Config.candidates, List.map_cons, List.map_nil, List.mem_cons, List.not_mem_nil,
    or_false] at mem
  rcases mem with rfl | rfl | rfl
  · exact ⟨root, "embedres.toml", .here, named, rfl⟩
  · exact ⟨root, ".embedres.toml", .here, by decide, rfl⟩
  · exact ⟨root.child ".config", "embedres.toml", .child .here hidden, named,
      root.join_child_child hidden named⟩

/-- The configuration file is found again where such files read the same. -/
theorem configPath?_of_readFile_iff
    (same : ∀ path ∈ Config.candidates.map root.join, ∀ content,
      after.readFile path = .ok content ↔ before.readFile path = .ok content) :
    configPath? after root = configPath? before root := by
  refine List.find?_congr fun path mem => ?_
  rw [Bool.eq_iff_iff, Disk.isFile_iff, Disk.isFile_iff]
  exact exists_congr (same path mem)

/-- The configuration is read again where such files read the same. -/
theorem config?_of_readFile_iff
    (same : ∀ path ∈ Config.candidates.map root.join, ∀ content,
      after.readFile path = .ok content ↔ before.readFile path = .ok content)
    {config : Option Config} (read : config? before root = .ok config) :
    config? after root = .ok config := by
  rw [config?, configPath?_of_readFile_iff same]
  rw [config?] at read
  cases found : configPath? before root with
  | none =>
    rw [found] at read
    exact read
  | some path =>
    rw [found] at read
    obtain ⟨text, readText, parsed⟩ := Step.exists_of_bind_eq_ok read
    have mem := List.mem_of_find?_eq_some found
    cases held : before.readText path with
    | error cause =>
      rw [held] at readText
      cases readText
    | ok content =>
      rw [held] at readText
      cases readText
      obtain ⟨bytes, bytesRead, decoded⟩ := Disk.readText_eq_ok_iff.1 held
      simp only [Disk.readText_eq_ok_iff.2 ⟨bytes, (same path mem bytes).2 bytesRead, decoded⟩]
      exact parsed

/-- Configuration files read the same on a disk that is alike. -/
theorem readFile_iff_of_alike (alike : before.Alike after root) :
    ∀ path ∈ Config.candidates.map root.join, ∀ content,
      after.readFile path = .ok content ↔ before.readFile path = .ok content := by
  intro path mem content
  obtain ⟨base, name, inside, legal, rfl⟩ := under_of_mem_candidates mem
  exact alike.readFile_iff inside legal

/-- What a build reads for its pass is read again. -/
theorem inputOf_again {options : BuildOptions} {input : Input}
    (alike : before.Alike after options.projectDir)
    (alikeNormal : before.Alike after options.projectDir.normal) (legalBefore : before.Legal)
    (legal : after.Legal) (tree : before.IsTree) (keeps : before.Keeps after)
    (read : inputOf before options = .ok input) : inputOf after options = .ok input := by
  obtain ⟨config, configured, read⟩ := Step.exists_of_bind_eq_ok read
  obtain ⟨project, collected, read⟩ := Step.exists_of_bind_eq_ok read
  have collectedAgain := Project.collect_again alikeNormal legalBefore legal tree keeps collected
  cases found : Project.collect after options.projectDir (config.getD Config.default) with
  | error cause =>
    rw [found] at collectedAgain
    cases collectedAgain
  | ok again =>
    rw [found] at collectedAgain
    have same : again.value = project.value := Except.ok.inj collectedAgain
    simp only [inputOf, config?_of_readFile_iff (readFile_iff_of_alike alike) configured, found, same, bind,
      Except.bind]
    exact read

end Reading

/-! ### The pass again -/

section Passing

variable {disk before after : Disk} {options : BuildOptions} {artifactDir : FilePath}
  {input : Input} {token again : Cancellation} {outcome : Outcome} {tracked : List FilePath}

/-- Before a build changes anything it reads its input and makes its pass. It asks whether to go on
before the pass and after it. -/
theorem exists_prepare_eq {count : Nat} (read : inputOf disk options = .ok input)
    (passes : ∀ token, pass (storedState disk artifactDir options.projectDir) input token =
      (token.spend count).map fun rest => (outcome, rest)) :
    ∃ tracked, ∀ token, prepare disk options artifactDir token =
      (token.spend (count + 2)).map fun _ => (outcome, tracked) := by
  obtain ⟨config, configured, read⟩ := Step.exists_of_bind_eq_ok read
  obtain ⟨project, collected, read⟩ := Step.exists_of_bind_eq_ok read
  cases read
  refine ⟨trackedPaths disk options.projectDir (config.getD Config.default) project.value outcome,
    fun token => ?_⟩
  rw [prepare, configured]
  change (Project.collect _ _ _ >>= _) = _
  rw [collected]
  change (token.check >>= _) = (token.check >>= Cancellation.spend (count + 1)).map _
  cases token.check with
  | error cause => rfl
  | ok started =>
    change (pass _ _ started >>= _) = (started.spend (count + 1)).map _
    rw [passes, Cancellation.spend_add, Step.map_bind, Step.bind_map]
    cases started.spend count with
    | error cause => rfl
    | ok left =>
      change (left.check >>= _) = (left.check >>= Cancellation.spend 0).map _
      cases left.check <;> rfl

/-- A build that got through its pass gets through it again, and reuses all of it. -/
theorem exists_prepare_again (read : inputOf before options = .ok input)
    (readAgain : inputOf after options = .ok input)
    (prepared : prepare before options artifactDir token = .ok (outcome, tracked))
    (stored : storedState after artifactDir options.projectDir = outcome.state)
    (patient : again.Outlasts token) : ∃ second changes,
      prepare after options artifactDir again = .ok (second, changes) ∧ second.Reuses outcome := by
  obtain ⟨first, steps, passes⟩ :=
    exists_pass_eq (storedState before artifactDir options.projectDir) input
  obtain ⟨changes, prepares⟩ := exists_prepare_eq read passes
  rw [prepares] at prepared
  cases spent : token.spend (first.questions input + 2) with
  | error cause =>
    rw [spent] at prepared
    cases prepared
  | ok rest =>
    rw [spent] at prepared
    cases prepared
    obtain ⟨second, reuses, passesAgain⟩ := steps.exists_pass_again
    rw [← stored] at passesAgain
    obtain ⟨left, spentAgain⟩ := patient _ rest spent
    obtain ⟨changesAgain, preparesAgain⟩ := exists_prepare_eq readAgain passesAgain
    refine ⟨second, changesAgain, ?_, reuses⟩
    rw [preparesAgain, spentAgain]
    rfl

end Passing

end Build

end ResourceAccessors
