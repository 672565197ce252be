import ResourceAccessors.Disk.Resolution
import ResourceAccessors.Proofs.Disk.Entries
import ResourceAccessors.Proofs.FilePath.Components

/-!
# The way to a folder

A path leads to a folder through folders and links only. The way stays open as long as these are not
touched, whatever happens to files.
-/

namespace ResourceAccessors.Disk

open FilePath (Component)

/-- Some steps lead from `here` to `there` through folders and links. Of the `links` links that may be
followed, `left` are left. -/
inductive Leads (disk : Disk) : (links : Nat) → (here : Location) → List Component → (left : Nat) →
    (there : Location) → Prop
  | arrived {links here} : Leads disk links here [] links here
  | root {links here rest left there} (onward : Leads disk links [] rest left there) :
      Leads disk links here (.root :: rest) left there
  | current {links here rest left there} (folder : disk.isFolderAt here = true)
      (onward : Leads disk links here rest left there) :
      Leads disk links here (.current :: rest) left there
  | parent {links here rest left there} (folder : disk.isFolderAt here = true)
      (onward : Leads disk links here.tail rest left there) :
      Leads disk links here (.parent :: rest) left there
  | enter {links here name rest left there} (folder : disk.isFolderAt here = true)
      (short : FilePath.byteSize name ≤ maxNameSize)
      (inside : disk.entry? (name :: here) = some .folder)
      (onward : Leads disk links (name :: here) rest left there) :
      Leads disk links here (.name name :: rest) left there
  | link {links here name target rest left there} (folder : disk.isFolderAt here = true)
      (short : FilePath.byteSize name ≤ maxNameSize)
      (inside : disk.entry? (name :: here) = some (.link target)) (written : target.text ≠ "")
      (onward : Leads disk links here (target.steps ++ rest) left there) :
      Leads disk (links + 1) here (.name name :: rest) left there

namespace Leads

variable {disk : Disk} {links left : Nat} {here there : Location} {steps : List Component}

/-- Following goes the way, and on from its end. -/
theorem follow_append (leads : disk.Leads links here steps left there) (more : List Component) :
    disk.follow links here (steps ++ more) = disk.follow left there more := by
  induction leads with
  | arrived => rfl
  | root onward ih => rw [List.cons_append, follow, ih]
  | current folder onward ih => rw [List.cons_append, follow, if_pos folder, ih]
  | parent folder onward ih => rw [List.cons_append, follow, if_pos folder, ih]
  | enter folder short inside onward ih =>
    rw [List.cons_append, follow, if_neg (by simp [folder]), if_neg (Nat.not_lt.2 short), inside]
    exact ih
  | @link links here name target rest left there folder short inside written onward ih =>
    have open' : ¬ target.text.isEmpty = true := by simpa using written
    rw [List.cons_append, follow, if_neg (by simp [folder]), if_neg (Nat.not_lt.2 short), inside]
    dsimp only
    rw [if_neg (Nat.succ_ne_zero _), if_neg open', ← List.append_assoc]
    exact ih

/-- Following goes the way to its end. -/
theorem follow_eq (leads : disk.Leads links here steps left there) :
    disk.follow links here steps = .ok there := by
  have whole := leads.follow_append []
  rw [List.append_nil, follow] at whole
  exact whole

/-- Ways that meet make one way. -/
theorem append {before after : List Component} {middle : Location} {kept : Nat}
    (first : disk.Leads links here before kept middle)
    (second : disk.Leads kept middle after left there) :
    disk.Leads links here (before ++ after) left there := by
  induction first with
  | arrived => exact second
  | root onward ih => exact .root (ih second)
  | current folder onward ih => exact .current folder (ih second)
  | parent folder onward ih => exact .parent folder (ih second)
  | enter folder short inside onward ih => exact .enter folder short inside (ih second)
  | link folder short inside written onward ih =>
    have onward := ih second
    rw [List.append_assoc] at onward
    exact .link folder short inside written onward

/-- A way can be taken apart anywhere. -/
theorem split {before after : List Component}
    (leads : disk.Leads links here (before ++ after) left there) :
    ∃ kept middle, disk.Leads links here before kept middle ∧
      disk.Leads kept middle after left there := by
  generalize whole : before ++ after = steps at leads
  induction leads generalizing before with
  | arrived =>
    obtain ⟨rfl, rfl⟩ := List.append_eq_nil_iff.1 whole
    exact ⟨_, _, .arrived, .arrived⟩
  | root onward ih =>
    cases before with
    | nil =>
      cases whole
      exact ⟨_, _, .arrived, .root onward⟩
    | cons first others =>
      obtain ⟨rfl, rfl⟩ := List.cons.inj whole
      obtain ⟨kept, middle, front, back⟩ := ih rfl
      exact ⟨kept, middle, .root front, back⟩
  | current folder onward ih =>
    cases before with
    | nil =>
      cases whole
      exact ⟨_, _, .arrived, .current folder onward⟩
    | cons first others =>
      obtain ⟨rfl, rfl⟩ := List.cons.inj whole
      obtain ⟨kept, middle, front, back⟩ := ih rfl
      exact ⟨kept, middle, .current folder front, back⟩
  | parent folder onward ih =>
    cases before with
    | nil =>
      cases whole
      exact ⟨_, _, .arrived, .parent folder onward⟩
    | cons first others =>
      obtain ⟨rfl, rfl⟩ := List.cons.inj whole
      obtain ⟨kept, middle, front, back⟩ := ih rfl
      exact ⟨kept, middle, .parent folder front, back⟩
  | enter folder short inside onward ih =>
    cases before with
    | nil =>
      cases whole
      exact ⟨_, _, .arrived, .enter folder short inside onward⟩
    | cons first others =>
      obtain ⟨rfl, rfl⟩ := List.cons.inj whole
      obtain ⟨kept, middle, front, back⟩ := ih rfl
      exact ⟨kept, middle, .enter folder short inside front, back⟩
  | @link links here name target rest left there folder short inside written onward ih =>
    cases before with
    | nil =>
      cases whole
      exact ⟨_, _, .arrived, .link folder short inside written onward⟩
    | cons first others =>
      obtain ⟨rfl, rfl⟩ := List.cons.inj whole
      obtain ⟨kept, middle, front, back⟩ := ih (List.append_assoc target.steps others after)
      exact ⟨kept, middle, .link folder short inside written front, back⟩

/-- A way stays open where folders and links stay. -/
theorem mono {after : Disk} (leads : disk.Leads links here steps left there)
    (keeps : disk.Keeps after) : after.Leads links here steps left there := by
  have stays : ∀ {location}, disk.isFolderAt location = true → after.isFolderAt location = true :=
    fun folder => isFolderAt_iff.2 (keeps.folders _ (isFolderAt_iff.1 folder))
  induction leads with
  | arrived => exact .arrived
  | root onward ih => exact .root ih
  | current folder onward ih => exact .current (stays folder) ih
  | parent folder onward ih => exact .parent (stays folder) ih
  | enter folder short inside onward ih =>
    exact .enter (stays folder) short (keeps.folders _ inside) ih
  | link folder short inside written onward ih =>
    exact .link (stays folder) short (keeps.links _ _ inside) written ih

end Leads

/-! ### Ways that are followed -/

section Follow

variable {disk : Disk} {links : Nat} {here there : Location} {steps : List Component}

/-- Nothing lies behind a file: steps that do not start anew end there. -/
theorem eq_of_follow_of_file {content : ByteArray}
    (file : disk.entry? here = some (.file content)) (noRoot : Component.root ∉ steps)
    (followed : disk.follow links here steps = .ok there) : there = here := by
  have notFolder : disk.isFolderAt here = false := by
    rw [isFolderAt, file]
  cases steps with
  | nil =>
    rw [follow] at followed
    exact (Except.ok.inj followed).symm
  | cons first rest =>
    cases first with
    | root => exact absurd List.mem_cons_self noRoot
    | current =>
      rw [follow, if_neg (by simp [notFolder])] at followed
      cases followed
    | parent =>
      rw [follow, if_neg (by simp [notFolder])] at followed
      cases followed
    | name text =>
      rw [follow, if_pos (by simp [notFolder])] at followed
      cases followed

/-- No steps lead on from a file, unless they start anew. -/
theorem eq_nil_of_follow_of_file {content : ByteArray}
    (file : disk.entry? here = some (.file content)) (noRoot : Component.root ∉ steps)
    (followed : disk.follow links here steps = .ok there) : steps = [] := by
  have notFolder : disk.isFolderAt here = false := by
    rw [isFolderAt, file]
  cases steps with
  | nil => rfl
  | cons first rest =>
    cases first with
    | root => exact absurd List.mem_cons_self noRoot
    | current => simp [follow, notFolder] at followed
    | parent => simp [follow, notFolder] at followed
    | name text => simp [follow, notFolder] at followed

/-- Only the first step of a path can be the root. -/
theorem root_not_mem_tail_steps (path : FilePath) : Component.root ∉ path.steps.tail := by
  have behind := (FilePath.wellFormed_components path).root_not_mem_tail
  rw [FilePath.steps]
  intro mem
  cases components : path.components with
  | nil =>
    rw [components] at mem
    split at mem <;> simp at mem
  | cons first rest =>
    rw [components] at mem behind
    rcases List.mem_append.1 mem with own | dot
    · exact behind own
    · split at dot <;> simp at dot

/-- Behind the first of some steps fewer of them stand. -/
theorem root_not_mem_tail_tail {first : Component} {rest : List Component}
    (noRoot : Component.root ∉ (first :: rest).tail) : Component.root ∉ rest.tail :=
  fun mem => noRoot (List.mem_of_mem_tail mem)

/-- The steps of a link in place of its name do not start anew. -/
theorem root_not_mem_tail_append (target : FilePath) {rest : List Component}
    (noRoot : Component.root ∉ rest) : Component.root ∉ (target.steps ++ rest).tail := by
  intro mem
  have own := root_not_mem_tail_steps target
  cases steps : target.steps with
  | nil =>
    rw [steps] at mem
    exact noRoot (List.mem_of_mem_tail mem)
  | cons first others =>
    rw [steps] at mem own
    rcases List.mem_append.1 mem with inside | onward
    · exact own inside
    · exact noRoot onward

/-- No file stands where a folder does. -/
theorem notFile_of_isFolderAt (folder : disk.isFolderAt there = true) (content : ByteArray) :
    disk.entry? there ≠ some (.file content) := by
  rw [isFolderAt_iff.1 folder]
  exact fun absurd => nomatch absurd

/-- What is followed to no file is a way through folders and links. -/
theorem exists_leads_of_follow (followed : disk.follow links here steps = .ok there)
    (notFile : ∀ content, disk.entry? there ≠ some (.file content))
    (noRoot : Component.root ∉ steps.tail) :
    ∃ left, disk.Leads links here steps left there := by
  fun_induction follow disk links here steps with
  | case1 links here =>
    cases followed
    exact ⟨_, .arrived⟩
  | case2 links here rest ih =>
    obtain ⟨left, onward⟩ := ih followed (root_not_mem_tail_tail noRoot)
    exact ⟨left, .root onward⟩
  | case3 links here rest inside ih =>
    obtain ⟨left, onward⟩ := ih followed (root_not_mem_tail_tail noRoot)
    exact ⟨left, .current inside onward⟩
  -- following fails in these cases
  | case4 | case6 | case7 | case8 | case9 | case10 | case11 => cases followed
  | case5 links here rest inside ih =>
    obtain ⟨left, onward⟩ := ih followed (root_not_mem_tail_tail noRoot)
    exact ⟨left, .parent inside onward⟩
  | case12 links here name rest inside short target stands more written ih =>
    obtain ⟨left, onward⟩ := ih followed (root_not_mem_tail_append target noRoot)
    obtain ⟨fewer, rfl⟩ := Nat.exists_eq_succ_of_ne_zero more
    exact ⟨left, .link (by simpa using inside) (Nat.not_lt.1 short) stands (by simpa using written)
      onward⟩
  | case13 links here name rest inside short content stands ih =>
    have same := eq_of_follow_of_file stands noRoot followed
    exact absurd (same ▸ stands) (notFile content)
  | case14 links here name rest inside short stands ih =>
    obtain ⟨left, onward⟩ := ih followed (root_not_mem_tail_tail noRoot)
    exact ⟨left, .enter (by simpa using inside) (Nat.not_lt.1 short) stands onward⟩

/-- What is followed beyond some steps is a way through folders and links as far as these go. -/
theorem exists_leads_of_follow_append {before after : List Component}
    (followed : disk.follow links here (before ++ after) = .ok there) (more : after ≠ [])
    (noRoot : Component.root ∉ (before ++ after).tail) :
    ∃ left middle, disk.Leads links here before left middle ∧
      disk.follow left middle after = .ok there := by
  generalize whole : before ++ after = steps at followed noRoot
  fun_induction follow disk links here steps generalizing before with
  | case1 links here => simp [more] at whole
  | case2 links here rest ih =>
    rcases List.cons_eq_append_iff.1 whole.symm with ⟨rfl, rfl⟩ | ⟨others, rfl, rfl⟩
    · exact ⟨_, _, .arrived, by rw [follow, followed]⟩
    · obtain ⟨left, middle, way, onward⟩ := ih rfl followed (root_not_mem_tail_tail noRoot)
      exact ⟨left, middle, .root way, onward⟩
  | case3 links here rest inside ih =>
    rcases List.cons_eq_append_iff.1 whole.symm with ⟨rfl, rfl⟩ | ⟨others, rfl, rfl⟩
    · exact ⟨_, _, .arrived, by rw [follow, if_pos inside, followed]⟩
    · obtain ⟨left, middle, way, onward⟩ := ih rfl followed (root_not_mem_tail_tail noRoot)
      exact ⟨left, middle, .current inside way, onward⟩
  -- following fails in these cases
  | case4 | case6 | case7 | case8 | case9 | case10 | case11 => cases followed
  | case5 links here rest inside ih =>
    rcases List.cons_eq_append_iff.1 whole.symm with ⟨rfl, rfl⟩ | ⟨others, rfl, rfl⟩
    · exact ⟨_, _, .arrived, by rw [follow, if_pos inside, followed]⟩
    · obtain ⟨left, middle, way, onward⟩ := ih rfl followed (root_not_mem_tail_tail noRoot)
      exact ⟨left, middle, .parent inside way, onward⟩
  | case12 links here name rest inside short target stands some written ih =>
    rcases List.cons_eq_append_iff.1 whole.symm with ⟨rfl, rfl⟩ | ⟨others, rfl, rfl⟩
    · refine ⟨_, _, .arrived, ?_⟩
      rw [follow, if_neg inside, if_neg short, stands]
      dsimp only
      rw [if_neg some, if_neg written, followed]
    · obtain ⟨left, middle, way, onward⟩ :=
        ih (List.append_assoc target.steps others after) followed
          (root_not_mem_tail_append target noRoot)
      obtain ⟨fewer, rfl⟩ := Nat.exists_eq_succ_of_ne_zero some
      exact ⟨left, middle, .link (by simpa using inside) (Nat.not_lt.1 short) stands
        (by simpa using written) way, onward⟩
  | case13 links here name rest inside short content stands ih =>
    rcases List.cons_eq_append_iff.1 whole.symm with ⟨rfl, rfl⟩ | ⟨others, rfl, rfl⟩
    · refine ⟨_, _, .arrived, ?_⟩
      rw [follow, if_neg inside, if_neg short, stands]
      exact followed
    · have none := eq_nil_of_follow_of_file stands noRoot followed
      exact absurd (List.append_eq_nil_iff.1 none).2 more
  | case14 links here name rest inside short stands ih =>
    rcases List.cons_eq_append_iff.1 whole.symm with ⟨rfl, rfl⟩ | ⟨others, rfl, rfl⟩
    · refine ⟨_, _, .arrived, ?_⟩
      rw [follow, if_neg inside, if_neg short, stands]
      exact followed
    · obtain ⟨left, middle, way, onward⟩ := ih rfl followed (root_not_mem_tail_tail noRoot)
      exact ⟨left, middle, .enter (by simpa using inside) (Nat.not_lt.1 short) stands way, onward⟩

/-- Steps lead where they led before as long as folders and links stay, and a file at their end. -/
theorem Keeps.follow {after : Disk} (keeps : disk.Keeps after)
    (followed : disk.follow links here steps = .ok there) (noRoot : Component.root ∉ steps.tail)
    (files : ∀ content, disk.entry? there = some (.file content) →
      ∃ other, after.entry? there = some (.file other)) :
    after.follow links here steps = .ok there := by
  have stays : ∀ {location}, disk.isFolderAt location = true → after.isFolderAt location = true :=
    fun folder => isFolderAt_iff.2 (keeps.folders _ (isFolderAt_iff.1 folder))
  fun_induction Disk.follow disk links here steps with
  | case1 links here => rw [Disk.follow, ← followed]
  | case2 links here rest ih =>
    rw [Disk.follow]
    exact ih followed (root_not_mem_tail_tail noRoot)
  | case3 links here rest inside ih =>
    rw [Disk.follow, if_pos (stays inside)]
    exact ih followed (root_not_mem_tail_tail noRoot)
  -- following fails in these cases
  | case4 | case6 | case7 | case8 | case9 | case10 | case11 => cases followed
  | case5 links here rest inside ih =>
    rw [Disk.follow, if_pos (stays inside)]
    exact ih followed (root_not_mem_tail_tail noRoot)
  | case12 links here name rest inside short target stands more written ih =>
    rw [Disk.follow, if_neg (by simpa using stays (by simpa using inside)), if_neg short,
      keeps.links _ _ stands]
    dsimp only
    rw [if_neg more, if_neg written]
    exact ih followed (root_not_mem_tail_append target noRoot)
  | case13 links here name rest inside short content stands ih =>
    obtain rfl := eq_nil_of_follow_of_file stands noRoot followed
    obtain rfl : name :: here = there := by
      rw [Disk.follow] at followed
      exact Except.ok.inj followed
    obtain ⟨other, still⟩ := files content stands
    rw [Disk.follow, if_neg (by simpa using stays (by simpa using inside)), if_neg short, still]
    exact ih followed (by simp)
  | case14 links here name rest inside short stands ih =>
    rw [Disk.follow, if_neg (by simpa using stays (by simpa using inside)), if_neg short,
      keeps.folders _ stands]
    exact ih followed (root_not_mem_tail_tail noRoot)

/-- Steps lead where they led before when more links may be followed. -/
theorem follow_of_le {more : Nat} (followed : disk.follow links here steps = .ok there)
    (atMost : links ≤ more) : disk.follow more here steps = .ok there := by
  fun_induction Disk.follow disk links here steps generalizing more with
  | case1 links here => rw [Disk.follow, followed]
  | case2 links here rest ih =>
    rw [Disk.follow]
    exact ih followed atMost
  | case3 links here rest inside ih =>
    rw [Disk.follow, if_pos inside]
    exact ih followed atMost
  -- following fails in these cases
  | case4 | case6 | case7 | case8 | case9 | case10 | case11 => cases followed
  | case5 links here rest inside ih =>
    rw [Disk.follow, if_pos inside]
    exact ih followed atMost
  | case12 links here name rest inside short target stands some written ih =>
    rw [Disk.follow, if_neg inside, if_neg short, stands]
    dsimp only
    rw [if_neg (by omega), if_neg written]
    exact ih followed (Nat.sub_le_sub_right atMost 1)
  | case13 links here name rest inside short content stands ih =>
    rw [Disk.follow, if_neg inside, if_neg short, stands]
    exact ih followed atMost
  | case14 links here name rest inside short stands ih =>
    rw [Disk.follow, if_neg inside, if_neg short, stands]
    exact ih followed atMost

/-- Steps lead to one location only, however many links may be followed. -/
theorem eq_of_follow {more : Nat} {other : Location} (followed : disk.follow links here steps = .ok there)
    (again : disk.follow more here steps = .ok other) : there = other := by
  have one := follow_of_le followed (Nat.le_max_left links more)
  have two := follow_of_le again (Nat.le_max_right links more)
  exact Except.ok.inj (one.symm.trans two)

/-- Where no link is followed, it makes no difference how many might be. -/
theorem follow_eq_of_no_links (plain : disk.follow 0 here steps ≠ .error .tooManyLinks)
    (links : Nat) : disk.follow links here steps = disk.follow 0 here steps := by
  generalize none : 0 = count at plain ⊢
  fun_induction Disk.follow disk count here steps with
  | case1 => rw [Disk.follow]
  | case2 count here rest ih =>
    rw [Disk.follow]
    exact ih none plain
  | case3 count here rest inside ih =>
    rw [Disk.follow, if_pos inside]
    exact ih none plain
  | case4 count here rest outside => rw [Disk.follow, if_neg outside]
  | case5 count here rest inside ih =>
    rw [Disk.follow, if_pos inside]
    exact ih none plain
  | case6 count here rest outside => rw [Disk.follow, if_neg outside]
  | case7 count here name rest outside => rw [Disk.follow, if_pos outside]
  | case8 count here name rest inside long => rw [Disk.follow, if_neg inside, if_pos long]
  | case9 count here name rest inside short absent =>
    rw [Disk.follow, if_neg inside, if_neg short, absent]
  -- at a link the count is used up, which is excluded
  | case10 => exact absurd rfl plain
  | case11 count here name rest inside short target stands more => exact absurd none.symm more
  | case12 count here name rest inside short target stands more => exact absurd none.symm more
  | case13 count here name rest inside short content stands ih =>
    rw [Disk.follow, if_neg inside, if_neg short, stands]
    exact ih none plain
  | case14 count here name rest inside short stands ih =>
    rw [Disk.follow, if_neg inside, if_neg short, stands]
    exact ih none plain

end Follow

end ResourceAccessors.Disk
