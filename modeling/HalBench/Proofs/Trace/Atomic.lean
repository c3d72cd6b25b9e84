import HalBench.Proofs.Trace.Cleaning

/-! A trace is replaced whole or not at all, and a cleanup that fails or finds nothing to remove
leaves all files as they are. Nothing else under any name is seen to change, neither afterwards nor
while the new file is being written. -/

namespace HalBench.Trace

open Files

section Cleaning

variable {files after : Tree} {path : Path}

theorem cleanPath_error {e : Error} (h : cleanPath files path = (.error e, after)) :
    after = files := by
  unfold cleanPath at h
  cases loaded : loadPath files path with
  | error fault =>
    rw [loaded] at h
    exact (Prod.mk.inj h).2.symm
  | ok records =>
    simp only [loaded] at h
    split at h
    · cases h
    · cases replaced : replacePath files path (cleanup records).1 with
      | mk result tree =>
        rw [replaced] at h
        cases result with
        | error fault =>
          cases h
          exact replacePath_error replaced
        | ok => cases h

theorem cleanPath_nothing {report : CleanupTally} (h : cleanPath files path = (.ok report, after))
    (nothing : report.removed = 0) : after = files := by
  cases loaded : loadPath files path with
  | error fault =>
    rw [cleanPath, loaded] at h
    cases h
  | ok records =>
    obtain ⟨-, ⟨-, same⟩ | ⟨something, -⟩⟩ := cleanPath_ok loaded h
    · exact same
    · exact absurd nothing something

end Cleaning

/-- Records take the place of a file whole or not at all. They do exactly when a temporary file can
be made in the directory of the path, there is room for them, they are handed to the disk, and the
path can be replaced. Otherwise no file is different from before and none has been added. Where
they do, the file holds their frames and nothing is different under any other name; and it is read
under the path, unless the path led to a directory or through too many links. While the temporary
file is being written the path leads to what it led to before. A cleanup that fails, or that has
nothing to remove, leaves all files as they are. -/
theorem replacePath_atomic (files : Tree) (path : Path) (records : List Record) :
    let content := records.flatMap fun r => Frame.encode (Record.codec.encode r)
    let (result, after) := replacePath files path records
    let (cleaned, afterwards) := cleanPath files path
    (∀ e, result = .error e → after = files) ∧
    (result = .ok () ↔
      (∃ made, makeTemporary files (directoryOf path) = .ok made) ∧
      (∀ n ∈ files.room, content.length ≤ n) ∧ files.syncFault = none ∧
      ∃ names, files.replaceable path = .ok names) ∧
    (result = .ok () → ∃ names, files.replaceable path = .ok names ∧
      (∀ other, after.node? other =
        if other = names then some (.file content false) else files.node? other) ∧
      (files.look true path ≠ .ok .directory → files.look true path ≠ .error .tooManyLinks →
        after.read path = .ok content)) ∧
    (∀ temporary working, makeTemporary files (directoryOf path) = .ok (temporary, working) →
      ∀ part node, files.look true path = .ok node →
        (files.put temporary (.file part false)).look true path = .ok node) ∧
    (∀ e, cleaned = .error e → afterwards = files) ∧
    (∀ report, cleaned = .ok report → report.removed = 0 → afterwards = files) := by
  intro content
  cases replaced : replacePath files path records with
  | mk result after =>
    cases cleaned : cleanPath files path with
    | mk outcome afterwards =>
      refine ⟨?_, ?_, ?_, ?_, ?_, ?_⟩
      · rintro e rfl
        exact replacePath_error replaced
      · constructor
        · rintro rfl
          obtain ⟨⟨temporary, working, made⟩, room, sync, dir, last, replaces, -⟩ :=
            replacePath_iff.mp replaced
          exact ⟨⟨_, made⟩, room, sync, _, replaces.replaceable_eq⟩
        · rintro ⟨⟨⟨temporary, working⟩, made⟩, room, sync, names, place⟩
          obtain ⟨dir, last, replaces, -⟩ := Tree.replaces_of_ok place
          have done_ := replacePath_iff.mpr
            ⟨⟨temporary, working, made⟩, room, sync, dir, last, replaces, rfl⟩
          rw [replaced] at done_
          exact congrArg Prod.fst done_
      · rintro rfl
        obtain ⟨-, -, -, dir, last, replaces, rfl⟩ := replacePath_iff.mp replaced
        refine ⟨dir ++ [last], replaces.replaceable_eq, ?_, ?_⟩
        · intro other
          exact Tree.node?_put (by simp) other
        · intro notDirectory few
          exact Tree.read_of_look (replaces.look_put notDirectory few content false)
      · intro temporary working made part node found
        obtain ⟨proper, free, -⟩ := makeTemporary_ok made
        exact Tree.look_put_of_free proper free part false found
      · rintro e rfl
        exact cleanPath_error cleaned
      · rintro report rfl nothing
        exact cleanPath_nothing cleaned nothing

end HalBench.Trace
