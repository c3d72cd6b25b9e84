import HalBench.Proofs.Files.Replacing
import HalBench.Proofs.Trace.Writing
import HalBench.Trace.File

/-! Putting records in the place of a file. They are written to a temporary file in the directory of
the path, which takes the place of the old file in a last step. When a step fails, the temporary file
is taken away, and then the tree of files is as it was. -/

namespace HalBench.Trace

open Files

variable {files working after : Tree} {path : Path} {temporary : List Bytes}
  {records : List Record} {node : Node}

theorem makeTemporary_ok {dir : Path} (h : makeTemporary files dir = .ok (temporary, working)) :
    temporary ≠ [] ∧ files.node? temporary = none ∧
      working = files.put temporary (.file [] false) := by
  unfold makeTemporary at h
  split at h
  · cases h
  obtain ⟨place, -, h⟩ := ok_of_bind h
  cases place with
  | absent parent name => cases h
  | present names node =>
    cases node with
    | directory =>
      cases h
      exact ⟨by simp, files.freshName_free names, rfl⟩
    | _ => cases h

theorem fits_sinkOf {b : Bytes} : (sinkOf files).Fits b ↔ ∀ n ∈ files.room, b.length ≤ n := by
  cases room : files.room with
  | none =>
    have limit : (sinkOf files).limit = none := by rw [sinkOf, room, Option.map_none]
    rw [Sink.Fits, Sink.room, limit]
    simp
  | some n =>
    have limit : (sinkOf files).limit = some (n, .fails .injected) := by
      rw [sinkOf, room, Option.map_some]
    rw [Sink.fits_limit limit]
    simp [sinkOf]

section Steps

variable (proper : temporary ≠ []) (free : files.node? temporary = none)
include proper free

/-- A temporary file takes the place of a path where a file can be put there. -/
theorem persist_put_iff {content : Bytes} :
    persist (files.put temporary (.file content false)) temporary path = .ok after ↔
      ∃ dir last, files.Replaces path dir last ∧
        after = files.put (dir ++ [last]) (.file content false) := by
  have there : (files.put temporary (.file content false)).node? temporary =
      some (.file content false) := by
    rw [Tree.node?_put proper, if_pos rfl]
  constructor
  · intro h
    obtain ⟨names, place, h⟩ := ok_of_bind h
    rw [there, Tree.erase_put free] at h
    cases h
    obtain ⟨dir, last, replaces, rfl⟩ := Tree.replaces_of_ok place
    exact ⟨dir, last, (Tree.replaces_put_iff proper free content false).mp replaces, rfl⟩
  · rintro ⟨dir, last, replaces, rfl⟩
    have place := ((Tree.replaces_put_iff proper free content false).mpr replaces).replaceable_eq
    simp [persist, place, there, Tree.erase_put free, bind, Except.bind]

theorem fillAndPersist_iff :
    fillAndPersist (files.put temporary (.file [] false)) temporary path records = .ok after ↔
      (∀ n ∈ files.room, (bytesOf records).length ≤ n) ∧ files.syncFault = none ∧
      ∃ dir last, files.Replaces path dir last ∧
        after = files.put (dir ++ [last]) (.file (bytesOf records) false) := by
  have sink : sinkOf (files.put temporary (.file [] false)) = sinkOf files := rfl
  have sync : (files.put temporary (.file [] false)).syncFault = files.syncFault := rfl
  rw [fillAndPersist, sink, sync, ← fits_sinkOf]
  by_cases fits : (sinkOf files).Fits (bytesOf records)
  · obtain ⟨w, calls, taken, -⟩ := @Writer.appendAll_fits { sink := sinkOf files } records rfl fits
    have written : w.sink.written = bytesOf records := taken.written_of_fits fits
    have finished : w.finish = .ok () := by
      rw [Writer.finish, Sink.flush, taken.flushFault]
      rfl
    simp only [calls, finished, written, Tree.put_put]
    cases fault : files.syncFault with
    | some fault => simp [bind, Except.bind]
    | none =>
      rw [← persist_put_iff proper free]
      simp only [bind, Except.bind, fits, true_and]
      exact ⟨ok_of_mapError, fun persisted => by rw [persisted]; rfl⟩
  · obtain ⟨e, w, calls⟩ := @Writer.appendAll_refused { sink := sinkOf files } records rfl fits
    simp [calls, fits, bind, Except.bind]

end Steps

/-- Records are put in the place of a file exactly when a temporary file can be made, there is room
for the records, they are handed to the disk, and a file can be put there. -/
theorem replacePath_iff : replacePath files path records = (.ok (), after) ↔
    (∃ temporary working, makeTemporary files (directoryOf path) = .ok (temporary, working)) ∧
      (∀ n ∈ files.room, (bytesOf records).length ≤ n) ∧ files.syncFault = none ∧
      ∃ dir last, files.Replaces path dir last ∧
        after = files.put (dir ++ [last]) (.file (bytesOf records) false) := by
  cases made : makeTemporary files (directoryOf path) with
  | error fault => simp [replacePath, made]
  | ok both =>
    obtain ⟨temporary, working⟩ := both
    obtain ⟨proper, free, rfl⟩ := makeTemporary_ok made
    rw [← fillAndPersist_iff proper free]
    cases filled : fillAndPersist (files.put temporary (.file [] false)) temporary path records with
    | error e => simp [replacePath, made, filled]
    | ok tree => simp [replacePath, made, filled, eq_comm]

theorem replacePath_error {e : Error} (h : replacePath files path records = (.error e, after)) :
    after = files := by
  unfold replacePath at h
  cases made : makeTemporary files (directoryOf path) with
  | error fault =>
    rw [made] at h
    exact (Prod.mk.inj h).2.symm
  | ok both =>
    obtain ⟨temporary, working⟩ := both
    obtain ⟨-, free, rfl⟩ := makeTemporary_ok made
    simp only [made] at h
    split at h
    · rw [Tree.erase_put free] at h
      exact (Prod.mk.inj h).2.symm
    · cases h

/-- The file that records were put in is found under the path of the trace. -/
theorem look_replacePath (h : replacePath files path records = (.ok (), after))
    (found : files.look true path = .ok node) (notDirectory : node ≠ .directory) :
    after.look true path = .ok (.file (bytesOf records) false) := by
  obtain ⟨-, -, -, dir, last, replaces, rfl⟩ := replacePath_iff.mp h
  refine replaces.look_put ?_ ?_ _ _
  · rw [found]
    exact fun same => notDirectory (Except.ok.inj same)
  · rw [found]
    exact nofun

end HalBench.Trace
