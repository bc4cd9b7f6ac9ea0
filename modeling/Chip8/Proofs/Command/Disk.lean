/-
# Files that are written and read

What is written to a file of a disk is read from it under the same path, and no other file has
changed. Writing does not move the path: a path leads through folders, and the file that is written
is none. Events that are logged go to the log file alone, which is there once it has been started,
so logging changes neither what paths lead to nor what can be written.
-/

import Chip8.Command.Disk

namespace Chip8.Command.Disk

variable {d after : Disk} {place other : Place} {content : Content} {path : Text}

/-! ## One file -/

theorem sinks_put (d : Disk) (place : Place) (content : Content) :
    (d.put place content).sinks = d.sinks := by
  unfold put
  split
  · rfl
  · split <;> rfl

theorem folders_put (d : Disk) (place : Place) (content : Content) :
    (d.put place content).folders = d.folders := by
  unfold put
  split
  · rfl
  · split <;> rfl

theorem isFolder_put (d : Disk) (place : Place) (content : Content) (other : Place) :
    (d.put place content).isFolder other = d.isFolder other := by
  rw [isFolder, isFolder, folders_put]

theorem lookup_map_put (files : List (Place × Content)) (place : Place) (content : Content)
    (other : Place) :
    (files.map fun (p, c) => if p = place then (p, content) else (p, c)).lookup other =
      if other = place then (files.lookup place).map fun _ => content else files.lookup other := by
  induction files with
  | nil => simp
  | cons entry rest ih =>
    obtain ⟨name, old⟩ := entry
    by_cases hname : name = place
    · subst hname
      by_cases hother : other = name
      · simp [hother]
      · have hbehind : (other == name) = false := beq_eq_false_iff_ne.2 hother
        simpa [List.lookup_cons, hbehind, hother] using ih
    · have hbehind : (place == name) = false := beq_eq_false_iff_ne.2 (Ne.symm hname)
      cases hfront : other == name with
      | false => simpa [List.lookup_cons, hname, hfront, hbehind] using ih
      | true =>
        obtain rfl := beq_iff_eq.1 hfront
        simp [hname]

theorem file?_put (hkept : place ∉ d.sinks) : (d.put place content).file? place = some content := by
  unfold put file?
  rw [if_neg hkept]
  cases hfile : d.files.lookup place with
  | none => simp [hkept, hfile, List.lookup_append]
  | some old => simp [hkept, lookup_map_put, hfile]

theorem file?_put_of_ne (hne : other ≠ place) :
    (d.put place content).file? other = d.file? other := by
  unfold put file?
  split
  · rfl
  · cases hfile : d.files.lookup place with
    | none =>
      have hother : (other == place) = false := beq_eq_false_iff_ne.2 hne
      simp [List.lookup_append, List.lookup_cons, hother]
    | some old => simp [lookup_map_put, hne]

/-! ## Paths -/

/-- Two disks have files and folders at the same places, so paths lead to the same places. -/
structure SameShape (d after : Disk) : Prop where
  folders : after.folders = d.folders
  sinks : after.sinks = d.sinks
  files : ∀ place, (after.file? place).isSome = (d.file? place).isSome

theorem SameShape.isFolder (hshape : d.SameShape after) (place : Place) :
    after.isFolder place = d.isFolder place := by
  rw [Disk.isFolder, Disk.isFolder, hshape.folders]

theorem SameShape.follow (hshape : d.SameShape after) (names : List Text) (place : Place) :
    after.follow place names = d.follow place names := by
  induction names generalizing place with
  | nil => rfl
  | cons name rest ih => simp only [Disk.follow, hshape.files, hshape.isFolder, ih]

theorem SameShape.locate (hshape : d.SameShape after) (path : Text) :
    after.locate path = d.locate path := by
  simp only [Disk.locate, hshape.follow]

/-- A way that leads through folders does not meet a file that is written. -/
theorem follow_put (hfolder : d.isFolder place = false) {names : List Text} {start found : Place}
    (hfollow : d.follow start names = .ok found) :
    (d.put place content).follow start names = .ok found := by
  induction names generalizing start with
  | nil => exact hfollow
  | cons name rest ih =>
    unfold follow at hfollow ⊢
    split at hfollow
    · cases hfollow
    · rename_i hnofile
      split at hfollow
      · cases hfollow
      · rename_i hstart
        have hne : start ≠ place := by
          rintro rfl
          simp [hfolder] at hstart
        rw [file?_put_of_ne hne, if_neg hnofile, isFolder_put, if_neg hstart]
        split at hfollow
        · rename_i hstays
          rw [if_pos hstays]
          exact ih hfollow
        · rename_i hmoves
          rw [if_neg hmoves]
          split at hfollow
          · rename_i hup
            rw [if_pos hup]
            exact ih hfollow
          · rename_i hdown
            rw [if_neg hdown]
            split at hfollow
            · cases hfollow
            · rename_i hshort
              rw [if_neg hshort]
              exact ih hfollow

theorem locate_put (hfolder : d.isFolder place = false) {found : Place}
    (hlocate : d.locate path = .ok found) : (d.put place content).locate path = .ok found := by
  unfold locate at hlocate ⊢
  split at hlocate
  · cases hlocate
  · rename_i hnonempty
    split at hlocate
    · cases hlocate
    · rename_i hshort
      rw [if_neg hnonempty, if_neg hshort]
      exact follow_put hfolder hlocate

/-- A path is written to if it leads to a place without a folder and does not ask for one. -/
theorem write_eq_ok_iff {bytes : List UInt8} : d.write path bytes = .ok after ↔
    path.getLast? ≠ some '/' ∧ ∃ place, d.locate path = .ok place ∧ d.isFolder place = false ∧
      after = d.put place { bytes } := by
  unfold write
  by_cases hslash : path.getLast? = some '/'
  · simp only [hslash, if_true, bind, Except.bind, throw, throwThe, MonadExceptOf.throw, pure,
      Except.pure]
    split
    · simp
    · split <;> simp
  · cases hlocate : d.locate path with
    | error problem => simp [hslash, bind, Except.bind]
    | ok place =>
      cases hfolder : d.isFolder place with
      | false =>
        simp [hslash, bind, Except.bind, pure, Except.pure, hfolder]
        exact eq_comm
      | true =>
        simp [hslash, bind, Except.bind, hfolder, throw, throwThe, MonadExceptOf.throw]

/-- What has been written to a file is read from it. -/
theorem read_write {bytes : List UInt8} (hwrite : d.write path bytes = .ok after)
    (hkept : ∀ place, d.locate path = .ok place → place ∉ d.sinks) :
    after.read path = .ok bytes := by
  obtain ⟨-, place, hlocate, hfolder, rfl⟩ := write_eq_ok_iff.1 hwrite
  simp only [read, locate_put hfolder hlocate, bind, Except.bind, file?_put (hkept place hlocate),
    pure, Except.pure]

/-- A file that can be written to can be written to on every disk of the same shape. -/
theorem SameShape.exists_write (hshape : d.SameShape after) {bytes : List UInt8} {written : Disk}
    (hwrite : d.write path bytes = .ok written) (others : List UInt8) :
    ∃ rewritten, after.write path others = .ok rewritten := by
  obtain ⟨hslash, place, hlocate, hfolder, -⟩ := write_eq_ok_iff.1 hwrite
  exact ⟨_, write_eq_ok_iff.2 ⟨hslash, place, (hshape.locate path).trans hlocate,
    (hshape.isFolder place).trans hfolder, rfl⟩⟩

theorem operations_read (d : Disk) (path : Text) : operations.read path d =
    ((d.read path).mapError fun problem => { problem, path }, d) := rfl

theorem operations_write {bytes : List UInt8} (hwrite : d.write path bytes = .ok after) :
    operations.write path bytes d = (.ok (), after) := by
  simp only [operations, hwrite]

/-! ## Log files -/

theorem isSome_file?_put (d : Disk) (place : Place) (content : Content) :
    ((d.put place content).file? place).isSome = true := by
  by_cases hsink : place ∈ d.sinks
  · simp [file?, sinks_put, hsink]
  · rw [file?_put hsink, Option.isSome_some]

/-- A log file is there once it has been started. -/
theorem isSome_file?_startLog (hstart : (d.startLog path).1 = .ok ()) :
    ((d.startLog path).2.file? (logPlace path)).isSome = true := by
  unfold startLog at hstart ⊢
  split at hstart
  · cases hstart
  · exact isSome_file?_put d _ _

/-- Logging changes the log file only. -/
theorem file?_log_of_ne (events : List Event) (hne : place ≠ logPlace path) :
    (d.log path events).file? place = d.file? place :=
  file?_put_of_ne hne

theorem sameShape_log (hstarted : (d.file? (logPlace path)).isSome = true) (events : List Event) :
    d.SameShape (d.log path events) where
  folders := folders_put d _ _
  sinks := sinks_put d _ _
  files place := by
    by_cases hlog : place = logPlace path
    · rw [hlog, hstarted]
      exact isSome_file?_put d _ _
    · rw [file?_log_of_ne events hlog]

end Chip8.Command.Disk
