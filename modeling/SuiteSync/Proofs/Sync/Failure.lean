import SuiteSync.Proofs.Sync.Clean

set_option autoImplicit false

namespace SuiteSync

open SuiteSync.Path

namespace Disk

-- A disk where the subtree under a path was replaced by an empty directory, and the way to it was made where it
-- was missing. Below the directory stands nothing but what the path itself passes; above where it starts a path
-- only goes up.
structure Renewed (disk left : Disk) (path : String) : Prop where
  directory : left.find? (location disk.working path) = some .directory
  below : ∀ place, location disk.working path <+: place → place ≠ location disk.working path →
    left.find? place = none ∨ (Passes disk.working path place ∧ left.find? place = some .directory)
  way : ∀ place, Passes disk.working path place → place <+: start disk.working path ∨ left.find? place = some .directory
  outside : Kept (location disk.working path <+: ·) (Passes disk.working path) disk left

-- Something below the location of a path that the path does not reach, for want of a directory on its way.
structure Overlooked (disk : Disk) (path : String) (place : Location) : Prop where
  lost : disk.target path = .error .notFound
  below : location disk.working path <+: place
  off : ¬ Passes disk.working path place
  there : disk.find? place ≠ none

theorem renewed_no_file (disk left : Disk) (path : String) (renewed : Renewed disk left path) (place : Location)
    (below : location disk.working path <+: place) : left.fileAt place = none := by
  by_cases top : place = location disk.working path
  · rw [fileAt, top, renewed.directory]
  · rcases renewed.below place below top with absent | ⟨_, standing⟩
    · rw [fileAt, absent]
    · rw [fileAt, standing]

section Reset

variable (disk left : Disk) (path : String) (straight : disk.Straight path)
  (rooted : disk.find? disk.working = some .directory) (run : disk.reset path = (.ok (), left))

include straight rooted run

theorem lost_way (lost : disk.target path = .error .notFound) (place : Location) (passes : Passes disk.working path place) :
    left.find? place = some .directory := by
  rcases disk.reset_way path straight left run place passes with ⟨more, above⟩ | standing
  · have before : disk.find? place = some .directory := by
      refine disk.find_front place more ?_
      rw [above, start]
      split
      · rfl
      · exact rooted
    obtain ⟨emptied, created, _, straight', removed⟩ := disk.reset_steps path straight left run
    obtain ⟨_, rfl⟩ := removed.resolve_right fun found => found.1 lost
    have grown := emptied.create_all_grown path straight'
    rw [created] at grown
    exact (grown_more _ _ _ grown).directories place before
  · exact standing

theorem reset_renewed_iff : Renewed disk left path ↔ ∀ place, ¬ Overlooked disk path place := by
  have below := disk.reset_below path straight left run
  constructor
  · intro renewed place overlooked
    have kept := (below place overlooked.below overlooked.off).1 overlooked.lost
    have inner : place ≠ location disk.working path := fun top => overlooked.off (top ▸ passes_end disk.working path)
    rcases renewed.below place overlooked.below inner with absent | ⟨on, _⟩
    · exact overlooked.there (kept ▸ absent)
    · exact overlooked.off on
  · intro none
    have kept := disk.reset_kept path straight
    rw [run] at kept
    refine ⟨disk.reset_directory path straight left run rooted, fun place inside inner => ?_,
      disk.reset_way path straight left run, kept⟩
    by_cases lost : disk.target path = .error .notFound
    · by_cases on : Passes disk.working path place
      · exact .inr ⟨on, lost_way disk left path straight rooted run lost place on⟩
      · rw [(below place inside on).1 lost]
        exact .inl (Classical.byContradiction fun there => none place ⟨lost, inside, on, there⟩)
    · exact disk.reset_inside path straight left run lost place inside inner

end Reset

end Disk

def SyncError.ofFile : SyncError → Bool
  | .fetch _ | .adapt _ => true
  | .config _ | .resolve _ | .disk _ => false

theorem settle_failed (task : Task) (job : Job) (raw : String) (error : SyncError)
    (run : task.settle job raw = .error error) : error.ofFile = true := by
  rw [Task.settle] at run
  split at run
  · cases run
    rfl
  · cases run

theorem adapt_all_failed (task : Task) (parallel : Nat) (timing : Nat → Nat) (link left : Link) (error : SyncError)
    (run : task.adaptAll parallel timing link = (.error error, left)) : error.ofFile = true := by
  have steady := task.steady_of_attempts task.config.jobs (fun _ => True)
    (fun _ result => ∀ error, result = .error error → error.ofFile = true) (fun _ _ _ => trivial)
    (fun job _ _ raw _ _ error failed => settle_failed task job raw error failed) (fun _ _ _ _ _ _ _ _ failed => Except.error.inj failed ▸ rfl)
  have ended := task.adapt_all_ends _ _ steady parallel timing link trivial
  rw [run] at ended
  obtain ⟨_, job, _, failed⟩ := ended
  exact failed error rfl

theorem write_files_failed (directory : String) (files : List AdaptedFile) (session left : Session) (error : SyncError)
    (run : writeFiles directory files session = (.error error, left)) : ∃ reason, error = .disk reason := by
  fun_induction writeFiles directory files session with
  | case1 | case4 => cases run
  | case2 file later session path reason disk refused =>
      cases run
      exact ⟨reason, rfl⟩
  | case3 file later session path disk saved failure left' made ih =>
      cases run
      exact ih made

theorem write_copies_failed (config : Config) (resolved : Resolved) (files : List AdaptedFile) (session left : Session)
    (error : SyncError) (run : writeCopies config resolved files session = (.error error, left)) :
    ∃ reason, error = .disk reason := by
  rw [writeCopies] at run
  split at run
  · rename_i failure left' made
    cases run
    exact write_files_failed _ _ _ _ _ made
  · dsimp only at run
    split at run
    · rename_i reason _ _
      cases run
      exact ⟨reason, rfl⟩
    · cases run

theorem sync_failed (timing : Nat → Nat) (config : Config) (options : SyncOptions) (session left : Session)
    (error : SyncError) (run : sync timing config options session = (.error error, left)) :
    (∃ reason, error = .resolve reason ∧ left.disk = session.disk) ∨ (∃ reason, error = .disk reason) ∨
      (error.ofFile = true ∧ session.disk.reset config.downloadDir = (.ok (), left.disk)) := by
  rw [sync] at run
  split at run
  · rename_i reason link _
    cases run
    exact .inl ⟨reason, rfl, rfl⟩
  · rw [syncAt] at run
    split at run
    · rename_i reason disk _
      cases run
      exact .inr (.inl ⟨reason, rfl⟩)
    · rename_i disk emptied
      split at run
      · rename_i link' adapted
        cases run
        exact .inr (.inr ⟨adapt_all_failed _ _ _ _ _ _ adapted, emptied⟩)
      · exact .inr (.inl (write_copies_failed _ _ _ _ _ _ run))

/-- A sync that fails before its version is settled leaves the disk alone. One that fails over a file, wherever that
is in the table, leaves an empty directory and the rest of the disk as it was, exactly when the reset overlooked
nothing. -/
theorem failed_sync_renews_directory (timing : Nat → Nat) (config : Config) (options : SyncOptions)
    (session left : Session) (error : SyncError) (run : sync timing config options session = (.error error, left)) :
    (∀ reason, error = .resolve reason → left.disk = session.disk) ∧
      (error.ofFile = true → session.disk.Straight config.downloadDir →
        session.disk.find? session.disk.working = some .directory →
        (session.disk.Renewed left.disk config.downloadDir ↔
          ∀ place, ¬ session.disk.Overlooked config.downloadDir place) ∧
        (session.disk.Renewed left.disk config.downloadDir →
          ∀ place, location session.disk.working config.downloadDir <+: place → left.disk.fileAt place = none)) := by
  rcases sync_failed timing config options session left error run with
    ⟨reason, rfl, same⟩ | ⟨reason, rfl⟩ | ⟨file, emptied⟩
  · exact ⟨fun _ _ => same, nofun⟩
  · exact ⟨nofun, nofun⟩
  · refine ⟨?_, fun _ straight rooted => ⟨session.disk.reset_renewed_iff left.disk config.downloadDir straight rooted emptied,
      session.disk.renewed_no_file left.disk config.downloadDir⟩⟩
    rintro reason rfl
    cases file

def lostLink : Link := ⟨Host.empty false, [], []⟩

theorem lost_sync_fails (disk : Disk)
    (failed : (sync id Config.sample sampleOptions ⟨disk, lostLink⟩).1 =
      .error (.fetch (.network "http://h/1/t/a.ts" "error sending request for url (http://h/1/t/a.ts)"))) :
    ∃ error left, sync id Config.sample sampleOptions ⟨disk, lostLink⟩ = (.error error, left) ∧ error.ofFile = true :=
  ⟨_, _, Prod.ext failed rfl, rfl⟩

theorem sample_directory_renewed : ∃ error left,
    sync id Config.sample sampleOptions ⟨copiedDisk ByteArray.empty, lostLink⟩ = (.error error, left) ∧
      error.ofFile = true ∧ (copiedDisk ByteArray.empty).Renewed left.disk Config.sample.downloadDir ∧
      left.disk.fileAt ["out", "a.ts"] = none := by
  obtain ⟨error, left, run, file⟩ := lost_sync_fails (copiedDisk ByteArray.empty) (by decide +kernel)
  obtain ⟨renewed, emptied⟩ :=
    (failed_sync_renews_directory id Config.sample sampleOptions _ left error run).2 file (copied_straight _) rfl
  have renewed := renewed.mpr fun place overlooked => nomatch (copied_found _).symm.trans overlooked.lost
  exact ⟨error, left, run, file, renewed, emptied renewed ["out", "a.ts"] (by decide)⟩

theorem stale_file_survives_failure : ¬ ∀ (timing : Nat → Nat) (config : Config) (options : SyncOptions)
    (session left : Session) (error : SyncError), config.Accepted → config.Literal session.disk →
    sync timing config options session = (.error error, left) → error.ofFile = true →
    session.disk.Renewed left.disk config.downloadDir := by
  intro general
  obtain ⟨error, left, run, file⟩ := lost_sync_fails staleDisk (by decide +kernel)
  have renewed := general id Config.sample sampleOptions _ left error Config.sample_accepted stale_literal run file
  rcases sync_failed id Config.sample sampleOptions _ left error run with ⟨_, rfl, _⟩ | ⟨_, rfl⟩ | ⟨_, emptied⟩
  · cases file
  · cases file
  · exact (staleDisk.reset_renewed_iff left.disk Config.sample.downloadDir stale_literal.directory rfl emptied).mp renewed
      ["out", "old.ts"] ⟨rfl, by decide, by decide, by decide⟩

end SuiteSync
