import SuiteSync.Proofs.Disk.History
import SuiteSync.Proofs.Sync.Contents
import SuiteSync.Proofs.Sync.Failure
import SuiteSync.Proofs.Sync.Requests

set_option autoImplicit false

namespace SuiteSync

open SuiteSync.Path

def onDisk {α : Type} (run : Except SyncError α × Session) : Except SyncError α × Disk := (run.1, run.2.disk)

theorem write_files_same (directory : String) (files : List AdaptedFile) (session session' : Session)
    (same : Disk.Same session.disk session'.disk) :
    Disk.SameEnd (onDisk (writeFiles directory files session)) (onDisk (writeFiles directory files session')) := by
  induction files generalizing session session' with
  | nil => exact .done [] _ _ same
  | cons file later ih =>
      have saved := Disk.write_text_same _ _ same (join directory file.name) file.text
      unfold writeFiles
      dsimp only
      generalize session.disk.writeText (join directory file.name) file.text = one at saved ⊢
      generalize session'.disk.writeText (join directory file.name) file.text = two at saved ⊢
      cases saved with
      | failed error disk disk' => exact .failed _ disk disk'
      | done _ disk disk' alike =>
          have rest := ih ⟨disk, session.link.note (.wrote (join directory file.name))⟩
            ⟨disk', session'.link.note (.wrote (join directory file.name))⟩ alike
          dsimp only
          generalize writeFiles directory later ⟨disk, _⟩ = three at rest ⊢
          generalize writeFiles directory later ⟨disk', _⟩ = four at rest ⊢
          obtain ⟨result, left⟩ := three
          obtain ⟨result', left'⟩ := four
          cases rest with
          | failed error => exact .failed error left.disk left'.disk
          | done written _ _ kept => exact .done _ left.disk left'.disk kept

theorem write_copies_same (config : Config) (resolved : Resolved) (files : List AdaptedFile) (session session' : Session)
    (same : Disk.Same session.disk session'.disk) :
    Disk.SameEnd (onDisk (writeCopies config resolved files session)) (onDisk (writeCopies config resolved files session')) := by
  have written := write_files_same config.downloadDir files session session' same
  rw [writeCopies, writeCopies]
  generalize writeFiles config.downloadDir files session = one at written ⊢
  generalize writeFiles config.downloadDir files session' = two at written ⊢
  obtain ⟨result, left⟩ := one
  obtain ⟨result', left'⟩ := two
  cases written with
  | failed error => exact .failed error left.disk left'.disk
  | done copies _ _ kept =>
      have saved := Disk.write_text_same _ _ kept (join config.downloadDir config.harness.versionFile)
        (Marker.ofVersion config resolved.version).render
      dsimp only
      generalize left.disk.writeText _ _ = three at saved ⊢
      generalize left'.disk.writeText _ _ = four at saved ⊢
      cases saved with
      | failed error disk disk' => exact .failed _ disk disk'
      | done _ disk disk' alike => exact .done _ disk disk' alike

section Runs

variable (timing timing' : Nat → Nat) (config : Config) (options options' : SyncOptions) (disk disk' : Disk) (link : Link)
  (attempts : options'.attempts = options.attempts) (comparable : Disk.Comparable config.downloadDir disk disk')

include attempts comparable

theorem sync_at_same (resolved : Resolved) (separate : (Task.mk config resolved options.attempts).Separate link.host) :
    Disk.SameEnd (onDisk (syncAt timing config options resolved ⟨disk, link⟩))
      (onDisk (syncAt timing' config options' resolved ⟨disk', link⟩)) := by
  have emptied := Disk.reset_comparable disk disk' config.downloadDir comparable
  have due := (Task.mk config resolved options.attempts).adapt_all_due options.parallel timing link separate
  have due' := (Task.mk config resolved options.attempts).adapt_all_due options'.parallel timing' link separate
  rw [syncAt, syncAt, attempts]
  generalize disk.reset config.downloadDir = one at emptied ⊢
  generalize disk'.reset config.downloadDir = two at emptied ⊢
  cases emptied with
  | failed error left left' => exact .failed _ left left'
  | done _ left left' same =>
      dsimp only
      rw [← due] at due'
      generalize (Task.mk config resolved options.attempts).adaptAll options.parallel timing link = three at due' ⊢
      generalize (Task.mk config resolved options.attempts).adaptAll options'.parallel timing' link = four at due' ⊢
      obtain ⟨result, link⟩ := three
      obtain ⟨result', link'⟩ := four
      obtain rfl : result' = result := due'
      cases result' with
      | error error => exact .failed error left left'
      | ok files => exact write_copies_same config resolved files ⟨left, link⟩ ⟨left', link'⟩ same

theorem sync_same (version : options'.version = options.version)
    (separate : ∀ resolved asked, resolve config options.attempts options.version link = (.ok resolved, asked) →
      (Task.mk config resolved options.attempts).Separate asked.host) :
    Disk.SameEnd (onDisk (sync timing config options ⟨disk, link⟩)) (onDisk (sync timing' config options' ⟨disk', link⟩)) := by
  rw [sync, sync, attempts, version]
  dsimp only
  cases settled : resolve config options.attempts options.version link with
  | mk result asked =>
      cases result with
      | error error => exact .failed _ disk disk'
      | ok resolved =>
          exact sync_at_same timing timing' config options options' disk disk' _ attempts comparable resolved
            (separate resolved asked settled)

end Runs

theorem sync_fails_first (timing : Nat → Nat) (config : Config) (options : SyncOptions) (session left : Session)
    (error : SyncError) (file : error.ofFile = true)
    (separate : ∀ resolved asked, resolve config options.attempts options.version session.link = (.ok resolved, asked) →
      (Task.mk config resolved options.attempts).Separate asked.host)
    (run : sync timing config options session = (.error error, left)) :
    ∃ resolved asked, resolve config options.attempts options.version session.link = (.ok resolved, asked) ∧
      (Task.mk config resolved options.attempts).FailsFirst (max options.parallel 1)
        (asked.note (.syncStarted config.files.size resolved.version)) left.link error := by
  rw [sync] at run
  split at run
  · cases run
    cases file
  · rename_i resolved asked settled
    rw [syncAt] at run
    split at run
    · cases run
      cases file
    · split at run
      · rename_i link adapted
        cases run
        exact ⟨resolved, asked, settled, Task.adapt_all_fails _ _ timing _ link error (separate resolved asked settled) adapted⟩
      · obtain ⟨reason, rfl⟩ := write_copies_failed _ _ _ _ _ _ run
        cases file

theorem sync_names (timing : Nat → Nat) (config : Config) (options : SyncOptions) (session left : Session)
    (report : SyncReport) (run : sync timing config options session = (.ok report, left)) :
    report.files.map SyncedFile.name = config.files.names := by
  obtain ⟨resolved, _, _, files, _, _, _, adapted, wrote⟩ := sync_steps timing config options session left report run
  obtain ⟨_, _, _, _, rfl⟩ := write_copies_steps config resolved files _ left report wrote
  have named := files_names config files (Task.adapt_all_named _ _ _ _ _ _ adapted)
  rw [List.map_map, ← named]
  exact List.map_congr_left fun file _ => rfl

theorem sample_separate (host : Host) (resolved : Resolved) (attempts : Nat) :
    (Task.mk Config.sample resolved attempts).Separate host :=
  List.pairwise_singleton _ _

def newDisk : Disk := ⟨[(["new"], .directory)], [], ⟨by decide, by decide, by decide⟩⟩

theorem new_comparable (marker : ByteArray) : Disk.Comparable Config.sample.downloadDir newDisk (copiedDisk marker) where
  working := rfl
  outside place off := by
    have elsewhere : ∀ rest, (place == "out" :: rest) = false := fun rest =>
      beq_eq_false_iff_ne.mpr fun same => off (same ▸ ⟨rest, rfl⟩)
    by_cases root : place = []
    · rw [root]
      rfl
    · rw [Disk.find?, Disk.find?, if_neg root, if_neg root]
      simp only [newDisk, copiedDisk, List.lookup_cons, elsewhere]
  straight := of_decide_eq_true rfl
  straight' := copied_straight marker
  reached := .inr rfl
  reached' := .inl (copied_found marker)
  named := .inl (by decide)

end SuiteSync
