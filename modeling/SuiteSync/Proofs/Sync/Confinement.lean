import SuiteSync.Proofs.Disk.Reset
import SuiteSync.Proofs.Sync.Agreement

set_option autoImplicit false

namespace SuiteSync

open SuiteSync.Path

def Config.Confined (config : Config) (working : Location) : Prop :=
  ∀ path ∈ config.outputPaths,
    Bounded working (location working config.downloadDir <+: ·) (Passes working config.downloadDir) path

theorem confined_names (config : Config) (working : Location) (accepted : config.Accepted)
    (names : ∀ name ∈ config.files.names ++ [config.harness.versionFile], isAbsolute name = false ∧ ".." ∉ segments name) :
    config.Confined working := by
  intro path member
  obtain ⟨name, inside, rfl⟩ := List.mem_map.mp member
  obtain ⟨relative, noUp⟩ := names name inside
  exact bounded_below working _ name relative noUp (config.accepted_directory accepted)

section Bounds

variable (inside way : Location → Prop)

def Guarded (disk : Disk) (path : String) : Prop := disk.Straight path ∧ Bounded disk.working inside way path

theorem guarded_kept (disk left : Disk) (path : String) (kept : Disk.Kept inside way disk left)
    (guarded : Guarded inside way disk path) : Guarded inside way left path :=
  ⟨Disk.kept_straight _ _ _ _ path kept guarded.1, kept.working ▸ guarded.2⟩

theorem write_files_kept (directory : String) (files : List AdaptedFile) (session : Session)
    (guarded : ∀ file ∈ files, Guarded inside way session.disk (join directory file.name)) :
    Disk.Kept inside way session.disk (writeFiles directory files session).2.disk := by
  fun_induction writeFiles directory files session with
  | case1 => exact Disk.kept_refl _ _ _
  | case2 file later session path error disk refused =>
      obtain ⟨straight, bounded⟩ := guarded file List.mem_cons_self
      have kept := session.disk.write_text_bounded path straight file.text _ _ bounded
      rwa [refused] at kept
  | case3 file later session path disk saved _ left made ih
  | case4 file later session path disk saved _ left made ih =>
      obtain ⟨⟨straight, bounded⟩, others⟩ := List.forall_mem_cons.mp guarded
      have kept := session.disk.write_text_bounded path straight file.text _ _ bounded
      rw [saved] at kept
      have after := ih fun file member => guarded_kept inside way _ _ _ kept (others file member)
      rw [made] at after
      exact Disk.kept_trans _ _ _ _ _ kept after

theorem write_copies_kept (config : Config) (resolved : Resolved) (files : List AdaptedFile) (session : Session)
    (named : files.map AdaptedFile.name = config.files.names)
    (guarded : ∀ path ∈ config.outputPaths, Guarded inside way session.disk path) :
    Disk.Kept inside way session.disk (writeCopies config resolved files session).2.disk := by
  rw [Config.outputPaths, List.forall_mem_map, List.forall_mem_append, List.forall_mem_singleton] at guarded
  have written := write_files_kept inside way config.downloadDir files session
    fun file member => guarded.1 file.name (named ▸ List.mem_map_of_mem member)
  rw [writeCopies]
  split
  · rename_i run
    rwa [run] at written
  · rename_i middle run
    rw [run] at written
    obtain ⟨straight, bounded⟩ := guarded_kept inside way _ _ _ written guarded.2
    have marked := middle.disk.write_text_bounded _ straight (Marker.ofVersion config resolved.version).render _ _ bounded
    dsimp only
    split
    · rename_i refused
      rw [refused] at marked
      exact Disk.kept_trans _ _ _ _ _ written marked
    · rename_i saved
      rw [saved] at marked
      exact Disk.kept_trans _ _ _ _ _ written marked

theorem sync_kept (timing : Nat → Nat) (config : Config) (options : SyncOptions) (session : Session)
    (literal : config.Literal session.disk)
    (own : ∀ place, location session.disk.working config.downloadDir <+: place → inside place)
    (led : ∀ place, Passes session.disk.working config.downloadDir place → inside place ∨ way place)
    (bounded : ∀ path ∈ config.outputPaths, Bounded session.disk.working inside way path) :
    Disk.Kept inside way session.disk (sync timing config options session).2.disk := by
  have emptied := Disk.kept_mono _ _ _ _ _ _ own led (session.disk.reset_kept config.downloadDir literal.directory)
  rw [sync]
  split
  · exact Disk.kept_refl _ _ _
  · rename_i resolved link _
    rw [syncAt]
    split
    · rename_i run
      rwa [run] at emptied
    · rename_i disk run
      have straight := literal_reset config session.disk disk literal run
      rw [run] at emptied
      split
      · exact emptied
      · rename_i files link adapted
        have named := files_names config files (Task.adapt_all_named _ _ _ _ _ _ adapted)
        exact Disk.kept_trans _ _ _ _ _ emptied (write_copies_kept inside way config resolved files ⟨disk, link⟩ named
          fun path member => ⟨straight path member, emptied.working ▸ bounded path member⟩)

end Bounds

theorem sync_stays_inside (timing : Nat → Nat) (config : Config) (options : SyncOptions) (session : Session)
    (literal : config.Literal session.disk) :
    Disk.Kept (fun place => location session.disk.working config.downloadDir <+: place ∨
          ∃ path ∈ config.outputPaths, place = location session.disk.working path)
        (fun place => Passes session.disk.working config.downloadDir place ∨
          ∃ path ∈ config.outputPaths, Passes session.disk.working path place)
        session.disk (sync timing config options session).2.disk ∧
      (config.Confined session.disk.working →
        Disk.Kept (location session.disk.working config.downloadDir <+: ·) (Passes session.disk.working config.downloadDir)
          session.disk (sync timing config options session).2.disk) := by
  constructor
  · apply sync_kept
    · exact literal
    · exact fun place => .inl
    · exact fun place passes => .inr (.inl passes)
    · exact fun path member => ⟨.inr ⟨path, member, rfl⟩, fun place passes => .inr (.inr ⟨path, member, passes⟩)⟩
  · intro confined
    exact sync_kept _ _ timing config options session literal (fun _ => id) (fun _ => .inr) confined

theorem sample_confined (working : Location) : Config.sample.Confined working :=
  confined_names _ working Config.sample_accepted (by decide)

def looseLink : Link :=
  ⟨((Host.empty true).serve "http://h/1/a.ts" [sampleReply]).serve "http://h/1/t/_v" [sampleReply], [], []⟩

theorem sample_stays_inside : Config.sample.Literal (linkedDisk "x".toUTF8) ∧ Config.sample.Confined ["home"] ∧
    Disk.Kept (["home", "out"] <+: ·) (Passes ["home"] Config.sample.downloadDir) (linkedDisk "x".toUTF8)
      (sync id Config.sample sampleOptions ⟨linkedDisk "x".toUTF8, sampleLink⟩).2.disk :=
  ⟨linked_literal _, sample_confined _,
    (sync_stays_inside id Config.sample sampleOptions ⟨linkedDisk "x".toUTF8, sampleLink⟩ (linked_literal _)).2 (sample_confined _)⟩

theorem sync_leaves_directory : ¬ ∀ (timing : Nat → Nat) (config : Config) (options : SyncOptions) (session : Session),
    config.Accepted → config.Literal session.disk →
    Disk.Kept (location session.disk.working config.downloadDir <+: ·) (Passes session.disk.working config.downloadDir)
      session.disk (sync timing config options session).2.disk := by
  intro general
  have written : ((sync id Config.loose sampleOptions ⟨Disk.empty, looseLink⟩).2.disk.fileAt ["a.ts"]).isSome = true := by
    decide +kernel
  have kept := general id Config.loose sampleOptions ⟨Disk.empty, looseLink⟩ Config.loose_accepted (empty_literal _)
  rcases kept.places ["a.ts"] (by decide) with same | ⟨on, _⟩
  · rw [Disk.file_at_congr _ _ _ same] at written
    exact absurd written (by decide)
  · exact absurd on (by decide)

end SuiteSync
