import SuiteSync.Proofs.Sync.Contents

set_option autoImplicit false

namespace SuiteSync

theorem sync_marker (timing : Nat → Nat) (config : Config) (options : SyncOptions) (session left : Session)
    (report : SyncReport) (run : sync timing config options session = (.ok report, left)) :
    left.disk.node (Path.join config.downloadDir config.harness.versionFile) =
      .ok (.file (Marker.ofVersion config report.version).render.toUTF8) := by
  obtain ⟨resolved, _, _, files, link, _, _, _, wrote⟩ := sync_steps timing config options session left report run
  obtain ⟨_, middle, _, saved, rfl⟩ := write_copies_steps config resolved files _ left report wrote
  exact middle.disk.write_text_reads left.disk _ _ saved

theorem sync_recorded (timing : Nat → Nat) (config : Config) (options : SyncOptions) (session left : Session)
    (report : SyncReport) (nameable : Marker.Nameable report.version)
    (run : sync timing config options session = (.ok report, left)) :
    recordedVersion? left.disk config = some report.version ↔
      Marker.Legible config.harness.versionLabel report.version := by
  rw [recorded_of_text _ _ _ (sync_marker timing config options session left report run)]
  exact Marker.read_back_iff (Marker.ofVersion config report.version) nameable (Marker.tree_named config report.version)

theorem verify_recorded (timing : Nat → Nat) (config : Config) (options : SyncOptions) (session : Session) (version : String)
    (noVersion : options.version = none) (recorded : recordedVersion? session.disk config = some version) :
    verify timing config options session = verify timing config { options with version := some version } session := by
  rw [verify, verify, noVersion, recorded]
  rfl

theorem sync_records_version_iff (timing : Nat → Nat) (config : Config) (options : SyncOptions) (session left : Session)
    (report : SyncReport) (nameable : Marker.Nameable report.version)
    (run : sync timing config options session = (.ok report, left)) :
    (recordedVersion? left.disk config = some report.version ↔
      Marker.Legible config.harness.versionLabel report.version) ∧
    (Marker.Legible config.harness.versionLabel report.version → ∀ timing' options' link, options'.version = none →
      verify timing' config options' ⟨left.disk, link⟩ =
        verify timing' config { options' with version := some report.version } ⟨left.disk, link⟩) := by
  have recorded := sync_recorded timing config options session left report nameable run
  refine ⟨recorded, fun legible timing' options' link noVersion => ?_⟩
  exact verify_recorded timing' config options' ⟨left.disk, link⟩ report.version noVersion (recorded.mpr legible)

theorem sample_recorded : ∃ report left, Marker.Nameable report.version ∧
    sync id Config.sample sampleOptions ⟨Disk.empty, sampleLink⟩ = (.ok report, left) ∧ report.version = "1" ∧
    recordedVersion? left.disk Config.sample = some report.version := by
  obtain ⟨report, left, run, version⟩ := sample_synced sampleOptions Disk.empty (by decide +kernel)
  have nameable : Marker.Nameable report.version := version ▸ sample_nameable
  have recorded := (sync_records_version_iff id Config.sample sampleOptions ⟨Disk.empty, sampleLink⟩ left report nameable run).1
  exact ⟨report, left, nameable, run, version, recorded.mpr (.inl sample_plain)⟩

namespace Config

def labelled : Config := { sample with harness := { sample.harness with versionLabel := "a: b" } }

def labelledText : String :=
  "download_dir='new/../out'\ncustom_setup_module='./s.js'\n[upstream]\npackage='p'\nversion='1'\ntest_dir='t'\n" ++
  "raw_url='http://h/\x7bversion\x7d/'\nref_url='http://r/\x7bversion\x7d/'\ntree_url='http://g/\x7bversion\x7d'\n" ++
  "[harness]\nheader='// H'\nhook_function='hook'\nversion_file='_v'\nversion_label='a: b'\n[files]\n'a.ts'=[]\n"

theorem labelled_accepted : labelled.Accepted := accepted_of_text labelled labelledText (by decide +kernel)

end Config

theorem separator_in_label_read_as_version : ¬ ∀ (timing : Nat → Nat) (config : Config) (options : SyncOptions)
    (session left : Session) (report : SyncReport), config.Accepted → Marker.Nameable report.version →
    sync timing config options session = (.ok report, left) →
    recordedVersion? left.disk config = some report.version := by
  intro general
  have version : (sync id Config.labelled sampleOptions ⟨Disk.empty, sampleLink⟩).1.toOption.map SyncReport.version =
      some "1" := by decide +kernel
  cases run : sync id Config.labelled sampleOptions ⟨Disk.empty, sampleLink⟩ with
  | mk result left =>
      rw [run] at version
      cases result with
      | error e => cases version
      | ok report =>
          have named : report.version = "1" := Option.some.inj version
          have nameable : Marker.Nameable report.version := named ▸ sample_nameable
          have recorded := general id Config.labelled sampleOptions _ left report Config.labelled_accepted nameable run
          rcases (sync_recorded id Config.labelled sampleOptions _ left report nameable run).mp recorded with plain | ⟨feed, _⟩
          · exact plain.whole ['a'] ['b'] (by decide)
          · exact absurd feed (by decide)

end SuiteSync
