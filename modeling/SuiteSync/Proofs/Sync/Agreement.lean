import SuiteSync.Proofs.Marker
import SuiteSync.Proofs.Sync.Drift

set_option autoImplicit false

namespace SuiteSync

open SuiteSync.Path

theorem synced_file (config : Config) (version : String) (files : List AdaptedFile) (before after : Disk)
    (filled : config.downloadDir ≠ "") (simple : config.SimpleNames) (synced : Synced config version files before after)
    (named : files.map AdaptedFile.name = config.files.names) (file : AdaptedFile) (member : file ∈ files) :
    fileStatus after config.downloadDir file = .ok .upToDate := by
  have configured : file.name ∈ config.files.names := named ▸ List.mem_map_of_mem member
  have read := straight_file after config.downloadDir file.name file.text.toUTF8 (simple.files _ configured) filled
    (synced.straight _ (file_path config _ configured))
  rw [synced.working] at read
  exact file_status_fresh _ _ _ (read.mpr ⟨synced.opened, synced.fits file member, synced.copies file member⟩)

-- A file of a disk that a sync neither writes nor takes away: there is no way to the directory, but the file lies
-- where the directory will be found.
structure Leftover (config : Config) (disk : Disk) (rest : Location) : Prop where
  lost : disk.target config.downloadDir = .error .notFound
  below : rest ≠ []
  there : ∃ bytes, disk.fileAt (location disk.working config.downloadDir ++ rest) = some bytes
  noMarker : rest ≠ [config.harness.versionFile]
  noCopy : ∀ name ∈ config.files.names, rest ≠ [name]

theorem stray_after_sync (config : Config) (version : String) (files : List AdaptedFile) (disk reset after : Disk)
    (simple : config.SimpleNames) (straight : disk.Straight config.downloadDir)
    (named : files.map AdaptedFile.name = config.files.names)
    (emptied : disk.reset config.downloadDir = (.ok (), reset)) (synced : Synced config version files reset after)
    (rest : Location) : rest ∈ strayFiles after config ↔ Leftover config disk rest := by
  obtain ⟨lost, cleared⟩ := disk.reset_files config.downloadDir straight reset emptied
  have working := disk.reset_working config.downloadDir straight reset emptied
  have opened := synced.opened
  have others := synced.others
  rw [working] at opened others
  have below : (location disk.working config.downloadDir).isPrefixOf (location disk.working config.downloadDir ++ rest) = true :=
    List.isPrefixOf_iff_prefix.mpr (List.prefix_append _ _)
  have elsewhere : rest ≠ [config.harness.versionFile] → (∀ name ∈ config.files.names, rest ≠ [name]) →
      after.fileAt (location disk.working config.downloadDir ++ rest) =
        reset.fileAt (location disk.working config.downloadDir ++ rest) := by
    intro noMarker noCopy
    refine others _ (fun same => noMarker (List.append_cancel_left same)) fun file member same => ?_
    exact noCopy file.name (named ▸ List.mem_map_of_mem member) (List.append_cancel_left same)
  rw [mem_stray after config simple _ opened]
  constructor
  · rintro ⟨⟨filled, bytes, there⟩, noMarker, noCopy⟩
    rw [elsewhere noMarker noCopy] at there
    have way : disk.target config.downloadDir = .error .notFound := Classical.byContradiction fun led => by
      rw [cleared led, if_pos below] at there
      cases there
    exact ⟨way, filled, ⟨bytes, lost way _ ▸ there⟩, noMarker, noCopy⟩
  · intro left
    obtain ⟨bytes, there⟩ := left.there
    refine ⟨⟨left.below, bytes, ?_⟩, left.noMarker, left.noCopy⟩
    rw [elsewhere left.noMarker left.noCopy, lost left.lost, there]

theorem verify_after_sync (timing timing' : Nat → Nat) (config : Config) (options options' : SyncOptions)
    (session left : Session) (link : Link) (report : SyncReport) (replies : String → Reply)
    (accepted : config.Accepted) (simple : config.SimpleNames) (plain : Marker.Plain config.harness.versionLabel)
    (nameable : Marker.Nameable report.version) (literal : config.Literal session.disk)
    (serves : session.link.host.Serves config report.version replies)
    (servesAgain : link.host.Serves config report.version replies) (noVersion : options'.version = none)
    (run : sync timing config options session = (.ok report, left)) :
    ∃ link', verify timing' config options' ⟨left.disk, link⟩ = (.ok ⟨report.version, config.files.names.map (·, .upToDate),
        strayFiles left.disk config⟩, ⟨left.disk, link'⟩) ∧
      ∀ rest, rest ∈ strayFiles left.disk config ↔ Leftover config session.disk rest := by
  obtain ⟨reset, files, emptied, copies, synced⟩ :=
    sync_synced timing config options session left report replies accepted simple literal serves run
  have filled := config.accepted_directory accepted
  have named := copies_names config report.version replies files copies
  have read := straight_file left.disk config.downloadDir config.harness.versionFile
    (Marker.ofVersion config report.version).render.toUTF8 simple.marker filled (synced.straight _ (marker_path config))
  rw [synced.working] at read
  have marker := read.mpr ⟨synced.opened, synced.markerFits, synced.marker⟩
  have recorded := recorded_version left.disk config report.version plain nameable marker
  have asked : options'.version.or (recordedVersion? left.disk config) = some report.version := by
    rw [noVersion, recorded]
    rfl
  obtain ⟨link', verified⟩ := verify_fresh timing' config options' report.version replies files left.disk link copies
    servesAgain (synced_file config report.version files reset left.disk filled simple synced named) asked
  exact ⟨link', verified, stray_after_sync config report.version files session.disk reset left.disk simple literal.directory
    named emptied synced⟩

def sampleLink : Link :=
  ⟨(Host.empty true).serve "http://h/1/t/a.ts" [.answered 200 none "it".toUTF8 false], [], []⟩

def sampleReply : Reply := .answered 200 none "it".toUTF8 false

theorem sample_serves : sampleLink.host.Serves Config.sample "1" fun _ => sampleReply := by
  intro name member address read
  obtain rfl : name = "a.ts" := by simpa [FileTable.names, Config.sample] using member
  have sent : (Address.parse? ((Resolved.pinned Config.sample "1").fileUrl Config.sample "a.ts")).map Address.sent =
      some "http://h/1/t/a.ts" := by decide +kernel
  rw [read, Option.map_some, Option.some.injEq] at sent
  have reached : sampleLink.host.reachable = true := rfl
  rw [if_pos reached, sent]
  intro other held
  exact List.mem_singleton.mp held

theorem sample_simple : Config.sample.SimpleNames := by
  refine ⟨fun name member => ?_, ?_, by decide⟩
  · obtain rfl : name = "a.ts" := by simpa [FileTable.names, Config.sample] using member
    exact ⟨by decide, by decide, by decide, by decide, by decide⟩
  · exact ⟨by decide, by decide, by decide, by decide, by decide⟩

theorem sample_plain : Marker.Plain Config.sample.harness.versionLabel :=
  ⟨by decide, Text.split_first_none _ _ (by decide)⟩

theorem sample_nameable : Marker.Nameable "1" := ⟨by decide, by decide, by decide⟩

def sampleOptions : SyncOptions := ⟨1, none, 1⟩

theorem sample_synced (options : SyncOptions) (disk : Disk)
    (version : (sync id Config.sample options ⟨disk, sampleLink⟩).1.toOption.map SyncReport.version = some "1") :
    ∃ report left, sync id Config.sample options ⟨disk, sampleLink⟩ = (.ok report, left) ∧ report.version = "1" := by
  cases run : sync id Config.sample options ⟨disk, sampleLink⟩ with
  | mk result left =>
      rw [run] at version
      cases result with
      | error e => cases version
      | ok report => exact ⟨report, left, rfl, Option.some.inj version⟩

theorem empty_literal (config : Config) : config.Literal Disk.empty := linkless_literal config _ (List.forall_mem_nil _)

def staleDisk : Disk :=
  ⟨[(["out", "old.ts"], .file "x".toUTF8), (["out"], .directory)], [], ⟨by decide, by decide, by decide⟩⟩

def linkedDisk (bytes : ByteArray) : Disk :=
  ⟨[(["home", "out", "a.ts"], .link "../x.ts"), (["home", "x.ts"], .file bytes), (["home", "out"], .directory),
    (["home", "new"], .directory), (["home"], .directory)], ["home"], ⟨by simp, by simp, by simp⟩⟩

theorem linked_found (bytes : ByteArray) :
    (linkedDisk bytes).target Config.sample.downloadDir = .ok (.directory ["home", "out"]) :=
  rfl

theorem linked_literal (bytes : ByteArray) : Config.sample.Literal (linkedDisk bytes) := by
  refine simple_literal _ _ (by decide) sample_simple ?_ ?_
  · exact of_decide_eq_true rfl
  · rw [linked_found]
    exact nofun

theorem stale_literal : Config.sample.Literal staleDisk := linkless_literal _ _ (by simp [staleDisk])

theorem stale_leftover : Leftover Config.sample staleDisk ["old.ts"] :=
  ⟨rfl, by decide, ⟨"x".toUTF8, rfl⟩, by decide, by decide⟩

end SuiteSync
