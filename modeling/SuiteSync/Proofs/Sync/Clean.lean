import SuiteSync.Proofs.Sync.Agreement

set_option autoImplicit false

namespace SuiteSync

open SuiteSync.Path

def Config.Telling (config : Config) (version : String) (replies : String → Reply) (disk : Disk) : Prop :=
  ∀ job ∈ config.jobs, ∀ file bytes, config.copy version replies job = .ok file →
    disk.node (join config.downloadDir job.name) = .ok (.file bytes) →
    checksum bytes.data.toList = checksum file.text.toUTF8.data.toList → bytes = file.text.toUTF8

structure Untouched (config : Config) (files : List AdaptedFile) (disk : Disk) : Prop where
  copies : ∀ file ∈ files, disk.node (join config.downloadDir file.name) = .ok (.file file.text.toUTF8)
  noStray : ∀ rest, rest ∉ strayFiles disk config

theorem verify_untouched (timing : Nat → Nat) (config : Config) (options : SyncOptions) (version : String)
    (replies : String → Reply) (session left : Session) (drift : DriftReport) (asked : options.version = some version)
    (serves : session.link.host.Serves config version replies) (telling : config.Telling version replies session.disk)
    (run : verify timing config options session = (.ok drift, left)) (clean : drift.isClean = true) :
    ∃ files, config.Copies version replies files ∧ Untouched config files session.disk := by
  obtain ⟨resolved, link, files, link', statuses, _, settled, adapted, compared, rfl, _⟩ :=
    verify_steps timing config options session left drift run
  rw [asked, Option.some_or, resolve_asked] at settled
  obtain ⟨same, rfl⟩ := Prod.mk.inj settled
  cases Except.ok.inj same
  have copies := adapt_all_copied config version replies options.attempts options.parallel timing
    ((session.link.note (.versionPinned version)).note (.verifying config.downloadDir version)) link' files serves adapted
  simp only [DriftReport.isClean, Bool.and_eq_true, List.isEmpty_iff, List.all_eq_true, beq_iff_eq] at clean
  obtain ⟨noStray, upToDate⟩ := clean
  refine ⟨files, copies, fun file member => ?_, fun rest inside => ?_⟩
  · have status := file_statuses_clean session.disk config.downloadDir files statuses link' _ compared upToDate file member
    obtain ⟨bytes, there, sums⟩ := file_status_checksum session.disk config.downloadDir file status
    obtain ⟨job, inside, done⟩ := forall₂_partner _ _ _ copies.flip file member
    have name := answer_name _ _ _ _ done
    rw [there, telling job inside file bytes done (name ▸ there) sums]
  · rw [noStray] at inside
    cases inside

def LinkedCopy (config : Config) (disk : Disk) (place : Location) : Prop :=
  ∃ name ∈ config.files.names, place = location disk.working config.downloadDir ++ [name] ∧
    ∃ path, disk.find? place = some (.link path)

theorem untouched_copy (config : Config) (disk : Disk) (file : AdaptedFile) (filled : config.downloadDir ≠ "")
    (simple : Simple file.name) (straight : disk.Straight config.downloadDir)
    (read : disk.node (join config.downloadDir file.name) = .ok (.file file.text.toUTF8)) :
    disk.target config.downloadDir = .ok (.directory (location disk.working config.downloadDir)) ∧
      (disk.fileAt (location disk.working config.downloadDir ++ [file.name]) = some file.text.toUTF8 ∨
        ∃ path, disk.find? (location disk.working config.downloadDir ++ [file.name]) = some (.link path)) := by
  obtain ⟨base, opened⟩ := disk.file_directory config.downloadDir file.name _ simple filled read
  obtain rfl : base = location disk.working config.downloadDir := disk.target_location _ _ straight opened
  refine ⟨opened, ?_⟩
  by_cases link : ∃ path, disk.find? (location disk.working config.downloadDir ++ [file.name]) = some (.link path)
  · exact .inr link
  · have unlinked : disk.Unlinked file.name (disk.target config.downloadDir) := by
      intro base led path standing
      cases Except.ok.inj (opened.symm.trans led)
      exact link ⟨path, standing⟩
    obtain ⟨base, led, _, held⟩ := (disk.file_join _ _ _ simple filled unlinked).mp read
    cases Except.ok.inj (opened.symm.trans led)
    exact .inl held

theorem sync_asked (timing : Nat → Nat) (config : Config) (options : SyncOptions) (version : String)
    (session left : Session) (report : SyncReport) (asked : options.version = some version)
    (run : sync timing config options session = (.ok report, left)) : report.version = version := by
  obtain ⟨resolved, link, reset, files, link', settled, _, _, wrote⟩ :=
    sync_steps timing config options session left report run
  rw [asked, resolve_asked] at settled
  obtain ⟨same, _⟩ := Prod.mk.inj settled
  cases Except.ok.inj same
  obtain ⟨_, _, _, _, rfl⟩ := write_copies_steps config _ files _ left report wrote
  rfl

theorem sync_untouched (config : Config) (version : String) (files : List AdaptedFile) (disk reset after : Disk)
    (filled : config.downloadDir ≠ "") (simple : config.SimpleNames) (straight : disk.Straight config.downloadDir)
    (named : files.map AdaptedFile.name = config.files.names) (untouched : Untouched config files disk)
    (opened : disk.target config.downloadDir = .ok (.directory (location disk.working config.downloadDir)))
    (emptied : disk.reset config.downloadDir = (.ok (), reset)) (working : reset.working = disk.working)
    (synced : Synced config version files reset after) (other : Location)
    (noMarker : other ≠ location disk.working config.downloadDir ++ [config.harness.versionFile]) :
    after.fileAt other = disk.fileAt other ∨ LinkedCopy config disk other := by
  have led : disk.target config.downloadDir ≠ .error .notFound := by
    rw [opened]
    exact nofun
  have cleared := (disk.reset_files config.downloadDir straight reset emptied).2 led
  have copies := synced.copies
  have others := synced.others
  rw [working] at copies others
  -- The copies are written anew with the bytes that were read under their paths.
  by_cases copy : ∃ file ∈ files, other = location disk.working config.downloadDir ++ [file.name]
  · obtain ⟨file, member, rfl⟩ := copy
    have configured : file.name ∈ config.files.names := named ▸ List.mem_map_of_mem member
    have held := (untouched_copy config disk file filled (simple.files _ configured) straight (untouched.copies file member)).2
    rw [copies file member]
    exact held.imp Eq.symm fun link => ⟨file.name, configured, rfl, link⟩
  · have noCopy : ∀ file ∈ files, other ≠ location disk.working config.downloadDir ++ [file.name] :=
      fun file member same => copy ⟨file, member, same⟩
    left
    rw [others other noMarker noCopy, cleared other]
    split
    · -- Whatever else lay below the directory would have been stray.
      rename_i below
      obtain ⟨rest, rfl⟩ := List.isPrefixOf_iff_prefix.mp below
      cases held : disk.fileAt (location disk.working config.downloadDir ++ rest) with
      | none => rfl
      | some bytes =>
          refine absurd ((mem_stray disk config simple _ opened rest).mpr ⟨⟨?_, bytes, held⟩, ?_, ?_⟩)
            (untouched.noStray rest)
          · rintro rfl
            rw [List.append_nil, Disk.file_at_iff, disk.target_directory _ _ opened] at held
            cases held
          · rintro rfl
            exact noMarker rfl
          · rintro name configured rfl
            obtain ⟨file, member, rfl⟩ := List.mem_map.mp (named ▸ configured)
            exact noCopy file member rfl
    · rfl

/-- After a clean comparison at a version, a sync at that version leaves every file as it was, the marker apart, and puts
a file in the place of each copy that was a link. The marker is written in any case, so the sync changes nothing exactly
when no copy was a link and the marker held that text already. -/
theorem clean_sync_changes_marker_only (timing timing' : Nat → Nat) (config : Config) (options options' : SyncOptions)
    (version : String) (session checked left : Session) (link : Link) (drift : DriftReport) (report : SyncReport)
    (replies : String → Reply) (accepted : config.Accepted) (simple : config.SimpleNames)
    (straight : session.disk.Straight config.downloadDir)
    (asked : options.version = some version) (asked' : options'.version = some version)
    (serves : session.link.host.Serves config version replies) (servesAgain : link.host.Serves config version replies)
    (telling : config.Telling version replies session.disk)
    (verified : verify timing config options session = (.ok drift, checked)) (clean : drift.isClean = true)
    (run : sync timing' config options' ⟨checked.disk, link⟩ = (.ok report, left)) :
    (∀ other, other ≠ location session.disk.working config.downloadDir ++ [config.harness.versionFile] →
        left.disk.fileAt other = session.disk.fileAt other ∨ LinkedCopy config session.disk other) ∧
      left.disk.fileAt (location session.disk.working config.downloadDir ++ [config.harness.versionFile]) =
        some (Marker.ofVersion config version).render.toUTF8 ∧
      ((∀ other, left.disk.fileAt other = session.disk.fileAt other) ↔
        session.disk.fileAt (location session.disk.working config.downloadDir ++ [config.harness.versionFile]) =
            some (Marker.ofVersion config version).render.toUTF8 ∧
          ∀ other, ¬ LinkedCopy config session.disk other) := by
  obtain ⟨files, copies, untouched⟩ := verify_untouched timing config options version replies session checked drift
    asked serves telling verified clean
  obtain ⟨_, _, _, _, _, _, _, _, _, _, rfl⟩ := verify_steps timing config options session checked drift verified
  obtain rfl := sync_asked timing' config options' version _ left report asked' run
  have filled := config.accepted_directory accepted
  have named := copies_names config report.version replies files copies
  obtain ⟨first, member⟩ := List.exists_mem_of_ne_nil files fun empty =>
    config.accepted_files accepted (named.symm.trans (congrArg (List.map AdaptedFile.name) empty))
  have component := simple.files first.name (named ▸ List.mem_map_of_mem member)
  have opened := (untouched_copy config session.disk first filled component straight (untouched.copies first member)).1
  have led : session.disk.target config.downloadDir ≠ .error .notFound := by
    rw [opened]
    exact nofun
  have literal := simple_literal config session.disk filled simple straight led
  obtain ⟨reset, files', emptied, copies', synced⟩ := sync_synced timing' config options' ⟨session.disk, link⟩ left report
    replies accepted simple literal servesAgain run
  cases copies_unique config report.version replies files files' copies copies'
  have working := session.disk.reset_working config.downloadDir straight reset emptied
  have elsewhere := sync_untouched config report.version files session.disk reset left.disk filled simple straight named
    untouched opened emptied working synced
  have marker := synced.marker
  have copied := synced.copies
  rw [working] at marker copied
  refine ⟨elsewhere, marker, ?_⟩
  constructor
  · intro same
    refine ⟨by rw [← same, marker], ?_⟩
    rintro _ ⟨name, configured, rfl, path, standing⟩
    obtain ⟨file, inside, rfl⟩ := List.mem_map.mp (named ▸ configured)
    have held := (session.disk.file_at_iff _ _).mp ((same _).symm.trans (copied file inside))
    rw [standing] at held
    cases held
  · rintro ⟨held, noLink⟩ other
    by_cases here : other = location session.disk.working config.downloadDir ++ [config.harness.versionFile]
    · rw [here, marker, held]
    · exact (elsewhere other here).resolve_right (noLink other)

def sampleCopy : AdaptedFile := ⟨"a.ts", "http://h/1/t/a.ts", "// H\n// http://r/1/t/a.ts\n\nit", 0⟩

theorem sample_copies : Config.sample.Copies "1" (fun _ => sampleReply) [sampleCopy] := by
  have jobs : Config.sample.jobs = [⟨"a.ts", []⟩] := rfl
  rw [Config.Copies, jobs]
  exact .cons (except_of_option _ _ (by decide +kernel)) .nil

def pinnedOptions : SyncOptions := ⟨1, some "1", 1⟩

def copiedDisk (marker : ByteArray) : Disk :=
  ⟨[(["out", "_v"], .file marker), (["out", "a.ts"], .file sampleCopy.text.toUTF8), (["out", "b.ts"], .link "a.ts"),
    (["new"], .directory), (["out"], .directory)], [], ⟨by simp, by simp, by simp⟩⟩

theorem copied_straight (marker : ByteArray) : (copiedDisk marker).Straight Config.sample.downloadDir :=
  of_decide_eq_true rfl

theorem copied_found (marker : ByteArray) : (copiedDisk marker).target Config.sample.downloadDir = .ok (.directory ["out"]) :=
  rfl

theorem copied_literal (marker : ByteArray) : Config.sample.Literal (copiedDisk marker) := by
  refine simple_literal _ _ (by decide) sample_simple (copied_straight marker) ?_
  rw [copied_found]
  exact nofun

theorem copied_read (marker : ByteArray) :
    (copiedDisk marker).node (join Config.sample.downloadDir sampleCopy.name) = .ok (.file sampleCopy.text.toUTF8) :=
  rfl

theorem copied_held (marker : ByteArray) (rest : Location) (held : ByteArray)
    (there : (copiedDisk marker).fileAt ("out" :: rest) = some held) : rest = ["_v"] ∨ rest = ["a.ts"] := by
  rw [Disk.file_at_iff] at there
  have member := ((copiedDisk marker).find_mem _ _ (List.cons_ne_nil _ _)).mp there
  simp [copiedDisk] at member
  exact member.imp And.left And.left

theorem copied_clean (marker : ByteArray) : ∃ drift left,
    verify id Config.sample pinnedOptions ⟨copiedDisk marker, sampleLink⟩ = (.ok drift, ⟨copiedDisk marker, left⟩) ∧
      drift.isClean = true := by
  obtain ⟨left, verified⟩ := verify_fresh id Config.sample pinnedOptions "1" (fun _ => sampleReply) [sampleCopy]
    (copiedDisk marker) sampleLink sample_copies sample_serves
    (List.forall_mem_singleton.mpr (file_status_fresh _ _ _ (copied_read marker))) rfl
  refine ⟨_, left, verified, (clean_iff _ _ _).mpr fun rest stray => ?_⟩
  obtain ⟨⟨_, held, found⟩, noMarker, noCopy⟩ := (mem_stray _ _ sample_simple _ (copied_found marker) rest).mp stray
  rcases copied_held marker rest held found with rfl | rfl
  · exact noMarker rfl
  · exact noCopy "a.ts" (by decide) rfl

theorem copied_telling (marker : ByteArray) : Config.sample.Telling "1" (fun _ => sampleReply) (copiedDisk marker) := by
  intro job member file bytes done there _
  obtain ⟨other, inside, done'⟩ := forall₂_partner _ _ _ sample_copies job member
  cases List.mem_singleton.mp inside
  cases Except.ok.inj (done.symm.trans done')
  obtain rfl : job = ⟨"a.ts", []⟩ := List.mem_singleton.mp member
  exact Node.file.inj (Except.ok.inj (there.symm.trans (copied_read marker)))

theorem copied_unlinked (marker : ByteArray) (place : Location) : ¬ LinkedCopy Config.sample (copiedDisk marker) place := by
  rintro ⟨name, configured, rfl, path, link⟩
  obtain rfl : name = "a.ts" := by simpa [FileTable.names, Config.sample] using configured
  have copy : (copiedDisk marker).find? ["out", "a.ts"] = some (.file sampleCopy.text.toUTF8) := rfl
  cases copy.symm.trans link

theorem sample_sync_changes_nothing : ∃ drift checked report left,
    verify id Config.sample pinnedOptions ⟨copiedDisk (Marker.ofVersion Config.sample "1").render.toUTF8, sampleLink⟩ =
      (.ok drift, checked) ∧ drift.isClean = true ∧
    sync id Config.sample pinnedOptions ⟨checked.disk, sampleLink⟩ = (.ok report, left) ∧
    ∀ other, left.disk.fileAt other = (copiedDisk (Marker.ofVersion Config.sample "1").render.toUTF8).fileAt other := by
  obtain ⟨drift, link, verified, clean⟩ := copied_clean (Marker.ofVersion Config.sample "1").render.toUTF8
  obtain ⟨report, left, run, _⟩ := sample_synced pinnedOptions
    (copiedDisk (Marker.ofVersion Config.sample "1").render.toUTF8) (by decide +kernel)
  refine ⟨drift, _, report, left, verified, clean, run, ?_⟩
  exact (clean_sync_changes_marker_only id id Config.sample pinnedOptions pinnedOptions "1" _ _ left sampleLink drift report
    (fun _ => sampleReply) Config.sample_accepted sample_simple (copied_straight _) rfl rfl sample_serves sample_serves
    (copied_telling _) verified clean run).2.2.mpr ⟨rfl, copied_unlinked _⟩

theorem clean_sync_replaces_marker : ¬ ∀ (timing timing' : Nat → Nat) (config : Config) (options options' : SyncOptions)
    (version : String) (session checked left : Session) (link : Link) (drift : DriftReport) (report : SyncReport)
    (replies : String → Reply), config.Accepted → config.SimpleNames → config.Literal session.disk →
    options.version = some version → options'.version = some version → session.link.host.Serves config version replies →
    link.host.Serves config version replies → config.Telling version replies session.disk →
    verify timing config options session = (.ok drift, checked) → drift.isClean = true →
    sync timing' config options' ⟨checked.disk, link⟩ = (.ok report, left) →
    ∀ other, left.disk.fileAt other = session.disk.fileAt other := by
  intro general
  obtain ⟨drift, link, verified, clean⟩ := copied_clean "p version: 0.9\nhttp://g/0.9".toUTF8
  obtain ⟨report, left, run, version⟩ := sample_synced pinnedOptions (copiedDisk "p version: 0.9\nhttp://g/0.9".toUTF8)
    (by decide +kernel)
  have kept := general id id Config.sample pinnedOptions pinnedOptions "1" _ _ left sampleLink drift report
    (fun _ => sampleReply) Config.sample_accepted sample_simple (copied_literal _) rfl rfl sample_serves sample_serves
    (copied_telling _) verified clean run ["out", "_v"]
  obtain ⟨reset, _, emptied, _, synced⟩ := sync_synced id Config.sample pinnedOptions _ left report (fun _ => sampleReply)
    Config.sample_accepted sample_simple (copied_literal _) (version ▸ sample_serves) run
  have written := synced.marker
  rw [version, Disk.reset_working _ _ (copied_straight _) reset emptied] at written
  have same : "p version: 0.9\nhttp://g/0.9".toUTF8 = (Marker.ofVersion Config.sample "1").render.toUTF8 :=
    Option.some.inj (kept.symm.trans written)
  exact absurd (congrArg ByteArray.size same) (by decide)

end SuiteSync
