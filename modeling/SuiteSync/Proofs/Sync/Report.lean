import SuiteSync.Proofs.Sync.Clean
import SuiteSync.Proofs.Sync.Contents

set_option autoImplicit false

namespace SuiteSync

open SuiteSync.Path

structure Judged (held : ByteArray → Prop) (file : AdaptedFile) (status : FileStatus) : Prop where
  upToDate : status = .upToDate ↔ held file.text.toUTF8
  missing : status = .missing ↔ ∀ bytes, ¬ held bytes
  modified : ∀ expected actual, status = .modified expected actual ↔ ∃ bytes, held bytes ∧ bytes ≠ file.text.toUTF8 ∧
    expected = checksum file.text.toUTF8.data.toList ∧ actual = checksum bytes.data.toList
  differ : ∀ expected actual, status = .modified expected actual → expected ≠ actual

def Read (disk : Disk) (directory : String) (file : AdaptedFile) (bytes : ByteArray) : Prop :=
  disk.node (join directory file.name) = .ok (.file bytes)

def TellsApart (disk : Disk) (directory : String) (files : List AdaptedFile) : Prop :=
  ∀ file ∈ files, ∀ bytes, Read disk directory file bytes →
    checksum bytes.data.toList = checksum file.text.toUTF8.data.toList → bytes = file.text.toUTF8

structure Exact (config : Config) (files : List AdaptedFile) (disk : Disk) : Prop where
  places : ∀ rest, disk.Holds config.downloadDir rest ∧ rest ≠ [config.harness.versionFile] ↔
    ∃ name ∈ config.files.names, rest = [name]
  contents : ∀ file ∈ files, disk.Held config.downloadDir file.name file.text.toUTF8

theorem judged_congr (held held' : ByteArray → Prop) (file : AdaptedFile) (status : FileStatus)
    (same : ∀ bytes, held bytes ↔ held' bytes) (judged : Judged held file status) : Judged held' file status := by
  obtain rfl : held = held' := funext fun bytes => propext (same bytes)
  exact judged

theorem file_status_judged (disk : Disk) (directory : String) (file : AdaptedFile) (status : FileStatus)
    (compared : fileStatus disk directory file = .ok status)
    (telling : ∀ bytes, Read disk directory file bytes →
      checksum bytes.data.toList = checksum file.text.toUTF8.data.toList → bytes = file.text.toUTF8) :
    Judged (Read disk directory file) file status := by
  by_cases standing : disk.isFile (join directory file.name) = true
  · obtain ⟨bytes, there⟩ := (Disk.is_file_iff _ _).mp standing
    have only : ∀ held, Read disk directory file held → held = bytes :=
      fun held read => Node.file.inj (Except.ok.inj (read.symm.trans there))
    rw [file_status_read disk directory file bytes there] at compared
    by_cases same : checksum bytes.data.toList = checksum file.text.toUTF8.data.toList
    · obtain rfl := telling bytes there same
      rw [if_pos rfl] at compared
      cases compared
      refine ⟨⟨fun _ => there, fun _ => rfl⟩, ⟨?_, fun none => absurd there (none _)⟩, fun _ _ => ⟨?_, ?_⟩, ?_⟩
      · rintro ⟨⟩
      · rintro ⟨⟩
      · rintro ⟨held, read, other, _⟩
        exact absurd (only held read) other
      · rintro _ _ ⟨⟩
    · have different : bytes ≠ file.text.toUTF8 := by
        rintro rfl
        exact same rfl
      rw [if_neg same] at compared
      cases compared
      refine ⟨⟨?_, fun read => absurd (only _ read).symm different⟩, ⟨?_, fun none => absurd there (none _)⟩,
        fun expected actual => ⟨?_, ?_⟩, ?_⟩
      · rintro ⟨⟩
      · rintro ⟨⟩
      · rintro ⟨⟩
        exact ⟨bytes, there, different, rfl, rfl⟩
      · rintro ⟨held, read, _, rfl, rfl⟩
        rw [only held read]
      · rintro _ _ ⟨⟩
        exact Ne.symm same
  · have none : ∀ bytes, ¬ Read disk directory file bytes :=
      fun bytes there => standing ((Disk.is_file_iff _ _).mpr ⟨bytes, there⟩)
    rw [fileStatus, if_neg standing] at compared
    cases compared
    refine ⟨⟨?_, fun read => absurd read (none _)⟩, ⟨fun _ => none, fun _ => rfl⟩, fun _ _ => ⟨?_, ?_⟩, ?_⟩
    · rintro ⟨⟩
    · rintro ⟨⟩
    · rintro ⟨held, read, _⟩
      exact absurd read (none held)
    · rintro _ _ ⟨⟩

theorem statuses_judged (disk : Disk) (directory : String) (files : List AdaptedFile)
    (statuses : List (String × FileStatus)) (link left : Link)
    (run : fileStatuses disk directory files link = (.ok statuses, left)) (telling : TellsApart disk directory files) :
    List.Forall₂ (fun file entry => entry.1 = file.name ∧ Judged (Read disk directory file) file entry.2) files statuses := by
  have each := file_statuses_each disk directory files link statuses left run
  clear run
  induction each with
  | nil => exact .nil
  | cons first later ih =>
      obtain ⟨here, rest⟩ := List.forall_mem_cons.mp telling
      exact .cons ⟨first.1, file_status_judged disk directory _ _ first.2 here⟩ (ih rest)

theorem statuses_named (files : List AdaptedFile) (statuses : List (String × FileStatus))
    (each : List.Forall₂ (fun file entry => entry.1 = file.name) files statuses) :
    statuses.map Prod.fst = files.map AdaptedFile.name := by
  induction each with
  | nil => rfl
  | cons first later ih => rw [List.map_cons, List.map_cons, ih, first]

theorem judged_up_to_date (disk : Disk) (directory : String) (files : List AdaptedFile)
    (statuses : List (String × FileStatus)) (judged : List.Forall₂
      (fun file entry => entry.1 = file.name ∧ Judged (Read disk directory file) file entry.2) files statuses) :
    (∀ entry ∈ statuses, entry.2 = .upToDate) ↔ ∀ file ∈ files, Read disk directory file file.text.toUTF8 := by
  induction judged with
  | nil => exact ⟨fun _ => List.forall_mem_nil _, fun _ => List.forall_mem_nil _⟩
  | cons first later ih => rw [List.forall_mem_cons, List.forall_mem_cons, first.2.upToDate, ih]

theorem no_stray_iff (disk : Disk) (config : Config) (simple : config.SimpleNames) :
    strayFiles disk config = [] ↔ ∀ rest, disk.Holds config.downloadDir rest → rest ≠ [config.harness.versionFile] →
      ∃ name ∈ config.files.names, rest = [name] := by
  rw [List.eq_nil_iff_forall_not_mem]
  refine forall_congr' fun rest => ?_
  rw [mem_stray_iff disk config simple]
  by_cases named : ∃ name ∈ config.files.names, rest = [name]
  · obtain ⟨name, configured, same⟩ := named
    exact ⟨fun _ _ _ => ⟨name, configured, same⟩, fun _ stray => stray.2.2 name configured same⟩
  · constructor
    · intro unlisted held noMarker
      exact absurd ⟨held, noMarker, fun name configured same => named ⟨name, configured, same⟩⟩ unlisted
    · exact fun within stray => named (within stray.1 stray.2.1)

theorem clean_read_iff (config : Config) (version : String) (files : List AdaptedFile) (disk : Disk)
    (statuses : List (String × FileStatus)) (judged : List.Forall₂
      (fun file entry => entry.1 = file.name ∧ Judged (Read disk config.downloadDir file) file entry.2) files statuses) :
    DriftReport.isClean ⟨version, statuses, strayFiles disk config⟩ = true ↔
      strayFiles disk config = [] ∧ ∀ file ∈ files, Read disk config.downloadDir file file.text.toUTF8 := by
  simp only [DriftReport.isClean, Bool.and_eq_true, List.isEmpty_iff, List.all_eq_true, beq_iff_eq]
  rw [judged_up_to_date disk config.downloadDir files statuses judged]

theorem exact_iff (config : Config) (files : List AdaptedFile) (disk : Disk) (simple : config.SimpleNames)
    (named : files.map AdaptedFile.name = config.files.names) :
    Exact config files disk ↔
      strayFiles disk config = [] ∧ ∀ file ∈ files, disk.Held config.downloadDir file.name file.text.toUTF8 := by
  rw [no_stray_iff disk config simple]
  constructor
  · intro whole
    exact ⟨fun rest held noMarker => (whole.places rest).mp ⟨held, noMarker⟩, whole.contents⟩
  · rintro ⟨places, contents⟩
    refine ⟨fun rest => ⟨fun held => places rest held.1 held.2, ?_⟩, contents⟩
    rintro ⟨name, configured, rfl⟩
    obtain ⟨file, member, rfl⟩ := List.mem_map.mp (named ▸ configured)
    obtain ⟨base, opened, held⟩ := contents file member
    refine ⟨⟨List.cons_ne_nil _ _, base, _, opened, held⟩, fun same => simple.apart ?_⟩
    exact (List.cons.inj same).1 ▸ configured

theorem judged_held (config : Config) (files : List AdaptedFile) (disk : Disk) (statuses : List (String × FileStatus))
    (filled : config.downloadDir ≠ "") (simple : config.SimpleNames) (named : files.map AdaptedFile.name = config.files.names)
    (direct : ∀ name ∈ config.files.names, disk.Direct config.downloadDir name) (judged : List.Forall₂
      (fun file entry => entry.1 = file.name ∧ Judged (Read disk config.downloadDir file) file entry.2) files statuses) :
    List.Forall₂ (fun file entry => Judged (disk.Held config.downloadDir file.name) file entry.2) files statuses := by
  have configured : ∀ file ∈ files, file.name ∈ config.files.names := fun file member => named ▸ List.mem_map_of_mem member
  clear named
  induction judged with
  | nil => exact .nil
  | cons first later ih =>
      rw [List.forall_mem_cons] at configured
      obtain ⟨here, others⟩ := configured
      have same := fun bytes => disk.direct_file config.downloadDir _ bytes (simple.files _ here) filled (direct _ here)
      exact .cons (judged_congr _ _ _ _ same first.2) (ih others)

/-- A comparison leaves the disk as it is and has one entry for each configured file, in their order. It lists exactly
the files that no sync would write, each once and in order. Where the checksum tells contents apart, it says of each
file what is read under its path, and is clean exactly when that is the copy for all of them and no file is stray. Where
no link stands in the place of a file and no path is too long, that is what lies in the directory. -/
theorem report_exact (timing : Nat → Nat) (config : Config) (options : SyncOptions) (session left : Session)
    (drift : DriftReport) (accepted : config.Accepted) (simple : config.SimpleNames)
    (run : verify timing config options session = (.ok drift, left)) :
    left.disk = session.disk ∧ drift.files.map Prod.fst = config.files.names ∧ drift.stray.Pairwise (· < ·) ∧
      (∀ rest, rest ∈ drift.stray ↔ session.disk.Holds config.downloadDir rest ∧
        rest ≠ [config.harness.versionFile] ∧ ∀ name ∈ config.files.names, rest ≠ [name]) ∧
      ∃ files, List.Forall₂ (config.OwnCopy drift.version session.link.host) config.jobs files ∧
        (TellsApart session.disk config.downloadDir files →
          List.Forall₂ (fun file entry => entry.1 = file.name ∧
            Judged (Read session.disk config.downloadDir file) file entry.2) files drift.files ∧
          (drift.isClean = true ↔
            drift.stray = [] ∧ ∀ file ∈ files, Read session.disk config.downloadDir file file.text.toUTF8) ∧
          ((∀ name ∈ config.files.names, session.disk.Direct config.downloadDir name) →
            List.Forall₂ (fun file entry => Judged (session.disk.Held config.downloadDir file.name) file entry.2)
              files drift.files ∧
            (drift.isClean = true ↔ Exact config files session.disk))) := by
  obtain ⟨resolved, asked, files, link, statuses, link', settled, adapted, compared, rfl, rfl⟩ :=
    verify_steps timing config options session left drift run
  have own := settled_own config resolved _ _ _ _ _ _ _ _ _ settled adapted
  have named := files_names config files (own.imp fun _ _ copy => own_copy_name _ _ _ _ _ copy)
  refine ⟨rfl, ?_, stray_ascending session.disk config, mem_stray_iff session.disk config simple, files, own, ?_⟩
  · have each := file_statuses_each session.disk config.downloadDir files link statuses link' compared
    exact (statuses_named files statuses (each.imp fun _ _ => And.left)).trans named
  · intro telling
    have filled := config.accepted_directory accepted
    have judged := statuses_judged session.disk config.downloadDir files statuses link link' compared telling
    have clean := clean_read_iff config resolved.version files session.disk statuses judged
    refine ⟨judged, clean, fun direct => ⟨judged_held config files session.disk statuses filled simple named direct judged, ?_⟩⟩
    rw [clean, exact_iff config files session.disk simple named]
    refine and_congr_right fun _ => forall_congr' fun file => forall_congr' fun member => ?_
    have configured : file.name ∈ config.files.names := named ▸ List.mem_map_of_mem member
    exact session.disk.direct_file config.downloadDir file.name _ (simple.files _ configured) filled (direct _ configured)

theorem offers_given (host : Host) (url raw : String) (reply : Reply) (reached : host.reachable = true)
    (gives : host.Gives url reply) (offers : host.Offers url raw) :
    ∃ address, Attempt.ofReply url address reply = .page raw := by
  obtain ⟨address, replies, other, read, held, member, page⟩ := offers
  have always := gives address read
  rw [if_pos reached, Host.Always, held] at always
  cases replies with
  | nil => cases member
  | cons first later =>
      obtain rfl := always other member
      exact ⟨address.text, page⟩

def Config.trio : Config :=
  { Config.sample with files := ⟨[("a.ts", []), ("b.ts", []), ("c.ts", [])], by decide⟩ }

def Config.trioText : String :=
  "download_dir='new/../out'\ncustom_setup_module='./s.js'\n[upstream]\npackage='p'\nversion='1'\ntest_dir='t'\n" ++
  "raw_url='http://h/\x7bversion\x7d/'\nref_url='http://r/\x7bversion\x7d/'\ntree_url='http://g/\x7bversion\x7d'\n" ++
  "[harness]\nheader='// H'\nhook_function='hook'\nversion_file='_v'\n[files]\n'a.ts'=[]\n'b.ts'=[]\n'c.ts'=[]\n"

theorem Config.trio_accepted : Config.trio.Accepted := Config.accepted_of_text Config.trio Config.trioText (by decide +kernel)

def trioLink : Link :=
  ⟨(((Host.empty true).serve "http://h/1/t/a.ts" [sampleReply]).serve "http://h/1/t/b.ts" [sampleReply]).serve
    "http://h/1/t/c.ts" [sampleReply], [], []⟩

def driftedDisk : Disk :=
  ⟨[(["out", "a.ts"], .file "// H\n// http://r/1/t/a.ts\n\nit".toUTF8), (["out", "b.ts"], .file "it".toUTF8),
    (["out", "sub", "d.ts"], .file ByteArray.empty), (["out", "e.ts"], .link "a.ts"), (["out", "sub"], .directory),
    (["new"], .directory), (["out"], .directory)], [], ⟨by simp, by simp, by simp⟩⟩

theorem trio_simple : Config.trio.SimpleNames := by
  refine ⟨fun name member => ?_, sample_simple.marker, by decide⟩
  obtain rfl | rfl | rfl : name = "a.ts" ∨ name = "b.ts" ∨ name = "c.ts" := by
    simpa [FileTable.names, Config.trio] using member
  all_goals exact ⟨by decide, by decide, by decide, by decide, by decide⟩

theorem trio_gives (name : String) (member : name ∈ Config.trio.files.names) :
    trioLink.host.Gives ((Resolved.pinned Config.trio "1").fileUrl Config.trio name) sampleReply := by
  have sent : (Address.parse? ((Resolved.pinned Config.trio "1").fileUrl Config.trio name)).map
      (fun address => trioLink.host.replies.lookup address.sent) = some (some [sampleReply]) := by
    obtain rfl | rfl | rfl : name = "a.ts" ∨ name = "b.ts" ∨ name = "c.ts" := by
      simpa [FileTable.names, Config.trio] using member
    all_goals rfl
  intro address read
  rw [read, Option.map_some, Option.some.injEq] at sent
  have reached : trioLink.host.reachable = true := rfl
  rw [if_pos reached, Host.Always, sent]
  exact fun other held => List.mem_singleton.mp held

theorem trio_settled (job : Job) (file : AdaptedFile) (member : job ∈ Config.trio.jobs)
    (own : Config.trio.OwnCopy "1" trioLink.host job file) :
    (Task.mk Config.trio (Resolved.pinned Config.trio "1") usualAttempts).settle job "it" = .ok file := by
  obtain ⟨raw, offers, done⟩ := own
  obtain ⟨address, page⟩ := offers_given _ _ raw sampleReply rfl (trio_gives job.name (job_name _ job member)) offers
  obtain rfl : "it" = raw := Attempt.page.inj page
  exact done

def trioCopies : List AdaptedFile :=
  [⟨"a.ts", "http://h/1/t/a.ts", "// H\n// http://r/1/t/a.ts\n\nit", 0⟩,
    ⟨"b.ts", "http://h/1/t/b.ts", "// H\n// http://r/1/t/b.ts\n\nit", 0⟩,
    ⟨"c.ts", "http://h/1/t/c.ts", "// H\n// http://r/1/t/c.ts\n\nit", 0⟩]

theorem trio_own (files : List AdaptedFile)
    (own : List.Forall₂ (Config.trio.OwnCopy "1" trioLink.host) Config.trio.jobs files) : files = trioCopies := by
  have jobs : Config.trio.jobs = [⟨"a.ts", []⟩, ⟨"b.ts", []⟩, ⟨"c.ts", []⟩] := rfl
  have made : ∀ job ∈ Config.trio.jobs, ∀ file copy, Config.trio.OwnCopy "1" trioLink.host job file →
      ((Task.mk Config.trio (Resolved.pinned Config.trio "1") usualAttempts).settle job "it").toOption = some copy →
      file = copy := by
    intro job member file copy own run
    exact Except.ok.inj ((trio_settled job file member own).symm.trans (except_of_option _ _ run))
  rw [jobs] at own made
  rcases own with _ | ⟨first, _ | ⟨second, _ | ⟨third, _ | _⟩⟩⟩
  rw [made _ (by simp) _ ⟨"a.ts", "http://h/1/t/a.ts", "// H\n// http://r/1/t/a.ts\n\nit", 0⟩ first (by decide +kernel),
    made _ (by simp) _ ⟨"b.ts", "http://h/1/t/b.ts", "// H\n// http://r/1/t/b.ts\n\nit", 0⟩ second (by decide +kernel),
    made _ (by simp) _ ⟨"c.ts", "http://h/1/t/c.ts", "// H\n// http://r/1/t/c.ts\n\nit", 0⟩ third (by decide +kernel)]
  rfl

theorem drifted_found : driftedDisk.target Config.trio.downloadDir = .ok (.directory ["out"]) := rfl

theorem drifted_direct (name : String) (member : name ∈ Config.trio.files.names) :
    driftedDisk.Direct Config.trio.downloadDir name := by
  obtain rfl | rfl | rfl : name = "a.ts" ∨ name = "b.ts" ∨ name = "c.ts" := by
    simpa [FileTable.names, Config.trio] using member
  all_goals
    refine ⟨⟨by decide, by decide⟩, fun base led path => ?_⟩
    cases Except.ok.inj (drifted_found.symm.trans led)
    intro link
    cases link

theorem drifted_tells : TellsApart driftedDisk Config.trio.downloadDir trioCopies := by
  intro file member bytes read same
  simp only [trioCopies, List.mem_cons, List.not_mem_nil, or_false] at member
  obtain rfl | rfl | rfl := member
  · exact (Node.file.inj (Except.ok.inj read)).symm
  · obtain rfl := Node.file.inj (Except.ok.inj read)
    exact absurd same (by decide +kernel)
  · cases read

theorem drifted_stray : strayFiles driftedDisk Config.trio = [["sub", "d.ts"]] := by
  have listed : driftedDisk.list Config.trio.downloadDir = [["a.ts"], ["b.ts"], ["sub", "d.ts"]] := by
    rw [Disk.list, drifted_found]
    exact List.mergeSort_of_pairwise (by decide)
  rw [strayFiles, listed]
  rfl

theorem drifted_report : ∃ left, Config.trio.Accepted ∧ Config.trio.SimpleNames ∧
    verify id Config.trio pinnedOptions ⟨driftedDisk, trioLink⟩ = (.ok ⟨"1", [("a.ts", .upToDate),
      ("b.ts", .modified "2618348769d89b60cfe4fae55eb846ddd903c9b005c0cc3e448687b9d56eb842"
        "2ad8a7049d7c5511ac254f5f51fe70a046ebd884729056f0fe57f5160d467153"), ("c.ts", .missing)], [["sub", "d.ts"]]⟩, left) ∧
    TellsApart driftedDisk Config.trio.downloadDir trioCopies ∧
    (∀ name ∈ Config.trio.files.names, driftedDisk.Direct Config.trio.downloadDir name) ∧
    ¬ Exact Config.trio trioCopies driftedDisk := by
  have told : (verify id Config.trio pinnedOptions ⟨driftedDisk, trioLink⟩).1.toOption.map
      (fun drift => (drift.version, drift.files)) = some ("1", [("a.ts", .upToDate),
        ("b.ts", .modified "2618348769d89b60cfe4fae55eb846ddd903c9b005c0cc3e448687b9d56eb842"
          "2ad8a7049d7c5511ac254f5f51fe70a046ebd884729056f0fe57f5160d467153"), ("c.ts", .missing)]) := by
    decide +kernel
  obtain ⟨drift, kept, same⟩ := Option.map_eq_some_iff.mp told
  have run := except_of_option _ _ kept
  obtain ⟨_, _, _, _, _, _, _, _, _, stray, _⟩ := verify_steps id Config.trio pinnedOptions _ _ drift (Prod.ext run rfl)
  obtain ⟨version, statuses, strays⟩ := drift
  obtain ⟨rfl, rfl⟩ := Prod.mk.inj same
  obtain rfl : strays = [["sub", "d.ts"]] := (congrArg DriftReport.stray stray).trans drifted_stray
  obtain ⟨_, _, _, _, files, own, judged⟩ := report_exact id Config.trio pinnedOptions ⟨driftedDisk, trioLink⟩ _ _
    Config.trio_accepted trio_simple (Prod.ext run rfl)
  obtain rfl := trio_own files own
  refine ⟨_, Config.trio_accepted, trio_simple, Prod.ext run rfl, drifted_tells, drifted_direct, fun whole => ?_⟩
  have clean := ((judged drifted_tells).2.2 drifted_direct).2.mpr whole
  exact absurd clean (by decide)

theorem sample_own (job : Job) (file : AdaptedFile) (member : job ∈ Config.sample.jobs)
    (own : Config.sample.OwnCopy "1" sampleLink.host job file) : file = sampleCopy := by
  obtain rfl : job = ⟨"a.ts", []⟩ := List.mem_singleton.mp member
  obtain ⟨raw, offers, done⟩ := own
  obtain ⟨address, page⟩ := offers_given _ _ raw sampleReply rfl (sample_serves "a.ts" (by decide)) offers
  obtain rfl : "it" = raw := Attempt.page.inj page
  have copied : (Task.mk Config.sample (Resolved.pinned Config.sample "1") usualAttempts).settle ⟨"a.ts", []⟩ "it" =
      .ok sampleCopy := except_of_option _ _ (by decide +kernel)
  exact Except.ok.inj (done.symm.trans copied)

theorem linked_copy_passes : ¬ ∀ (timing : Nat → Nat) (config : Config) (options : SyncOptions) (session left : Session)
    (drift : DriftReport), config.Accepted → config.SimpleNames → session.disk.isDirectory config.downloadDir = true →
    verify timing config options session = (.ok drift, left) →
    ∃ files, List.Forall₂ (config.OwnCopy drift.version session.link.host) config.jobs files ∧
      (TellsApart session.disk config.downloadDir files → (drift.isClean = true ↔ Exact config files session.disk)) := by
  intro general
  have led : (linkedDisk sampleCopy.text.toUTF8).target (join Config.sample.downloadDir sampleCopy.name) =
      .ok (.file ["home", "x.ts"] false) := except_of_option _ _ (by decide +kernel)
  have read : Read (linkedDisk sampleCopy.text.toUTF8) Config.sample.downloadDir sampleCopy sampleCopy.text.toUTF8 := by
    rw [Read, Disk.node, led]
    rfl
  obtain ⟨left, verified⟩ := verify_fresh id Config.sample pinnedOptions "1" (fun _ => sampleReply) [sampleCopy]
    (linkedDisk sampleCopy.text.toUTF8) sampleLink sample_copies sample_serves
    (List.forall_mem_singleton.mpr (file_status_fresh _ _ _ read)) rfl
  obtain ⟨files, own, agrees⟩ := general id Config.sample pinnedOptions _ _ _ Config.sample_accepted sample_simple rfl verified
  have only : ∀ file ∈ files, file = sampleCopy := by
    intro file member
    obtain ⟨job, inside, copy⟩ := forall₂_partner _ _ _ own.flip file member
    exact sample_own job file inside copy
  have telling : TellsApart (linkedDisk sampleCopy.text.toUTF8) Config.sample.downloadDir files := by
    intro file member bytes there _
    obtain rfl := only file member
    exact Node.file.inj (Except.ok.inj (there.symm.trans read))
  have stray : strayFiles (linkedDisk sampleCopy.text.toUTF8) Config.sample = [] := by
    have listed : (linkedDisk sampleCopy.text.toUTF8).list Config.sample.downloadDir = [] := by
      rw [Disk.list, linked_found]
      exact List.mergeSort_of_pairwise .nil
    rw [strayFiles, listed]
    rfl
  have whole := (agrees telling).mp ((clean_iff _ _ _).mpr fun rest member => by rw [stray] at member; cases member)
  obtain ⟨_, base, bytes, opened, held⟩ := ((whole.places ["a.ts"]).mpr ⟨"a.ts", by decide, rfl⟩).1
  cases Except.ok.inj ((linked_found _).symm.trans opened)
  cases held

end SuiteSync
