import SuiteSync.Proofs.Sync.Confinement

set_option autoImplicit false

namespace SuiteSync

open SuiteSync.Path

def Config.OwnCopy (config : Config) (version : String) (host : Host) (job : Job) (file : AdaptedFile) : Prop :=
  ∃ raw, host.Offers ((Resolved.pinned config version).fileUrl config job.name) raw ∧
    (Task.mk config (Resolved.pinned config version) usualAttempts).settle job raw = .ok file

theorem own_copy_name (config : Config) (version : String) (host : Host) (job : Job) (file : AdaptedFile)
    (own : config.OwnCopy version host job file) : file.name = job.name := by
  obtain ⟨raw, _, done⟩ := own
  exact Task.settle_name _ job raw file done

theorem adapt_all_own (config : Config) (version : String) (attempts parallel : Nat) (timing : Nat → Nat) (host : Host)
    (link left : Link) (files : List AdaptedFile) (offered : ∀ url raw, link.host.Offers url raw → host.Offers url raw)
    (run : (Task.mk config (Resolved.pinned config version) attempts).adaptAll parallel timing link = (.ok files, left)) :
    List.Forall₂ (config.OwnCopy version host) config.jobs files := by
  have steady := (Task.mk config (Resolved.pinned config version) attempts).steady_of_attempts config.jobs
    (fun later => ∀ url raw, later.Offers url raw → host.Offers url raw)
    (fun job result => ∀ file, result = .ok file → config.OwnCopy version host job file) host.offers_stable
    (fun _ _ link raw kept page file done => ⟨raw, kept _ raw (attempt_page _ raw link page), done⟩)
    (fun _ _ _ _ _ _ _ _ done => nomatch done)
  have ended := Task.adapt_all_ends _ _ _ steady parallel timing link offered
  rw [run] at ended
  exact ended.2.imp fun _ file own => own file rfl

theorem settled_own (config : Config) (resolved : Resolved) (attempts parallel : Nat) (version : Option String)
    (timing : Nat → Nat) (link asked left : Link) (note : Event) (files : List AdaptedFile)
    (settled : resolve config attempts version link = (.ok resolved, asked))
    (adapted : (Task.mk config resolved attempts).adaptAll parallel timing (asked.note note) = (.ok files, left)) :
    List.Forall₂ (config.OwnCopy resolved.version link.host) config.jobs files := by
  have offered : ∀ url raw, asked.host.Offers url raw → link.host.Offers url raw := by
    have kept := resolve_keeps _ link.host.offers_stable config attempts version link fun _ _ => id
    rwa [settled] at kept
  rw [resolve_pinned config attempts version link asked resolved settled] at adapted
  exact adapt_all_own config resolved.version attempts parallel timing link.host (asked.note note) left files offered
    adapted

-- Settings by whose text each output lies in the directory, at a location of its own.
structure Config.Tidy (config : Config) (working : Location) : Prop where
  below : ∀ path ∈ config.outputPaths, location working config.downloadDir <+: location working path
  apart : (config.outputPaths.map (location working)).Nodup

theorem simple_tidy (config : Config) (working : Location) (accepted : config.Accepted) (simple : config.SimpleNames) :
    config.Tidy working := by
  have filled := config.accepted_directory accepted
  refine ⟨fun path member => ?_, simple_distinct working config filled simple⟩
  have place := List.mem_map_of_mem (f := location working) member
  rw [simple_places working config filled simple] at place
  obtain ⟨name, _, same⟩ := List.mem_map.mp place
  exact same ▸ List.prefix_append _ _

-- A file of a disk that a sync neither writes nor takes away: there is no way to the directory, but the file lies
-- below where the directory will be.
structure Forgotten (config : Config) (disk : Disk) (place : Location) : Prop where
  lost : disk.target config.downloadDir = .error .notFound
  below : location disk.working config.downloadDir <+: place
  there : disk.fileAt place ≠ none
  noOutput : place ∉ config.outputPaths.map (location disk.working)

structure Delivered (config : Config) (files : List AdaptedFile) (report : SyncReport) (disk : Disk) : Prop where
  directory : disk.find? (location disk.working config.downloadDir) = some .directory
  below : ∀ output ∈ config.outputs report.version files,
    location disk.working config.downloadDir <+: location disk.working output.1
  apart : ((config.outputs report.version files).places disk.working).Nodup
  reads : ∀ output ∈ config.outputs report.version files, disk.node output.1 = .ok (.file output.2)
  sizes : ∀ synced ∈ report.files, ∃ bytes, disk.node synced.path = .ok (.file bytes) ∧ bytes.size = synced.size
  only : ∀ place, location disk.working config.downloadDir <+: place → disk.fileAt place ≠ none →
    place ∈ (config.outputs report.version files).places disk.working

theorem sync_filled (timing : Nat → Nat) (config : Config) (options : SyncOptions) (session left : Session)
    (report : SyncReport) (literal : config.Literal session.disk)
    (run : sync timing config options session = (.ok report, left)) :
    ∃ reset files, session.disk.reset config.downloadDir = (.ok (), reset) ∧
      List.Forall₂ (config.OwnCopy report.version session.link.host) config.jobs files ∧
      Filled (config.outputs report.version files) reset left.disk ∧
      report.files = files.map (AdaptedFile.synced config.downloadDir) := by
  obtain ⟨resolved, asked, reset, files, link, settled, emptied, adapted, wrote⟩ :=
    sync_steps timing config options session left report run
  obtain ⟨_, _, _, _, rfl⟩ := write_copies_steps config resolved files _ left report wrote
  have own := settled_own config resolved _ _ _ _ _ _ _ _ _ settled adapted
  have named := files_names config files (own.imp fun _ _ copy => own_copy_name _ _ _ _ _ copy)
  have straight := literal_reset config session.disk reset literal emptied
  exact ⟨reset, files, emptied, own, write_copies_filled config resolved files _ left _ named straight wrote, rfl⟩

theorem filled_reset (config : Config) (version : String) (files : List AdaptedFile) (disk reset left : Disk)
    (straight : disk.Straight config.downloadDir) (working : reset.working = disk.working)
    (named : files.map AdaptedFile.name = config.files.names)
    (emptied : disk.reset config.downloadDir = (.ok (), reset)) (filled : Filled (config.outputs version files) reset left)
    (place : Location) (below : location disk.working config.downloadDir <+: place) :
    (left.fileAt place ≠ none ∧ place ∉ (config.outputs version files).places disk.working) ↔ Forgotten config disk place := by
  obtain ⟨lost, cleared⟩ := disk.reset_files config.downloadDir straight reset emptied
  have elsewhere : place ∉ (config.outputs version files).places disk.working → left.fileAt place = reset.fileAt place := by
    intro noOutput
    rw [filled.files, working, Outputs.last_elsewhere _ _ _ noOutput, Option.none_or]
  rw [outputs_places disk.working config version files named] at elsewhere ⊢
  constructor
  · rintro ⟨there, noOutput⟩
    rw [elsewhere noOutput] at there
    -- Had the path led anywhere, the reset would have taken the file away.
    have way : disk.target config.downloadDir = .error .notFound := Classical.byContradiction fun led => by
      rw [cleared led, if_pos (List.isPrefixOf_iff_prefix.mpr below)] at there
      exact there rfl
    exact ⟨way, below, lost way place ▸ there, noOutput⟩
  · intro forgotten
    refine ⟨?_, forgotten.noOutput⟩
    rw [elsewhere forgotten.noOutput, lost forgotten.lost]
    exact forgotten.there

/-- A sync that succeeds made each file from a text of the file's own URL. It delivers the files and the marker, and
nothing else, exactly when the configured names keep them apart and inside the directory and no file that lay there
before was forgotten. -/
theorem sync_delivers (timing : Nat → Nat) (config : Config) (options : SyncOptions) (session left : Session)
    (report : SyncReport) (literal : config.Literal session.disk)
    (rooted : session.disk.find? session.disk.working = some .directory)
    (run : sync timing config options session = (.ok report, left)) :
    ∃ files, List.Forall₂ (config.OwnCopy report.version session.link.host) config.jobs files ∧
      report.files = files.map (AdaptedFile.synced config.downloadDir) ∧
      (Delivered config files report left.disk ↔
        config.Tidy session.disk.working ∧ ∀ place, ¬ Forgotten config session.disk place) := by
  obtain ⟨reset, files, emptied, own, filled, reported⟩ := sync_filled timing config options session left report literal run
  have named := files_names config files (own.imp fun _ _ copy => own_copy_name _ _ _ _ _ copy)
  have places := outputs_places session.disk.working config report.version files named
  have before := session.disk.reset_working config.downloadDir literal.directory reset emptied
  have others := filled_reset config report.version files session.disk reset left.disk literal.directory before named
    emptied filled
  have working : left.disk.working = session.disk.working := filled.firm.working.trans before
  refine ⟨files, own, reported, ?_⟩
  constructor
  · intro delivered
    have below := delivered.below
    have apart := delivered.apart
    have only := delivered.only
    rw [working] at below apart only
    refine ⟨⟨fun path member => ?_, places ▸ apart⟩, fun place forgotten => ?_⟩
    · have place := List.mem_map_of_mem (f := location session.disk.working) member
      rw [← places] at place
      obtain ⟨output, inside, same⟩ := List.mem_map.mp place
      exact same ▸ below output inside
    · obtain ⟨there, noOutput⟩ := (others place forgotten.below).mpr forgotten
      exact noOutput (only place forgotten.below there)
  · rintro ⟨tidy, none⟩
    have apart : ((config.outputs report.version files).places session.disk.working).Nodup := places ▸ tidy.apart
    have reads := filled_reads _ _ _ filled (before ▸ apart)
    have top := session.disk.reset_directory config.downloadDir literal.directory reset emptied rooted
    constructor
    · rw [working]
      exact filled.firm.directories _ top
    · intro output member
      rw [working]
      have place : location session.disk.working output.1 ∈ (config.outputs report.version files).places session.disk.working :=
        List.mem_map_of_mem member
      rw [places] at place
      obtain ⟨path, inside, same⟩ := List.mem_map.mp place
      exact same ▸ tidy.below path inside
    · rwa [working]
    · exact reads
    · intro synced member
      rw [reported] at member
      obtain ⟨file, inside, rfl⟩ := List.mem_map.mp member
      exact ⟨_, reads (file.output config.downloadDir) (List.mem_append_left _ (List.mem_map_of_mem inside)), rfl⟩
    · intro place below there
      rw [working] at below ⊢
      exact Classical.byContradiction fun noOutput => none place ((others place below).mp ⟨there, noOutput⟩)

theorem sample_delivered : ∃ files report left,
    sync id Config.sample sampleOptions ⟨linkedDisk "x".toUTF8, sampleLink⟩ = (.ok report, left) ∧
      Delivered Config.sample files report left.disk := by
  obtain ⟨report, left, run, _⟩ := sample_synced sampleOptions (linkedDisk "x".toUTF8) (by decide +kernel)
  obtain ⟨files, _, _, delivered⟩ :=
    sync_delivers id Config.sample sampleOptions ⟨linkedDisk "x".toUTF8, sampleLink⟩ left report (linked_literal _) rfl run
  refine ⟨files, report, left, run, delivered.mpr ⟨simple_tidy _ _ Config.sample_accepted sample_simple, ?_⟩⟩
  exact fun place forgotten => nomatch (linked_found _).symm.trans forgotten.lost

theorem marker_overwrites_file : ¬ ∀ (timing : Nat → Nat) (config : Config) (options : SyncOptions)
    (session left : Session) (report : SyncReport), config.Accepted → config.Literal session.disk →
    sync timing config options session = (.ok report, left) →
    ∃ files, List.Forall₂ (config.OwnCopy report.version session.link.host) config.jobs files ∧
      report.files = files.map (AdaptedFile.synced config.downloadDir) ∧ Delivered config files report left.disk := by
  intro general
  have succeeds : (sync id Config.loose sampleOptions ⟨Disk.empty, looseLink⟩).1.toOption.isSome = true := by
    decide +kernel
  cases run : sync id Config.loose sampleOptions ⟨Disk.empty, looseLink⟩ with
  | mk result left =>
      rw [run] at succeeds
      cases result with
      | error e => cases succeeds
      | ok report =>
          obtain ⟨files, own, _, delivered⟩ :=
            general id Config.loose sampleOptions _ left report Config.loose_accepted (empty_literal _) run
          have named := files_names _ files (own.imp fun _ _ copy => own_copy_name _ _ _ _ _ copy)
          have kept := (sync_stays_inside id Config.loose sampleOptions ⟨Disk.empty, looseLink⟩ (empty_literal _)).1.working
          rw [run] at kept
          have apart := delivered.apart
          rw [outputs_places _ _ _ files named, show left.disk.working = [] from kept] at apart
          exact absurd apart (by decide)

end SuiteSync
