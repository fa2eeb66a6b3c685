import SuiteSync.Proofs.Disk.Access
import SuiteSync.Proofs.Disk.Reset
import SuiteSync.Proofs.Settings
import SuiteSync.Proofs.Sync.Outputs
import SuiteSync.Proofs.Sync.Pool

set_option autoImplicit false

namespace SuiteSync

open SuiteSync.Path

structure Config.SimpleNames (config : Config) : Prop where
  files : ∀ name ∈ config.files.names, Simple name
  marker : Simple config.harness.versionFile
  apart : config.harness.versionFile ∉ config.files.names

-- A disk on which paths lead where their text says: no link stands on the way of the directory, and the ways of
-- the outputs meet links in a directory only that is found, where the reset takes them away.
structure Config.Literal (config : Config) (disk : Disk) : Prop where
  directory : disk.Straight config.downloadDir
  outputs : ∀ path ∈ config.outputPaths, ∀ place, Passes disk.working path place → ∀ other, disk.find? place = some (.link other) →
    location disk.working config.downloadDir <+: place ∧ disk.target config.downloadDir ≠ .error .notFound

theorem linkless_literal (config : Config) (disk : Disk) (linkless : ∀ entry ∈ disk.entries, ∀ other, entry.2 ≠ .link other) :
    config.Literal disk := by
  have unlinked : ∀ place other, disk.find? place ≠ some (.link other) := by
    intro place other link
    have named : place ≠ [] := by
      rintro rfl
      cases link
    exact linkless _ ((disk.find_mem place _ named).mp link) other rfl
  exact ⟨fun place _ other => unlinked place other, fun _ _ place _ other link => absurd link (unlinked place other)⟩

theorem literal_reset (config : Config) (disk reset : Disk) (literal : config.Literal disk)
    (emptied : disk.reset config.downloadDir = (.ok (), reset)) : ∀ path ∈ config.outputPaths, reset.Straight path := by
  have kept := disk.reset_kept config.downloadDir literal.directory
  rw [emptied] at kept
  intro path member place passes other link
  have before := kept.links place other link
  obtain ⟨below, found⟩ := literal.outputs path member place (kept.working ▸ passes) other before
  have off : ¬ Passes disk.working config.downloadDir place := fun on => literal.directory place on other before
  rw [(disk.reset_below _ literal.directory reset emptied place below off).2 found] at link
  cases link

theorem simple_literal (config : Config) (disk : Disk) (filled : config.downloadDir ≠ "") (simple : config.SimpleNames)
    (straight : disk.Straight config.downloadDir) (found : disk.target config.downloadDir ≠ .error .notFound) :
    config.Literal disk := by
  refine ⟨straight, fun path member place passes other link => ⟨?_, found⟩⟩
  obtain ⟨name, inside, rfl⟩ := List.mem_map.mp member
  have component : Simple name := by
    rcases List.mem_append.mp inside with file | marker
    · exact simple.files name file
    · exact List.mem_singleton.mp marker ▸ simple.marker
  rcases passes_join disk.working _ name (simple_relative name component) filled place passes with on | ⟨front, whole, rfl⟩
  · exact absurd link (straight place on other)
  · rw [segments_simple name component] at whole
    exact leads_down _ front fun up => component.notUp (List.mem_singleton.mp (whole.subset up)).symm

structure Synced (config : Config) (version : String) (files : List AdaptedFile) (before after : Disk) : Prop where
  working : after.working = before.working
  straight : ∀ path ∈ config.outputPaths, after.Straight path
  opened : after.target config.downloadDir = .ok (.directory (location before.working config.downloadDir))
  copies : ∀ file ∈ files, after.fileAt (location before.working config.downloadDir ++ [file.name]) = some file.text.toUTF8
  marker : after.fileAt (location before.working config.downloadDir ++ [config.harness.versionFile]) =
    some (Marker.ofVersion config version).render.toUTF8
  others : ∀ other, other ≠ location before.working config.downloadDir ++ [config.harness.versionFile] →
    (∀ file ∈ files, other ≠ location before.working config.downloadDir ++ [file.name]) → after.fileAt other = before.fileAt other
  fits : ∀ file ∈ files, Disk.Fits config.downloadDir file.name
  markerFits : Disk.Fits config.downloadDir config.harness.versionFile

theorem simple_places (working : Location) (config : Config) (filled : config.downloadDir ≠ "") (simple : config.SimpleNames) :
    config.outputPaths.map (location working) = (config.files.names ++ [config.harness.versionFile]).map
      fun name => location working config.downloadDir ++ [name] := by
  rw [Config.outputPaths, List.map_map]
  refine List.map_congr_left fun name member => location_join _ _ _ ?_ filled
  rcases List.mem_append.mp member with file | marker
  · exact simple.files name file
  · exact List.mem_singleton.mp marker ▸ simple.marker

theorem simple_distinct (working : Location) (config : Config) (filled : config.downloadDir ≠ "") (simple : config.SimpleNames) :
    (config.outputPaths.map (location working)).Nodup := by
  rw [simple_places working config filled simple]
  have apart : (config.files.names ++ [config.harness.versionFile]).Nodup := by
    refine List.nodup_append.mpr ⟨config.files.names_nodup, List.pairwise_singleton _ _,
      fun name member other marker same => ?_⟩
    exact simple.apart (List.mem_singleton.mp marker ▸ same ▸ member)
  refine List.pairwise_map.mpr (apart.imp fun different same => different ?_)
  exact (List.cons.inj (List.append_cancel_left same)).1

theorem file_path (config : Config) (name : String) (configured : name ∈ config.files.names) :
    join config.downloadDir name ∈ config.outputPaths :=
  List.mem_map_of_mem (List.mem_append_left _ configured)

theorem marker_path (config : Config) : join config.downloadDir config.harness.versionFile ∈ config.outputPaths :=
  List.mem_map_of_mem (List.mem_append_right _ (List.mem_singleton_self _))

theorem straight_file (disk : Disk) (directory name : String) (bytes : ByteArray) (simple : Simple name)
    (filled : directory ≠ "") (straight : disk.Straight (join directory name)) :
    disk.node (join directory name) = .ok (.file bytes) ↔
      disk.target directory = .ok (.directory (location disk.working directory)) ∧ Disk.Fits directory name ∧
        disk.fileAt (location disk.working directory ++ [name]) = some bytes := by
  rw [disk.file_join directory name bytes simple filled (disk.straight_unlinked directory name simple filled straight)]
  constructor
  · rintro ⟨base, opened, held⟩
    have same := disk.target_location directory _ (disk.straight_front directory name simple filled straight) opened
    obtain rfl : base = location disk.working directory := same
    exact ⟨opened, held⟩
  · exact fun held => ⟨_, held⟩

theorem write_copies_synced (config : Config) (resolved : Resolved) (files : List AdaptedFile) (session left : Session)
    (report : SyncReport) (filled : config.downloadDir ≠ "") (simple : config.SimpleNames)
    (named : files.map AdaptedFile.name = config.files.names)
    (straight : ∀ path ∈ config.outputPaths, session.disk.Straight path)
    (run : writeCopies config resolved files session = (.ok report, left)) :
    Synced config resolved.version files session.disk left.disk := by
  have after := write_copies_filled config resolved files session left report named straight run
  have straight' := fun path member => filled_straight _ _ _ path after (straight path member)
  have places := outputs_places session.disk.working config resolved.version files named
  have reads := filled_reads _ _ _ after (places ▸ simple_distinct _ config filled simple)
  have member : ∀ file ∈ files, file.name ∈ config.files.names := fun file inside => named ▸ List.mem_map_of_mem inside
  have lies : ∀ name bytes, Simple name → join config.downloadDir name ∈ config.outputPaths →
      left.disk.node (join config.downloadDir name) = .ok (.file bytes) →
      left.disk.target config.downloadDir = .ok (.directory (location session.disk.working config.downloadDir)) ∧
        Disk.Fits config.downloadDir name ∧
        left.disk.fileAt (location session.disk.working config.downloadDir ++ [name]) = some bytes := by
    intro name bytes component output read
    rw [← after.firm.working]
    exact (straight_file left.disk _ name bytes component filled (straight' _ output)).mp read
  have copies : ∀ file ∈ files, Disk.Fits config.downloadDir file.name ∧
      left.disk.fileAt (location session.disk.working config.downloadDir ++ [file.name]) = some file.text.toUTF8 := by
    intro file inside
    have configured := member file inside
    have read := reads (file.output config.downloadDir) (List.mem_append_left _ (List.mem_map_of_mem inside))
    exact (lies file.name _ (simple.files _ configured) (file_path config _ configured) read).2
  have read := reads (config.markerOutput resolved.version) (List.mem_append_right _ (List.mem_singleton_self _))
  obtain ⟨opened, markerFits, marker⟩ := lies _ _ simple.marker (marker_path config) read
  refine ⟨after.firm.working, straight', opened, fun file inside => (copies file inside).2, marker,
    fun other noMarker noCopy => ?_, fun file inside => (copies file inside).1, markerFits⟩
  rw [after.files, Outputs.last_elsewhere, Option.none_or]
  rw [places, simple_places _ config filled simple, List.map_append, List.mem_append, ← named, List.map_map, List.mem_map]
  rintro (⟨file, inside, same⟩ | last)
  · exact noCopy file inside same.symm
  · exact noMarker (List.mem_singleton.mp last)

theorem answer_name (task : Task) (reply : Reply) (job : Job) (file : AdaptedFile) (done : task.answer reply job = .ok file) :
    file.name = job.name := by
  rw [Task.answer] at done
  split at done
  · exact task.settle_name job _ file done
  · cases done

def Config.copy (config : Config) (version : String) (replies : String → Reply) (job : Job) : Except SyncError AdaptedFile :=
  (Task.mk config (Resolved.pinned config version) usualAttempts).answer (replies job.name) job

def Config.Copies (config : Config) (version : String) (replies : String → Reply) (files : List AdaptedFile) : Prop :=
  List.Forall₂ (fun job file => config.copy version replies job = .ok file) config.jobs files

def Host.Serves (host : Host) (config : Config) (version : String) (replies : String → Reply) : Prop :=
  ∀ name ∈ config.files.names, host.Gives ((Resolved.pinned config version).fileUrl config name) (replies name)

theorem job_name (config : Config) (job : Job) (member : job ∈ config.jobs) : job.name ∈ config.files.names := by
  obtain ⟨entry, inside, rfl⟩ := List.mem_map.mp member
  exact List.mem_map_of_mem inside

theorem files_names (config : Config) (files : List AdaptedFile)
    (pairs : List.Forall₂ (fun job file => file.name = job.name) config.jobs files) :
    files.map AdaptedFile.name = config.files.names := by
  have jobs : config.jobs.map Job.name = config.files.names := by
    rw [Config.jobs, List.map_map]
    rfl
  rw [← jobs]
  generalize config.jobs = jobs at pairs
  induction pairs with
  | nil => rfl
  | cons first later ih => rw [List.map_cons, List.map_cons, ih, first]

theorem copies_names (config : Config) (version : String) (replies : String → Reply) (files : List AdaptedFile)
    (copies : config.Copies version replies files) : files.map AdaptedFile.name = config.files.names :=
  files_names config files (copies.imp fun _ _ done => answer_name _ _ _ _ done)

theorem answer_copy (config : Config) (version : String) (replies : String → Reply) (attempts : Nat) (job : Job) :
    (Task.mk config (Resolved.pinned config version) attempts).answer (replies job.name) job =
      config.copy version replies job := by
  rw [Config.copy, Task.answer, Task.answer]
  cases Attempt.ending ((Resolved.pinned config version).fileUrl config job.name) (replies job.name) with
  | page raw => rfl
  | failed transient error => rfl

theorem serves_ends (config : Config) (version : String) (replies : String → Reply) (attempts parallel : Nat)
    (timing : Nat → Nat) (link : Link) (serves : link.host.Serves config version replies) :
    Task.Ends config.jobs (Task.Answered ⟨config, Resolved.pinned config version, attempts⟩ replies)
      (fun job result => result = config.copy version replies job)
      ((Task.mk config (Resolved.pinned config version) attempts).adaptAll parallel timing link) := by
  have steady := Task.answered_steady ⟨config, Resolved.pinned config version, attempts⟩ replies
  simp only [answer_copy] at steady
  exact Task.adapt_all_ends _ _ _ steady parallel timing link fun job member => serves job.name (job_name config job member)

theorem adapt_all_copied (config : Config) (version : String) (replies : String → Reply) (attempts parallel : Nat)
    (timing : Nat → Nat) (link left : Link) (files : List AdaptedFile) (serves : link.host.Serves config version replies)
    (run : (Task.mk config (Resolved.pinned config version) attempts).adaptAll parallel timing link = (.ok files, left)) :
    config.Copies version replies files := by
  have ended := serves_ends config version replies attempts parallel timing link serves
  rw [run] at ended
  exact ended.2.imp fun _ _ done => done.symm

theorem copies_unique (config : Config) (version : String) (replies : String → Reply) (files others : List AdaptedFile)
    (copies : config.Copies version replies files) (again : config.Copies version replies others) : others = files :=
  List.right_unique_forall₂' (fun _ _ _ first second => Except.ok.inj (first.symm.trans second)) again copies

theorem forall₂_partner {α β : Type} (related : α → β → Prop) (firsts : List α) (seconds : List β)
    (pairs : List.Forall₂ related firsts seconds) (first : α) (member : first ∈ firsts) :
    ∃ second ∈ seconds, related first second := by
  induction pairs with
  | nil => cases member
  | cons pair later ih =>
      rcases List.mem_cons.mp member with rfl | member
      · exact ⟨_, List.mem_cons_self, pair⟩
      · obtain ⟨second, inside, pair⟩ := ih member
        exact ⟨second, List.mem_cons_of_mem _ inside, pair⟩

theorem adapt_all_again (config : Config) (version : String) (replies : String → Reply) (attempts parallel : Nat)
    (timing : Nat → Nat) (link : Link) (files : List AdaptedFile) (serves : link.host.Serves config version replies)
    (copies : config.Copies version replies files) :
    ∃ left, (Task.mk config (Resolved.pinned config version) attempts).adaptAll parallel timing link = (.ok files, left) := by
  have ended := serves_ends config version replies attempts parallel timing link serves
  cases run : (Task.mk config (Resolved.pinned config version) attempts).adaptAll parallel timing link with
  | mk result left =>
      rw [run] at ended
      cases result with
      | ok others =>
          have same := copies_unique config version replies files others copies (ended.2.imp fun _ _ done => done.symm)
          exact ⟨left, by rw [same]⟩
      | error error =>
          -- The copy of every job exists, so none can have failed.
          obtain ⟨_, job, member, failed⟩ := ended
          obtain ⟨file, _, done⟩ := forall₂_partner _ _ _ copies job member
          exact nomatch failed.trans done

theorem sync_steps (timing : Nat → Nat) (config : Config) (options : SyncOptions) (session left : Session)
    (report : SyncReport) (run : sync timing config options session = (.ok report, left)) :
    ∃ resolved asked reset files link,
      resolve config options.attempts options.version session.link = (.ok resolved, asked) ∧
      session.disk.reset config.downloadDir = (.ok (), reset) ∧
      (Task.mk config resolved options.attempts).adaptAll options.parallel timing
        (asked.note (.syncStarted config.files.size resolved.version)) = (.ok files, link) ∧
      writeCopies config resolved files ⟨reset, link⟩ = (.ok report, left) := by
  rw [sync] at run
  split at run
  · cases run
  · rename_i resolved asked settled
    rw [syncAt] at run
    split at run
    · cases run
    · rename_i reset emptied
      split at run
      · cases run
      · rename_i files link adapted
        exact ⟨resolved, asked, reset, files, link, settled, emptied, adapted, run⟩

theorem sync_synced (timing : Nat → Nat) (config : Config) (options : SyncOptions) (session left : Session)
    (report : SyncReport) (replies : String → Reply) (accepted : config.Accepted) (simple : config.SimpleNames)
    (literal : config.Literal session.disk) (serves : session.link.host.Serves config report.version replies)
    (run : sync timing config options session = (.ok report, left)) :
    ∃ reset files, session.disk.reset config.downloadDir = (.ok (), reset) ∧
      config.Copies report.version replies files ∧ Synced config report.version files reset left.disk := by
  obtain ⟨resolved, asked, reset, files, link, settled, emptied, adapted, wrote⟩ :=
    sync_steps timing config options session left report run
  have filled := config.accepted_directory accepted
  have kept : ∀ url reply, session.link.host.Gives url reply → asked.host.Gives url reply := by
    intro url reply gives
    have after := resolve_keeps _ (Host.gives_stable url reply) config options.attempts options.version session.link gives
    rwa [settled] at after
  obtain ⟨_, _, _, _, reported⟩ := write_copies_steps config resolved files _ left report wrote
  have version : report.version = resolved.version := congrArg SyncReport.version reported
  have pinned := resolve_pinned config options.attempts options.version session.link asked resolved settled
  rw [← version] at pinned
  rw [pinned] at adapted
  have copies := adapt_all_copied config report.version replies options.attempts options.parallel timing
    (asked.note (.syncStarted config.files.size (Resolved.pinned config report.version).version)) link files
    (fun name member => kept _ _ (serves name member)) adapted
  have synced := write_copies_synced config resolved files ⟨reset, link⟩ left report filled simple
    (copies_names config report.version replies files copies) (literal_reset config session.disk reset literal emptied) wrote
  exact ⟨reset, files, emptied, copies, version ▸ synced⟩

end SuiteSync
