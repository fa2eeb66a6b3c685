import SuiteSync.Proofs.Disk.Access
import SuiteSync.Proofs.Sync.Copies
import SuiteSync.Sync.Drift

set_option autoImplicit false

namespace SuiteSync

open SuiteSync.Path

theorem leads_to_simple (name : String) (simple : Simple name) (rest : Location) :
    leadsTo name rest = true ↔ rest = [name] := by
  have component : innerComponent? name = some (.name name) := by
    unfold innerComponent?
    split
    · exact absurd rfl simple.named
    · exact absurd rfl simple.notHere
    · exact absurd rfl simple.notUp
    · rfl
  have whole : components name = [.name name] := by
    rw [components, segments_simple name simple]
    split
    · rename_i same
      exact absurd (List.cons.inj same).1 simple.named
    · rename_i same
      exact absurd (List.cons.inj same).1 simple.named
    · rename_i same
      exact absurd (List.cons.inj same).1 simple.notHere
    · rw [List.filterMap_cons_some component]
      rfl
  rw [leadsTo, whole, beq_iff_eq]
  constructor
  · intro same
    cases rest with
    | nil => cases same
    | cons first later =>
        obtain ⟨head, tail⟩ := List.cons.inj same
        rw [Component.name.inj head, List.map_eq_nil_iff.mp tail.symm]
  · rintro rfl
    rfl

theorem mem_stray_iff (disk : Disk) (config : Config) (simple : config.SimpleNames) (rest : Location) :
    rest ∈ strayFiles disk config ↔ disk.Holds config.downloadDir rest ∧
      rest ≠ [config.harness.versionFile] ∧ ∀ name ∈ config.files.names, rest ≠ [name] := by
  rw [strayFiles, List.mem_filter, Disk.mem_list_iff]
  refine and_congr_right fun _ => ?_
  rw [Bool.and_eq_true, Bool.not_eq_true', Bool.not_eq_true', ← Bool.not_eq_true, ← Bool.not_eq_true,
    leads_to_simple _ simple.marker, List.any_eq_true]
  refine and_congr_right fun _ => ?_
  constructor
  · intro none name member same
    exact none ⟨name, member, (leads_to_simple name (simple.files name member) rest).mpr same⟩
  · rintro none ⟨name, member, led⟩
    exact none name member ((leads_to_simple name (simple.files name member) rest).mp led)

theorem mem_stray (disk : Disk) (config : Config) (simple : config.SimpleNames) (base : Location)
    (opened : disk.target config.downloadDir = .ok (.directory base)) (rest : Location) :
    rest ∈ strayFiles disk config ↔ (rest ≠ [] ∧ ∃ bytes, disk.fileAt (base ++ rest) = some bytes) ∧
      rest ≠ [config.harness.versionFile] ∧ ∀ name ∈ config.files.names, rest ≠ [name] := by
  rw [mem_stray_iff disk config simple, ← Disk.mem_list_iff, Disk.mem_list disk config.downloadDir base opened]

theorem stray_ascending (disk : Disk) (config : Config) : (strayFiles disk config).Pairwise (· < ·) :=
  (disk.list_ascending config.downloadDir).filter _

theorem file_status_read (disk : Disk) (directory : String) (file : AdaptedFile) (bytes : ByteArray)
    (there : disk.node (join directory file.name) = .ok (.file bytes)) :
    fileStatus disk directory file =
      .ok (if checksum bytes.data.toList = checksum file.text.toUTF8.data.toList then .upToDate
        else .modified (checksum file.text.toUTF8.data.toList) (checksum bytes.data.toList)) := by
  obtain ⟨standing, read⟩ := Disk.read_file disk _ _ there
  rw [fileStatus]
  simp only [standing, read, if_true]

theorem file_status_fresh (disk : Disk) (directory : String) (file : AdaptedFile)
    (there : disk.node (join directory file.name) = .ok (.file file.text.toUTF8)) :
    fileStatus disk directory file = .ok .upToDate := by
  rw [file_status_read disk directory file _ there, if_pos rfl]

theorem file_status_checksum (disk : Disk) (directory : String) (file : AdaptedFile)
    (fresh : fileStatus disk directory file = .ok .upToDate) :
    ∃ bytes, disk.node (join directory file.name) = .ok (.file bytes) ∧
      checksum bytes.data.toList = checksum file.text.toUTF8.data.toList := by
  by_cases standing : disk.isFile (join directory file.name) = true
  · obtain ⟨bytes, there⟩ := (Disk.is_file_iff _ _).mp standing
    rw [file_status_read disk directory file bytes there] at fresh
    by_cases same : checksum bytes.data.toList = checksum file.text.toUTF8.data.toList
    · exact ⟨bytes, there, same⟩
    · rw [if_neg same] at fresh
      cases fresh
  · rw [fileStatus, if_neg standing] at fresh
    cases fresh

theorem file_statuses_fresh (disk : Disk) (directory : String) (files : List AdaptedFile) (link : Link)
    (fresh : ∀ file ∈ files, fileStatus disk directory file = .ok .upToDate) :
    ∃ left, fileStatuses disk directory files link = (.ok (files.map fun file => (file.name, .upToDate)), left) := by
  induction files generalizing link with
  | nil => exact ⟨link, rfl⟩
  | cons file later ih =>
      rw [List.forall_mem_cons] at fresh
      obtain ⟨left, rest⟩ := ih (link.note (.checked file.name FileStatus.upToDate.text)) fresh.2
      refine ⟨left, ?_⟩
      unfold fileStatuses
      rw [fresh.1]
      simp only [rest, List.map_cons]

theorem file_statuses_each (disk : Disk) (directory : String) (files : List AdaptedFile)
    (link : Link) (statuses : List (String × FileStatus)) (left : Link)
    (run : fileStatuses disk directory files link = (.ok statuses, left)) :
    List.Forall₂ (fun file entry => entry.1 = file.name ∧ fileStatus disk directory file = .ok entry.2) files statuses := by
  fun_induction fileStatuses disk directory files link generalizing statuses left with
  | case1 =>
      cases run
      exact .nil
  | case2 => cases run
  | case3 => cases run
  | case4 file later link status first statuses' left' made ih =>
      cases run
      exact .cons ⟨rfl, first⟩ (ih statuses' _ made)

theorem file_statuses_clean (disk : Disk) (directory : String) (files : List AdaptedFile)
    (statuses : List (String × FileStatus)) (link left : Link)
    (run : fileStatuses disk directory files link = (.ok statuses, left))
    (clean : ∀ entry ∈ statuses, entry.2 = .upToDate) :
    ∀ file ∈ files, fileStatus disk directory file = .ok .upToDate := by
  intro file member
  have each := file_statuses_each disk directory files link statuses left run
  obtain ⟨entry, inside, _, status⟩ := forall₂_partner _ _ _ each file member
  rw [status, clean entry inside]

theorem verify_steps (timing : Nat → Nat) (config : Config) (options : SyncOptions) (session left : Session)
    (drift : DriftReport) (run : verify timing config options session = (.ok drift, left)) :
    ∃ resolved asked files link statuses link',
      resolve config options.attempts (options.version.or (recordedVersion? session.disk config)) session.link =
        (.ok resolved, asked) ∧
      (Task.mk config resolved options.attempts).adaptAll options.parallel timing
        (asked.note (.verifying config.downloadDir resolved.version)) = (.ok files, link) ∧
      fileStatuses session.disk config.downloadDir files link = (.ok statuses, link') ∧
      drift = ⟨resolved.version, statuses, strayFiles session.disk config⟩ ∧ left = ⟨session.disk, link'⟩ := by
  rw [verify] at run
  dsimp only at run
  split at run
  · cases run
  · rename_i resolved asked settled
    split at run
    · cases run
    · rename_i files link adapted
      split at run
      · cases run
      · rename_i statuses link' compared
        cases run
        exact ⟨resolved, asked, files, link, statuses, link', settled, adapted, compared, rfl, rfl⟩

theorem verify_fresh (timing : Nat → Nat) (config : Config) (options : SyncOptions) (version : String)
    (replies : String → Reply) (files : List AdaptedFile) (disk : Disk) (link : Link)
    (copies : config.Copies version replies files) (serves : link.host.Serves config version replies)
    (fresh : ∀ file ∈ files, fileStatus disk config.downloadDir file = .ok .upToDate)
    (asked : options.version.or (recordedVersion? disk config) = some version) :
    ∃ left, verify timing config options ⟨disk, link⟩ =
      (.ok ⟨version, config.files.names.map (·, .upToDate), strayFiles disk config⟩, ⟨disk, left⟩) := by
  have named := copies_names config version replies files copies
  obtain ⟨left, adapted⟩ := adapt_all_again config version replies options.attempts options.parallel timing
    ((link.note (.versionPinned version)).note (.verifying config.downloadDir version)) files serves copies
  obtain ⟨left', compared⟩ := file_statuses_fresh disk config.downloadDir files left fresh
  have statuses : files.map (fun file => (file.name, FileStatus.upToDate)) = config.files.names.map (·, .upToDate) := by
    rw [← named, List.map_map]
    rfl
  refine ⟨left', ?_⟩
  rw [verify]
  simp only [asked, resolve_asked]
  have settled : (Resolved.pinned config version).version = version := rfl
  simp only [settled, adapted, compared, statuses]

theorem clean_iff (version : String) (names : List String) (stray : List Location) :
    DriftReport.isClean ⟨version, names.map (·, .upToDate), stray⟩ = true ↔ ∀ rest, rest ∉ stray := by
  simp [DriftReport.isClean, List.isEmpty_iff, List.eq_nil_iff_forall_not_mem]

end SuiteSync
