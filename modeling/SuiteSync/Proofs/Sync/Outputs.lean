import SuiteSync.Proofs.Disk.Writing
import SuiteSync.Sync.Basic

set_option autoImplicit false

namespace SuiteSync

open SuiteSync.Path

abbrev Outputs := List (String × ByteArray)

namespace Outputs

section Working

variable (working : Location)

def last? : Outputs → Location → Option ByteArray
  | [], _ => none
  | output :: later, place => (last? later place).or (if location working output.1 = place then some output.2 else none)

def places (outputs : Outputs) : List Location := outputs.map fun output => location working output.1

theorem last_append (front back : Outputs) (place : Location) :
    last? working (front ++ back) place = (last? working back place).or (last? working front place) := by
  induction front with
  | nil => rw [List.nil_append, last?, Option.or_none]
  | cons output rest ih => rw [List.cons_append, last?, ih, last?, Option.or_assoc]

theorem last_elsewhere (outputs : Outputs) (place : Location) (elsewhere : place ∉ outputs.places working) :
    last? working outputs place = none := by
  induction outputs with
  | nil => rfl
  | cons output rest ih =>
      rw [places, List.map_cons, List.mem_cons, not_or] at elsewhere
      obtain ⟨here, later⟩ := elsewhere
      rw [last?, ih later, if_neg (Ne.symm here), Option.or_none]

theorem last_distinct (outputs : Outputs) (distinct : (outputs.places working).Nodup) (output : String × ByteArray)
    (member : output ∈ outputs) : last? working outputs (location working output.1) = some output.2 := by
  induction outputs with
  | nil => cases member
  | cons first rest ih =>
      rw [places, List.map_cons, List.nodup_cons] at distinct
      obtain ⟨fresh, later⟩ := distinct
      rw [last?]
      rcases List.mem_cons.mp member with rfl | inside
      · rw [last_elsewhere working rest _ fresh, if_pos rfl, Option.none_or]
      · rw [ih later inside, Option.some_or]

end Working

end Outputs

structure Filled (outputs : Outputs) (before after : Disk) : Prop where
  firm : Disk.Firm before after
  links : ∀ place path, after.find? place = some (.link path) → before.find? place = some (.link path)
  files : ∀ place, after.fileAt place = (outputs.last? before.working place).or (before.fileAt place)
  reads : ∀ output ∈ outputs, ∀ (later : Disk) (held : ByteArray), Disk.Firm after later →
    later.fileAt (location before.working output.1) = some held → later.node output.1 = .ok (.file held)

theorem filled_nil (disk : Disk) : Filled [] disk disk :=
  ⟨Disk.firm_refl disk, fun _ _ => id, fun _ => rfl, List.forall_mem_nil _⟩

theorem filled_straight (outputs : Outputs) (before after : Disk) (path : String) (filled : Filled outputs before after)
    (straight : before.Straight path) : after.Straight path :=
  fun place passes other link => straight place (filled.firm.working ▸ passes) other (filled.links place other link)

theorem write_text_filled (disk written : Disk) (path text : String) (straight : disk.Straight path)
    (run : disk.writeText path text = (.ok (), written)) : Filled [(path, text.toUTF8)] disk written := by
  have saved := disk.write_text_saved path straight written text run
  have kept := disk.write_text_kept path straight text
  rw [run] at kept
  refine ⟨saved.firm, kept.links, fun place => ?_, List.forall_mem_singleton.mpr saved.reads⟩
  rw [saved.files, Outputs.last?, Outputs.last?, Option.none_or]
  by_cases here : place = location disk.working path
  · rw [if_pos here, if_pos here.symm, Option.some_or]
  · rw [if_neg here, if_neg (Ne.symm here), Option.none_or]

theorem filled_append (front back : Outputs) (before middle after : Disk) (one : Filled front before middle)
    (two : Filled back middle after) : Filled (front ++ back) before after := by
  have files := two.files
  have reads := two.reads
  rw [one.firm.working] at files reads
  refine ⟨Disk.firm_trans _ _ _ one.firm two.firm, fun place path link => one.links place path (two.links place path link),
    fun place => ?_, fun output member later held firm there => ?_⟩
  · rw [files, one.files, Outputs.last_append, Option.or_assoc]
  · rcases List.mem_append.mp member with inside | inside
    · exact one.reads output inside later held (Disk.firm_trans _ _ _ two.firm firm) there
    · exact reads output inside later held firm there

theorem filled_reads (outputs : Outputs) (before after : Disk) (filled : Filled outputs before after)
    (distinct : (outputs.places before.working).Nodup) (output : String × ByteArray) (member : output ∈ outputs) :
    after.node output.1 = .ok (.file output.2) := by
  apply filled.reads output member after output.2 (Disk.firm_refl after)
  rw [filled.files, Outputs.last_distinct before.working outputs distinct output member, Option.some_or]

def AdaptedFile.output (directory : String) (file : AdaptedFile) : String × ByteArray :=
  (join directory file.name, file.text.toUTF8)

def AdaptedFile.synced (directory : String) (file : AdaptedFile) : SyncedFile :=
  ⟨file.name, join directory file.name, file.text.utf8ByteSize, file.skipped⟩

def Config.markerOutput (config : Config) (version : String) : String × ByteArray :=
  (join config.downloadDir config.harness.versionFile, (Marker.ofVersion config version).render.toUTF8)

def Config.outputs (config : Config) (version : String) (files : List AdaptedFile) : Outputs :=
  files.map (AdaptedFile.output config.downloadDir) ++ [config.markerOutput version]

def Config.outputPaths (config : Config) : List String :=
  (config.files.names ++ [config.harness.versionFile]).map (join config.downloadDir)

theorem outputs_paths (config : Config) (version : String) (files : List AdaptedFile)
    (named : files.map AdaptedFile.name = config.files.names) :
    (config.outputs version files).map Prod.fst = config.outputPaths := by
  rw [Config.outputs, Config.outputPaths, ← named, List.map_append, List.map_map, List.map_append, List.map_map]
  rfl

theorem outputs_places (working : Location) (config : Config) (version : String) (files : List AdaptedFile)
    (named : files.map AdaptedFile.name = config.files.names) :
    (config.outputs version files).places working = config.outputPaths.map (location working) := by
  rw [← outputs_paths config version files named, List.map_map]
  rfl

theorem write_files_synced (directory : String) (files : List AdaptedFile) (written : List SyncedFile)
    (session left : Session) (run : writeFiles directory files session = (.ok written, left)) :
    written = files.map (AdaptedFile.synced directory) := by
  fun_induction writeFiles directory files session generalizing written left with
  | case1 session =>
      cases run
      rfl
  | case2 | case3 => cases run
  | case4 file later session path disk saved written' left' made ih =>
      cases run
      rw [ih written' _ made]
      rfl

theorem write_files_filled (directory : String) (files : List AdaptedFile) (written : List SyncedFile)
    (session left : Session) (straight : ∀ file ∈ files, session.disk.Straight (join directory file.name))
    (run : writeFiles directory files session = (.ok written, left)) :
    Filled (files.map (AdaptedFile.output directory)) session.disk left.disk := by
  fun_induction writeFiles directory files session generalizing written left with
  | case1 session =>
      cases run
      exact filled_nil _
  | case2 | case3 => cases run
  | case4 file later session path disk saved written' left' made ih =>
      cases run
      obtain ⟨here, others⟩ := List.forall_mem_cons.mp straight
      have first := write_text_filled session.disk disk path file.text here saved
      have rest := ih written' _ (fun file member => filled_straight _ _ _ _ first (others file member)) made
      exact filled_append _ _ _ _ _ first rest

theorem write_copies_steps (config : Config) (resolved : Resolved) (files : List AdaptedFile) (session left : Session)
    (report : SyncReport) (run : writeCopies config resolved files session = (.ok report, left)) :
    ∃ written middle, writeFiles config.downloadDir files session = (.ok written, middle) ∧
      middle.disk.writeText (join config.downloadDir config.harness.versionFile)
        (Marker.ofVersion config resolved.version).render = (.ok (), left.disk) ∧
      report = ⟨resolved.version, resolved.baseUrl, files.map (AdaptedFile.synced config.downloadDir),
        join config.downloadDir config.harness.versionFile⟩ := by
  fun_cases writeCopies config resolved files session with
  | case1 error left' made => simp [writeCopies, made] at run
  | case2 written middle made path error disk saved => simp [writeCopies, made, path, saved] at run
  | case3 written middle made path disk saved =>
      simp only [writeCopies, made, path, saved] at run
      cases run
      exact ⟨written, middle, made, saved, by rw [write_files_synced _ _ _ _ _ made]⟩

theorem write_copies_filled (config : Config) (resolved : Resolved) (files : List AdaptedFile) (session left : Session)
    (report : SyncReport) (named : files.map AdaptedFile.name = config.files.names)
    (straight : ∀ path ∈ config.outputPaths, session.disk.Straight path)
    (run : writeCopies config resolved files session = (.ok report, left)) :
    Filled (config.outputs resolved.version files) session.disk left.disk := by
  obtain ⟨written, middle, made, saved, _⟩ := write_copies_steps config resolved files session left report run
  rw [Config.outputPaths, List.forall_mem_map, List.forall_mem_append, List.forall_mem_singleton] at straight
  have copies := write_files_filled config.downloadDir files written session middle
    (fun file member => straight.1 file.name (named ▸ List.mem_map_of_mem member)) made
  exact filled_append _ _ _ _ _ copies (write_text_filled _ _ _ _ (filled_straight _ _ _ _ copies straight.2) saved)

end SuiteSync
