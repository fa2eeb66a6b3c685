import SuiteSync.Proofs.Disk.Joining
import SuiteSync.Proofs.Disk.Passage

set_option autoImplicit false

namespace SuiteSync.Disk

open SuiteSync.Path

theorem file_join (disk : Disk) (directory name : String) (bytes : ByteArray) (simple : Simple name)
    (filled : directory ≠ "") (unlinked : disk.Unlinked name (disk.target directory)) :
    disk.node (join directory name) = .ok (.file bytes) ↔
      ∃ base, disk.target directory = .ok (.directory base) ∧ Fits directory name ∧ disk.fileAt (base ++ [name]) = some bytes := by
  have joined := fun found => target_join disk directory name simple filled found unlinked
  rw [node]
  constructor
  · intro there
    cases led : disk.target (join directory name) with
    | error e => rw [led] at there; cases there
    | ok target =>
        obtain ⟨base, opened, fits, same⟩ := (joined target).mp led
        refine ⟨base, opened, fits, (disk.file_at_iff _ _).mpr ?_⟩
        rw [led, same, standing] at there
        cases found : disk.find? (base ++ [name]) with
        | none => rw [found] at there; cases there
        | some node =>
            cases node with
            | directory | link path => rw [found] at there; cases there
            | file held =>
                simp only [found] at there
                cases there
                rfl
  · rintro ⟨base, opened, fits, there⟩
    have found := (disk.file_at_iff _ _).mp there
    have led := (joined _).mpr ⟨_, opened, fits, rfl⟩
    rw [standing, found] at led
    simp only [led, found]

def Held (disk : Disk) (directory name : String) (bytes : ByteArray) : Prop :=
  ∃ base, disk.target directory = .ok (.directory base) ∧ disk.fileAt (base ++ [name]) = some bytes

structure Direct (disk : Disk) (directory name : String) : Prop where
  fits : Fits directory name
  unlinked : disk.Unlinked name (disk.target directory)

theorem direct_file (disk : Disk) (directory name : String) (bytes : ByteArray) (simple : Simple name)
    (filled : directory ≠ "") (direct : disk.Direct directory name) :
    disk.node (join directory name) = .ok (.file bytes) ↔ disk.Held directory name bytes := by
  rw [disk.file_join directory name bytes simple filled direct.unlinked]
  exact exists_congr fun base => and_congr_right fun _ => and_iff_right direct.fits

theorem file_directory (disk : Disk) (directory name : String) (bytes : ByteArray) (simple : Simple name)
    (filled : directory ≠ "") (there : disk.node (join directory name) = .ok (.file bytes)) :
    ∃ base, disk.target directory = .ok (.directory base) := by
  cases led : disk.target (join directory name) with
  | error e =>
      rw [node, led] at there
      cases there
  | ok found => exact target_directory_join disk directory name simple filled found led

theorem straight_front (disk : Disk) (directory name : String) (simple : Simple name) (filled : directory ≠ "")
    (straight : disk.Straight (join directory name)) : disk.Straight directory := by
  intro place passes
  exact straight place (passes_onward disk.working directory name (simple_relative name simple) filled place passes)

theorem straight_unlinked (disk : Disk) (directory name : String) (simple : Simple name) (filled : directory ≠ "")
    (straight : disk.Straight (join directory name)) : disk.Unlinked name (disk.target directory) := by
  intro base led
  have same := target_location disk directory _ (straight_front disk directory name simple filled straight) led
  rw [show base = location disk.working directory from same, ← location_join disk.working directory name simple filled]
  exact straight _ (passes_end disk.working _)

theorem read_file (disk : Disk) (path : String) (bytes : ByteArray) (there : disk.node path = .ok (.file bytes)) :
    disk.isFile path = true ∧ disk.readBytes path = .ok bytes := by
  constructor
  · rw [isFile, there]
  · rw [readBytes, bytesAt, there]
    rfl

theorem is_file_iff (disk : Disk) (path : String) :
    disk.isFile path = true ↔ ∃ bytes, disk.node path = .ok (.file bytes) := by
  constructor
  · intro standing
    rw [isFile] at standing
    split at standing
    · rename_i bytes there
      exact ⟨bytes, there⟩
    · cases standing
  · rintro ⟨bytes, there⟩
    rw [isFile, there]

theorem read_text (disk : Disk) (path text : String) (bytes : ByteArray) (there : disk.node path = .ok (.file bytes))
    (valid : String.fromUTF8? bytes = some text) : disk.readText path = .ok text := by
  rw [readText, textAt, bytesAt, there]
  simp only [valid]
  rfl

theorem mem_list (disk : Disk) (directory : String) (base : Location) (opened : disk.target directory = .ok (.directory base))
    (rest : Location) :
    rest ∈ disk.list directory ↔ rest ≠ [] ∧ ∃ bytes, disk.fileAt (base ++ rest) = some bytes := by
  rw [list, opened]
  simp only [sortLocations, List.mem_mergeSort, filesBelow, List.mem_filterMap]
  constructor
  · rintro ⟨⟨place, node⟩, member, listed⟩
    cases node with
    | directory | link path => cases listed
    | file bytes =>
        simp only [Option.ite_none_right_eq_some, Option.some.injEq, isBelow, Bool.and_eq_true, bne_iff_ne] at listed
        obtain ⟨⟨below, different⟩, rfl⟩ := listed
        obtain ⟨more, rfl⟩ := List.isPrefixOf_iff_prefix.mp below
        have named : base ++ more ≠ [] := disk.wellFormed.named _ member
        rw [List.drop_left]
        refine ⟨?_, bytes, (disk.file_at_iff _ _).mpr ((disk.find_mem _ _ named).mpr member)⟩
        rintro rfl
        exact different (List.append_nil _).symm
  · rintro ⟨filled, bytes, there⟩
    have named : base ++ rest ≠ [] := List.append_ne_nil_of_right_ne_nil _ filled
    have member := (disk.find_mem _ _ named).mp ((disk.file_at_iff _ _).mp there)
    refine ⟨_, member, ?_⟩
    have different : base ≠ base ++ rest := fun same => filled (List.self_eq_append_right.mp same)
    simp [isBelow, different]

def Holds (disk : Disk) (directory : String) (rest : Location) : Prop :=
  rest ≠ [] ∧ ∃ base bytes, disk.target directory = .ok (.directory base) ∧ disk.fileAt (base ++ rest) = some bytes

theorem mem_list_iff (disk : Disk) (directory : String) (rest : Location) :
    rest ∈ disk.list directory ↔ disk.Holds directory rest := by
  constructor
  · intro listed
    have led : ∃ base, disk.target directory = .ok (.directory base) := by
      rw [list] at listed
      split at listed
      · rename_i base led
        exact ⟨base, led⟩
      · cases listed
    obtain ⟨base, opened⟩ := led
    obtain ⟨filled, bytes, there⟩ := (mem_list disk directory base opened rest).mp listed
    exact ⟨filled, _, bytes, opened, there⟩
  · rintro ⟨filled, base, bytes, opened, there⟩
    exact (mem_list disk directory base opened rest).mpr ⟨filled, bytes, there⟩

theorem files_below_nodup (disk : Disk) (directory : Location) : (disk.filesBelow directory).Nodup := by
  have distinct : disk.entries.Pairwise fun a b => a.1 ≠ b.1 := List.pairwise_map.mp disk.wellFormed.distinct
  refine distinct.filterMap _ ?_
  rintro ⟨a, node⟩ ⟨b, node'⟩ different rest first rest' second rfl
  cases node with
  | directory | link path => cases first
  | file bytes =>
      cases node' with
      | directory | link path => cases second
      | file bytes' =>
          simp only [Option.ite_none_right_eq_some, Option.some.injEq, isBelow, Bool.and_eq_true] at first second
          obtain ⟨⟨above, _⟩, cut⟩ := first
          obtain ⟨⟨above', _⟩, cut'⟩ := second
          obtain ⟨more, rfl⟩ := List.isPrefixOf_iff_prefix.mp above
          obtain ⟨more', rfl⟩ := List.isPrefixOf_iff_prefix.mp above'
          rw [List.drop_left] at cut cut'
          exact different (cut.trans cut'.symm ▸ rfl)

theorem sort_locations_ascending (locations : List Location) (distinct : locations.Nodup) :
    (sortLocations locations).Pairwise (· < ·) := by
  have sorted : (sortLocations locations).Pairwise fun a b => (!decide (b < a)) = true := by
    refine List.pairwise_mergeSort (fun a b c first second => ?_) (fun a b => ?_) locations
    · simp only [Bool.not_eq_true', decide_eq_false_iff_not, List.not_lt] at first second ⊢
      exact List.le_trans first second
    · simp only [Bool.or_eq_true, Bool.not_eq_true', decide_eq_false_iff_not, List.not_lt]
      exact List.le_total a b
  have nodup : (sortLocations locations).Nodup := (List.mergeSort_perm locations _).nodup_iff.mpr distinct
  refine (sorted.and nodup).imp ?_
  rintro a b ⟨ordered, different⟩
  simp only [Bool.not_eq_true', decide_eq_false_iff_not] at ordered
  by_cases less : a < b
  · exact less
  · exact absurd (List.le_antisymm (List.not_lt.mp ordered) (List.not_lt.mp less)) different

theorem list_ascending (disk : Disk) (directory : String) : (disk.list directory).Pairwise (· < ·) := by
  rw [list]
  split
  · exact sort_locations_ascending _ (disk.files_below_nodup _)
  · exact .nil

end SuiteSync.Disk
