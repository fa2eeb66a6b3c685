import SuiteSync.Proofs.Disk.Walking

set_option autoImplicit false

namespace SuiteSync.Disk

open SuiteSync.Path

def standing (disk : Disk) (location : Location) : Target :=
  match disk.find? location with
  | some .directory => .directory location
  | some (.file _) => .file location false
  | some (.link _) => .link location false
  | none => .missing location false

section Joining

variable (disk : Disk) (name : String) (simple : Simple name)

def Unlinked (run : Except Refusal Target) : Prop :=
  ∀ base, run = .ok (.directory base) → ∀ path, disk.find? (base ++ [name]) ≠ some (.link path)

include simple

theorem walk_last_opened (behind : Location → String → String → List String → Except Refusal Target) (here : Location)
    (found : Target) (run : disk.walk behind here [name] = .ok found) : disk.find? here = some .directory := by
  rw [walk.eq_2, if_neg (not_or.mpr ⟨simple.named, simple.notHere⟩), if_neg simple.notUp] at run
  cases there : disk.find? (here ++ [name]) with
  | some node =>
      have above := disk.find_above _ node there
      rwa [List.dropLast_concat] at above
  | none =>
      simp only [there] at run
      split at run
      · cases run
      · split at run
        · rename_i free
          have above := free.2.2
          rwa [List.dropLast_concat] at above
        · cases run

theorem walk_last (behind : Location → String → String → List String → Except Refusal Target) (here : Location)
    (found : Target) (opened : disk.find? here = some .directory)
    (unlinked : ∀ path, disk.find? (here ++ [name]) ≠ some (.link path)) :
    disk.walk behind here [name] = .ok found ↔ name.utf8ByteSize ≤ nameLimit ∧ found = disk.standing (here ++ [name]) := by
  rw [walk.eq_2, if_neg (not_or.mpr ⟨simple.named, simple.notHere⟩), if_neg simple.notUp]
  by_cases long : nameLimit < name.utf8ByteSize
  · simp [if_pos long, Nat.not_le.mpr long]
  · rw [if_neg long]
    have short := Nat.not_lt.mp long
    cases there : disk.find? (here ++ [name]) with
    | none => simp [opened, Free, there, standing, short, eq_comm]
    | some node =>
        cases node with
        | link path => exact absurd there (unlinked path)
        | directory | file bytes => simp [walk, there, standing, short, eq_comm]

-- What holds of a walk with a name behind it and of the walk without: it is enough that it holds at the last step,
-- behind each link, and where the first fails and the second finds no directory.
theorem walk_induction (behind : Location → String → String → List String → Except Refusal Target)
    (holds : Except Refusal Target → Except Refusal Target → Prop)
    (lost : ∀ refusal run, (∀ base, run ≠ .ok (.directory base)) → holds (.error refusal) run)
    (last : ∀ here, holds (disk.walk behind here [name]) (disk.walk behind here []))
    (beyond : ∀ here segment path rest, holds (behind here segment path (rest ++ [name])) (behind here segment path rest))
    (here : Location) (front : List String) : holds (disk.walk behind here (front ++ [name])) (disk.walk behind here front) := by
  induction front generalizing here with
  | nil => exact last here
  | cons segment rest ih =>
      -- A name follows, so the segment has to be a directory.
      have filled : (rest ++ [name]).all String.isEmpty = false := by simp [simple.named]
      rw [List.cons_append, walk, walk]
      by_cases skipped : segment = "" ∨ segment = "."
      · rw [if_pos skipped, if_pos skipped]
        exact ih here
      · rw [if_neg skipped, if_neg skipped]
        by_cases up : segment = ".."
        · rw [if_pos up, if_pos up]
          exact ih _
        · rw [if_neg up, if_neg up]
          by_cases long : nameLimit < segment.utf8ByteSize
          · rw [if_pos long, if_pos long]
            exact lost _ _ fun _ impossible => by cases impossible
          · rw [if_neg long, if_neg long]
            simp only [filled, Bool.false_eq_true, false_and, if_false]
            cases there : disk.find? (here ++ [segment]) with
            | none =>
                refine lost _ _ fun base run => ?_
                dsimp only at run
                split at run <;> cases run
            | some node =>
                cases node with
                | directory => exact ih _
                | file bytes =>
                    refine lost _ _ fun base run => ?_
                    dsimp only at run
                    split at run <;> cases run
                | link path => exact beyond here segment path rest

theorem walk_simple (behind : Location → String → String → List String → Except Refusal Target) (found : Target)
    (beyond : ∀ here segment path rest, disk.Unlinked name (behind here segment path rest) →
      (behind here segment path (rest ++ [name]) = .ok found ↔ ∃ base, behind here segment path rest = .ok (.directory base) ∧
        name.utf8ByteSize ≤ nameLimit ∧ found = disk.standing (base ++ [name])))
    (here : Location) (front : List String) (unlinked : disk.Unlinked name (disk.walk behind here front)) :
    disk.walk behind here (front ++ [name]) = .ok found ↔ ∃ base, disk.walk behind here front = .ok (.directory base) ∧
      name.utf8ByteSize ≤ nameLimit ∧ found = disk.standing (base ++ [name]) := by
  refine walk_induction disk name simple behind (fun longer run => disk.Unlinked name run → (longer = .ok found ↔
    ∃ base, run = .ok (.directory base) ∧ name.utf8ByteSize ≤ nameLimit ∧ found = disk.standing (base ++ [name])))
    (fun refusal run lost _ => ?_) (fun here unlinked => ?_) beyond here front unlinked
  · simp [lost]
  · by_cases opened : disk.find? here = some .directory
    · rw [walk, if_pos opened] at unlinked ⊢
      rw [walk_last disk name simple behind here found opened (unlinked here rfl)]
      simp
    · refine ⟨fun run => absurd (walk_last_opened disk name simple behind here found run) opened, ?_⟩
      rintro ⟨base, run, _⟩
      rw [walk, if_neg opened] at run
      cases run

theorem follow_simple (links : Nat) (here : Location) (front : List String) (found : Target)
    (unlinked : disk.Unlinked name (disk.follow true links here front)) :
    disk.follow true links here (front ++ [name]) = .ok found ↔
      ∃ base, disk.follow true links here front = .ok (.directory base) ∧ name.utf8ByteSize ≤ nameLimit ∧
        found = disk.standing (base ++ [name]) := by
  induction links generalizing here front with
  | zero =>
      refine walk_simple disk name simple _ found (fun here segment path rest _ => ?_) here front unlinked
      simp
  | succ links ih =>
      refine walk_simple disk name simple _ found (fun here segment path rest other => ?_) here front unlinked
      simp only [Bool.not_true, Bool.false_and, Bool.false_eq_true, if_false] at other ⊢
      rw [← List.append_assoc]
      exact ih _ _ other

theorem walk_before (behind : Location → String → String → List String → Except Refusal Target)
    (beyond : ∀ here segment path rest found, behind here segment path (rest ++ [name]) = .ok found →
      ∃ base, behind here segment path rest = .ok (.directory base))
    (here : Location) (front : List String) (found : Target) (run : disk.walk behind here (front ++ [name]) = .ok found) :
    ∃ base, disk.walk behind here front = .ok (.directory base) := by
  refine walk_induction disk name simple behind (fun longer run => longer = .ok found → ∃ base, run = .ok (.directory base))
    (fun refusal run _ impossible => ?_) (fun here run => ?_) (fun here segment path rest => beyond here segment path rest found)
    here front run
  · cases impossible
  · exact ⟨here, by rw [walk, if_pos (walk_last_opened disk name simple behind here found run)]⟩

theorem follow_before (links : Nat) (here : Location) (front : List String) (found : Target)
    (run : disk.follow true links here (front ++ [name]) = .ok found) :
    ∃ base, disk.follow true links here front = .ok (.directory base) := by
  induction links generalizing here front found with
  | zero => exact walk_before disk name simple _ (fun _ _ _ _ _ impossible => by simp at impossible) here front found run
  | succ links ih =>
      refine walk_before disk name simple _ (fun here segment path rest found run => ?_) here front found run
      simp only [Bool.not_true, Bool.false_and, Bool.false_eq_true, if_false] at run ⊢
      rw [← List.append_assoc] at run
      exact ih _ _ _ run

end Joining

theorem walk_slash (disk : Disk) (behind : Location → String → String → List String → Except Refusal Target)
    (base : Location) (beyond : ∀ here segment path rest, behind here segment path (rest ++ [""]) = .ok (.directory base) ↔
      behind here segment path rest = .ok (.directory base))
    (here : Location) (front : List String) :
    disk.walk behind here (front ++ [""]) = .ok (.directory base) ↔ disk.walk behind here front = .ok (.directory base) := by
  induction front generalizing here with
  | nil => rw [List.nil_append, walk.eq_2, if_pos (Or.inl rfl)]
  | cons segment rest ih =>
      have ends : (rest ++ [""]).all String.isEmpty = rest.all String.isEmpty := by simp
      rw [List.cons_append, walk, walk]
      split
      · exact ih here
      · split
        · exact ih _
        · split
          · exact Iff.rfl
          · simp only [ends]
            split
            · exact ih _
            · split <;> simp
            · exact beyond _ _ _ _
            · split <;> simp

theorem follow_slash (disk : Disk) (links : Nat) (here base : Location) (front : List String) :
    disk.follow true links here (front ++ [""]) = .ok (.directory base) ↔
      disk.follow true links here front = .ok (.directory base) := by
  induction links generalizing here front with
  | zero => exact walk_slash disk _ base (fun _ _ _ _ => by simp) here front
  | succ links ih =>
      refine walk_slash disk _ base (fun here segment path rest => ?_) here front
      simp only [Bool.not_true, Bool.false_and, Bool.false_eq_true, if_false]
      rw [← List.append_assoc]
      exact ih _ _

structure Fits (directory name : String) : Prop where
  path : (join directory name).utf8ByteSize < pathLimit
  name : name.utf8ByteSize ≤ nameLimit

theorem sound_join (directory name : String) (simple : Simple name) (filled : directory ≠ "") :
    Sound (join directory name) ↔ Sound directory ∧ (join directory name).utf8ByteSize < pathLimit := by
  obtain ⟨between, text, plain⟩ := join_text directory name simple
  have named : (join directory name).isEmpty = false := by simp [text, simple.named]
  have nonempty : directory.isEmpty = false := by simpa using filled
  have nulls : (join directory name).toList.contains '\x00' = directory.toList.contains '\x00' := by
    rw [text, Bool.eq_iff_iff, List.contains_iff_mem, List.contains_iff_mem]
    simp [plain, simple.noNull]
  have shorter : directory.utf8ByteSize ≤ (join directory name).utf8ByteSize := by
    rw [text, String.utf8ByteSize_append, String.utf8ByteSize_append]
    omega
  constructor
  · rintro whole
    exact ⟨⟨nonempty, nulls ▸ whole.noNull, Nat.lt_of_le_of_lt shorter whole.short⟩, whole.short⟩
  · rintro ⟨whole, short⟩
    exact ⟨named, nulls ▸ whole.noNull, short⟩

section Directory

variable (disk : Disk) (directory name : String) (simple : Simple name) (filled : directory ≠ "")

include simple filled

theorem join_walk : ∃ front,
    (∀ base, disk.target directory = .ok (.directory base) ↔ Sound directory ∧
      disk.follow true linkLimit (start disk.working directory) front = .ok (.directory base)) ∧
    ∀ found, disk.target (join directory name) = .ok found ↔
      (Sound directory ∧ (join directory name).utf8ByteSize < pathLimit) ∧
        disk.follow true linkLimit (start disk.working directory) (front ++ [name]) = .ok found := by
  have relative := simple_relative name simple
  obtain ⟨front, joined, whole⟩ := segments_join directory name relative filled
  rw [segments_simple name simple] at joined
  refine ⟨front, fun base => ?_, fun found => ?_⟩
  · rw [target, look_up_iff]
    rcases whole with whole | whole
    · rw [whole]
    · rw [whole, follow_slash]
  · rw [target, look_up_iff, joined, start_join disk.working directory name relative filled,
      sound_join directory name simple filled]

theorem target_join (found : Target) (unlinked : disk.Unlinked name (disk.target directory)) :
    disk.target (join directory name) = .ok found ↔
      ∃ base, disk.target directory = .ok (.directory base) ∧ Fits directory name ∧ found = disk.standing (base ++ [name]) := by
  obtain ⟨front, same, led⟩ := join_walk disk directory name simple filled
  have walked : Sound directory →
      (disk.follow true linkLimit (start disk.working directory) (front ++ [name]) = .ok found ↔ _) :=
    fun sound => disk.follow_simple name simple _ _ front found fun base run => unlinked base ((same base).mpr ⟨sound, run⟩)
  rw [led]
  constructor
  · rintro ⟨⟨sound, short⟩, run⟩
    obtain ⟨base, run, fits, there⟩ := (walked sound).mp run
    exact ⟨base, (same base).mpr ⟨sound, run⟩, ⟨short, fits⟩, there⟩
  · rintro ⟨base, opened, fits, there⟩
    obtain ⟨sound, run⟩ := (same base).mp opened
    exact ⟨⟨sound, fits.path⟩, (walked sound).mpr ⟨base, run, fits.name, there⟩⟩

theorem target_directory_join (found : Target) (run : disk.target (join directory name) = .ok found) :
    ∃ base, disk.target directory = .ok (.directory base) := by
  obtain ⟨front, same, led⟩ := join_walk disk directory name simple filled
  obtain ⟨⟨sound, _⟩, walked⟩ := (led found).mp run
  obtain ⟨base, run⟩ := disk.follow_before name simple _ _ front found walked
  exact ⟨base, (same base).mpr ⟨sound, run⟩⟩

end Directory

end SuiteSync.Disk
