import SuiteSync.Proofs.Disk.Paths

set_option autoImplicit false

namespace SuiteSync.Disk

open SuiteSync.Path

def isLink : Node → Bool
  | .link _ => true
  | .file _ | .directory => false

def landed : Target → Location
  | .directory location | .file location _ | .missing location _ | .link location _ => location

def Stands (disk : Disk) : Target → Prop
  | .directory location => disk.find? location = some .directory
  | .file location _ => ∃ bytes, disk.find? location = some (.file bytes)
  | .missing location _ => disk.Free location
  | .link location _ => ∃ path, disk.find? location = some (.link path)

theorem walk_stands (disk : Disk) (behind : Location → String → String → List String → Except Refusal Target)
    (beyond : ∀ here name path rest found, disk.find? (here ++ [name]) = some (.link path) →
      behind here name path rest = .ok found → disk.Stands found)
    (here : Location) (segments : List String) (found : Target) (run : disk.walk behind here segments = .ok found) :
    disk.Stands found := by
  fun_induction walk disk behind here segments with
  | case1 here standing =>
      cases run
      exact standing
  | case2 | case5 | case8 | case11 => cases run
  | case3 here segment rest skipped ih => exact ih run
  | case4 here rest skipped ih => exact ih run
  | case6 here segment rest skipped up short next standing ih => exact ih run
  | case7 here segment rest skipped up short next last bytes standing ends =>
      cases run
      exact ⟨bytes, standing⟩
  | case9 here segment rest skipped up short next path standing => exact beyond here segment path rest found standing run
  | case10 here segment rest skipped up short next last absent ends =>
      cases run
      exact ends.2

theorem follow_stands (disk : Disk) (through : Bool) (links : Nat) (here : Location) (segments : List String)
    (found : Target) (run : disk.follow through links here segments = .ok found) : disk.Stands found := by
  induction links generalizing here segments found with
  | zero =>
      refine walk_stands disk _ (fun here name path rest found there passed => ?_) here segments found run
      split at passed
      · cases passed
        exact ⟨path, there⟩
      · cases passed
  | succ links ih =>
      refine walk_stands disk _ (fun here name path rest found there passed => ?_) here segments found run
      split at passed
      · cases passed
        exact ⟨path, there⟩
      · exact ih _ _ _ passed

structure Sound (path : String) : Prop where
  filled : path.isEmpty = false
  noNull : path.toList.contains '\x00' = false
  short : path.utf8ByteSize < pathLimit

theorem look_up_sound (disk : Disk) (through : Bool) (path : String) (sound : Sound path) :
    disk.lookUp through path = disk.follow through linkLimit (start disk.working path) (segments path) := by
  rw [lookUp, sound.filled, sound.noNull, if_neg Bool.false_ne_true, if_neg Bool.false_ne_true,
    if_neg (Nat.not_le.mpr sound.short)]

theorem look_up_iff (disk : Disk) (through : Bool) (path : String) (found : Target) :
    disk.lookUp through path = .ok found ↔
      Sound path ∧ disk.follow through linkLimit (start disk.working path) (segments path) = .ok found := by
  rw [lookUp]
  split
  · rename_i empty
    exact ⟨nofun, fun both => absurd (both.1.filled.symm.trans empty) Bool.false_ne_true⟩
  · rename_i filled
    split
    · rename_i null
      exact ⟨nofun, fun both => absurd (both.1.noNull.symm.trans null) Bool.false_ne_true⟩
    · rename_i noNull
      split
      · rename_i long
        exact ⟨nofun, fun both => absurd both.1.short (Nat.not_lt.mpr long)⟩
      · rename_i short
        have sound : Sound path := ⟨Bool.not_eq_true _ ▸ filled, Bool.not_eq_true _ ▸ noNull, Nat.not_le.mp short⟩
        exact ⟨fun led => ⟨sound, led⟩, And.right⟩

theorem look_up_stands (disk : Disk) (through : Bool) (path : String) (found : Target)
    (run : disk.lookUp through path = .ok found) : disk.Stands found :=
  disk.follow_stands through _ _ _ found ((disk.look_up_iff through path found).mp run).2

theorem target_directory (disk : Disk) (path : String) (found : Location)
    (run : disk.target path = .ok (.directory found)) : disk.find? found = some .directory :=
  disk.look_up_stands true path _ run

theorem walk_empty (disk : Disk) (behind : Location → String → String → List String → Except Refusal Target)
    (here : Location) (rest : List String) (empty : rest.all String.isEmpty = true)
    (there : disk.find? here = some .directory) : disk.walk behind here rest = .ok (.directory here) := by
  induction rest with
  | nil => rw [walk, if_pos there]
  | cons segment later ih =>
      rw [List.all_cons, Bool.and_eq_true] at empty
      rw [walk, if_pos (.inl (String.isEmpty_iff.mp empty.1)), ih empty.2]

def Lands (run : Except Refusal Target) (place : Location) (slashed : Bool) : Prop :=
  run = .ok (.missing place slashed) ∨ run = .ok (.file place slashed)

def Meets (disk : Disk) (run : Except Refusal Target) (place : Location) (slashed : Bool) : Prop :=
  (disk.find? place = some .directory → run = .ok (.directory place)) ∧
    ∀ bytes, disk.find? place = some (.file bytes) → run = .ok (.file place slashed)

section Landing

variable (disk later : Disk) (place : Location) (slashed : Bool) (firm : Firm disk later)

include firm

theorem walk_meets (behind behind' : Location → String → String → List String → Except Refusal Target)
    (beyond : ∀ here segment path rest, Lands (behind here segment path rest) place slashed →
      later.Meets (behind' here segment path rest) place slashed)
    (here : Location) (segments : List String) (lands : Lands (disk.walk behind here segments) place slashed) :
    later.Meets (later.walk behind' here segments) place slashed := by
  -- The last name is looked up anew, and only empty segments follow it.
  have landing : ∀ here segment rest, ¬ (segment = "" ∨ segment = ".") → segment ≠ ".." →
      ¬ nameLimit < segment.utf8ByteSize → rest.all String.isEmpty = true → here ++ [segment] = place →
      (!rest.isEmpty) = slashed → later.Meets (later.walk behind' here (segment :: rest)) place slashed := by
    rintro here segment rest skipped up short ends rfl rfl
    rw [walk, if_neg skipped, if_neg up, if_neg short]
    constructor
    · intro there
      simp only [there]
      exact walk_empty later behind' _ rest ends there
    · intro bytes there
      simp only [there, if_pos ends]
  fun_induction walk disk behind here segments with
  | case1 | case2 | case5 | case8 | case11 => simp [Lands] at lands
  | case3 here segment rest skipped ih =>
      rw [walk, if_pos skipped]
      exact ih lands
  | case4 here rest skipped ih =>
      rw [walk, if_neg skipped, if_pos rfl]
      exact ih lands
  | case6 here segment rest skipped up short next standing ih =>
      have there : later.find? (here ++ [segment]) = some .directory := firm.directories _ standing
      rw [walk, if_neg skipped, if_neg up, if_neg short]
      simp only [there]
      exact ih lands
  | case7 here segment rest skipped up short next last bytes standing ends =>
      have same : next = place ∧ (!rest.isEmpty) = slashed := by simpa [Lands] using lands
      exact landing here segment rest skipped up short ends same.1 same.2
  | case9 here segment rest skipped up short next path standing =>
      have there : later.find? (here ++ [segment]) = some (.link path) := firm.links _ path standing
      rw [walk, if_neg skipped, if_neg up, if_neg short]
      simp only [there]
      exact beyond here segment path rest lands
  | case10 here segment rest skipped up short next last absent ends =>
      have same : next = place ∧ (!rest.isEmpty) = slashed := by simpa [Lands] using lands
      exact landing here segment rest skipped up short ends.1 same.1 same.2

theorem follow_meets (through : Bool) (count : Nat) (here : Location) (segments : List String)
    (lands : Lands (disk.follow through count here segments) place slashed) :
    later.Meets (later.follow through count here segments) place slashed := by
  induction count generalizing here segments with
  | zero =>
      refine walk_meets disk later place slashed firm _ _ (fun here segment path rest lands => ?_) here segments lands
      split at lands <;> simp [Lands] at lands
  | succ count ih =>
      refine walk_meets disk later place slashed firm _ _ (fun here segment path rest lands => ?_) here segments lands
      split at lands
      · simp [Lands] at lands
      · rename_i onward
        rw [if_neg onward]
        exact ih _ _ lands

theorem look_up_meets (through : Bool) (path : String)
    (lands : Lands (disk.lookUp through path) place slashed) : later.Meets (later.lookUp through path) place slashed := by
  have sound : Sound path := lands.elim (fun run => ((look_up_iff disk through path _).mp run).1)
    fun run => ((look_up_iff disk through path _).mp run).1
  rw [look_up_sound _ _ path sound] at lands ⊢
  rw [firm.working]
  exact follow_meets disk later place slashed firm through _ _ _ lands

end Landing

section Links

def stop : Location → String → String → List String → Except Refusal Target := fun _ _ _ _ => .error .linkLoop

def Straight (disk : Disk) (path : String) : Prop :=
  ∀ place, Passes disk.working path place → ∀ other, disk.find? place ≠ some (.link other)

theorem walk_leads (disk : Disk) (here : Location) (segments : List String) (found : Target)
    (run : disk.walk stop here segments = .ok found) : landed found = leads here segments := by
  fun_induction walk disk stop here segments with
  | case1 => cases run; rfl
  | case2 | case5 | case8 | case9 | case11 => cases run
  | case3 here segment rest skipped ih => rw [leads, if_pos skipped]; exact ih run
  | case4 here rest skipped ih => rw [leads, if_neg skipped, if_pos rfl]; exact ih run
  | case6 here segment rest skipped up _ next standing ih =>
      rw [leads, if_neg skipped, if_neg up]
      exact ih run
  | case7 here segment rest skipped up _ next last bytes standing ends =>
      cases run
      rw [leads, if_neg skipped, if_neg up, leads_empty _ _ ends]
      rfl
  | case10 here segment rest skipped up _ next last absent ends =>
      cases run
      rw [leads, if_neg skipped, if_neg up, leads_empty _ _ ends.1]
      rfl

theorem walk_straight (disk : Disk) (behind : Location → String → String → List String → Except Refusal Target)
    (here : Location) (segments : List String)
    (straight : ∀ front, front <+: segments → ∀ other, disk.find? (leads here front) ≠ some (.link other)) :
    disk.walk behind here segments = disk.walk stop here segments := by
  induction segments generalizing here with
  | nil => rfl
  | cons segment rest ih =>
      have further : ∀ next, (∀ front, leads here (segment :: front) = leads next front) →
          disk.walk behind next rest = disk.walk stop next rest := by
        intro next same
        apply ih
        intro front whole other
        have passed := straight (segment :: front) (List.cons_prefix_cons.mpr ⟨rfl, whole⟩) other
        rwa [same] at passed
      rw [walk, walk]
      by_cases skipped : segment = "" ∨ segment = "."
      · rw [if_pos skipped, if_pos skipped]
        exact further here fun front => by rw [leads, if_pos skipped]
      · rw [if_neg skipped, if_neg skipped]
        by_cases up : segment = ".."
        · rw [if_pos up, if_pos up]
          exact further _ fun front => by rw [leads, if_neg skipped, if_pos up]
        · rw [if_neg up, if_neg up]
          have down : ∀ front, leads here (segment :: front) = leads (here ++ [segment]) front := fun front => by
            rw [leads, if_neg skipped, if_neg up]
          split
          · rfl
          · dsimp only
            split
            · exact further _ down
            · rfl
            · rename_i path standing
              have unlinked := straight [segment] (List.cons_prefix_cons.mpr ⟨rfl, List.nil_prefix⟩) path
              rw [down, leads] at unlinked
              exact absurd standing unlinked
            · rfl

theorem follow_straight (disk : Disk) (through : Bool) (links : Nat) (path : String) (straight : disk.Straight path) :
    disk.follow through links (start disk.working path) (segments path) =
      disk.walk stop (start disk.working path) (segments path) := by
  have passed := fun front whole => straight (leads (start disk.working path) front) ⟨front, whole, rfl⟩
  cases links with
  | zero => exact walk_straight disk _ _ _ passed
  | succ links => exact walk_straight disk _ _ _ passed

theorem target_sound (disk : Disk) (path : String) (straight : disk.Straight path) (sound : Sound path) :
    disk.target path = disk.walk stop (start disk.working path) (segments path) := by
  rw [target, look_up_sound disk true path sound, follow_straight disk true _ path straight]

theorem target_ok_iff (disk : Disk) (path : String) (found : Target) (straight : disk.Straight path) :
    disk.target path = .ok found ↔ Sound path ∧ disk.walk stop (start disk.working path) (segments path) = .ok found := by
  rw [target, look_up_iff, follow_straight disk true _ path straight]

theorem sight_target (disk : Disk) (path : String) (straight : disk.Straight path) : disk.sight path = disk.target path := by
  rw [sight, target, lookUp, lookUp, follow_straight disk true _ path straight, follow_straight disk false _ path straight]

theorem target_location (disk : Disk) (path : String) (found : Target) (straight : disk.Straight path)
    (run : disk.target path = .ok found) : landed found = location disk.working path :=
  walk_leads disk _ _ found ((target_ok_iff disk path found straight).mp run).2

theorem walk_cons_directory (disk : Disk) (here found : Location) (segment : String) (rest : List String) :
    disk.walk stop here (segment :: rest) = .ok (.directory found) ↔
      if segment = "" ∨ segment = "." then disk.walk stop here rest = .ok (.directory found)
      else if segment = ".." then disk.walk stop here.dropLast rest = .ok (.directory found)
      else segment.utf8ByteSize ≤ nameLimit ∧ disk.find? (here ++ [segment]) = some .directory ∧
        disk.walk stop (here ++ [segment]) rest = .ok (.directory found) := by
  rw [walk]
  split
  · exact Iff.rfl
  · split
    · exact Iff.rfl
    · split
      · rename_i long
        exact ⟨nofun, fun fits => absurd fits.1 (Nat.not_le.mpr long)⟩
      · rename_i short
        dsimp only
        split
        · rename_i there
          simp [Nat.not_lt.mp short, there]
        · rename_i there
          simp only [there, reduceCtorEq, Option.some.injEq, false_and, and_false, iff_false]
          split <;> exact nofun
        · rename_i there
          simp only [there, reduceCtorEq, Option.some.injEq, false_and, and_false, iff_false]
          exact nofun
        · rename_i there
          simp only [there, reduceCtorEq, false_and, and_false, iff_false]
          split <;> exact nofun

end Links

end SuiteSync.Disk
