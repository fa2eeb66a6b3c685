import SuiteSync.Proofs.Disk.Reset
import SuiteSync.Proofs.Disk.Same

set_option autoImplicit false

namespace SuiteSync.Disk

open SuiteSync.Path

theorem same_end_symm {ε α : Type} (one two : Except ε α × Disk) (same : SameEnd one two) : SameEnd two one := by
  cases same with
  | done value disk other same => exact .done value other disk ⟨same.working.symm, fun place => (same.nodes place).symm⟩
  | failed error disk other => exact .failed error other disk

section Outside

variable (disk other : Disk) (location : Location) (working : disk.working = other.working)
  (outside : ∀ place, ¬ location <+: place → disk.find? place = other.find? place)

include working outside

theorem remove_same : Same (disk.remove location) (other.remove location) := by
  refine ⟨working, fun place => ?_⟩
  rw [find_remove, find_remove]
  by_cases root : place = []
  · rw [root]
    rfl
  · by_cases below : location <+: place
    · rw [if_pos ⟨root, below⟩, if_pos ⟨root, below⟩]
    · rw [if_neg fun both => below both.2, if_neg fun both => below both.2, outside place below]

theorem clear_same (top : disk.find? location = other.find? location) : Same (disk.clear location) (other.clear location) := by
  refine ⟨working, fun place => ?_⟩
  rw [find_clear, find_clear]
  by_cases here : location = place
  · rw [if_neg fun both => both.2 here, if_neg fun both => both.2 here, ← here, top]
  · by_cases below : location <+: place
    · rw [if_pos ⟨below, here⟩, if_pos ⟨below, here⟩]
    · rw [if_neg fun both => below both.1, if_neg fun both => below both.1, outside place below]

theorem remove_missing_same (absent : other.find? location = none) : Same (disk.remove location) other := by
  refine ⟨working, fun place => ?_⟩
  rw [find_remove]
  by_cases root : place = []
  · rw [root]
    rfl
  · by_cases below : location <+: place
    · obtain ⟨rest, rfl⟩ := below
      rw [if_pos ⟨root, List.prefix_append _ _⟩, other.find_below_none location rest absent]
    · rw [if_neg fun both => below both.2, outside place below]

end Outside

theorem walk_fewer (disk fewer : Disk) (here found : Location) (segments : List String)
    (less : ∀ place, fewer.find? place = none ∨ fewer.find? place = disk.find? place)
    (run : disk.walk stop here segments = .ok (.directory found)) :
    fewer.walk stop here segments = .ok (.directory found) ∨ fewer.walk stop here segments = .error .notFound ∨
      ∃ place slashed, fewer.walk stop here segments = .ok (.missing place slashed) := by
  induction segments generalizing here with
  | nil =>
      rw [walk]
      rcases less here with absent | same
      · rw [absent]
        exact .inr (.inl rfl)
      · rw [same]
        exact .inl run
  | cons segment rest ih =>
      rw [walk_cons_directory] at run
      rw [walk]
      by_cases skipped : segment = "" ∨ segment = "."
      · rw [if_pos skipped] at run ⊢
        exact ih here run
      · rw [if_neg skipped] at run ⊢
        by_cases up : segment = ".."
        · rw [if_pos up] at run ⊢
          exact ih _ run
        · rw [if_neg up] at run ⊢
          obtain ⟨short, there, inner⟩ := run
          rw [if_neg (Nat.not_lt.mpr short)]
          rcases less (here ++ [segment]) with absent | same
          · simp only [absent]
            split
            · exact .inr (.inr ⟨_, _, rfl⟩)
            · exact .inr (.inl rfl)
          · rw [there] at same
            simp only [same]
            exact ih _ inner

theorem remove_all_fine (disk left : Disk) (path : String) (result : Except Refusal Unit)
    (run : disk.removeTree path = (result, left)) (fine : result = .ok () ∨ result = .error .notFound) :
    disk.removeAll path = (.ok (), left) := by
  rw [removeAll, run]
  rcases fine with rfl | rfl <;> rfl

theorem remove_all_refused (disk left : Disk) (path : String) (refusal : Refusal) (other : refusal ≠ .notFound)
    (run : disk.removeTree path = (.error refusal, left)) :
    disk.removeAll path = (.error (.cannotRemove path refusal.reason), left) := by
  rw [removeAll, run]
  split
  · rename_i same
    cases same
    exact (other rfl).elim
  · rename_i same
    cases same
    rfl

theorem remove_all_ends (disk other left left' : Disk) (path : String) (result : Except Refusal Unit)
    (one : disk.removeTree path = (result, left)) (two : other.removeTree path = (result, left')) (same : Same left left') :
    SameEnd (disk.removeAll path) (other.removeAll path) := by
  by_cases fine : result = .ok () ∨ result = .error .notFound
  · rw [remove_all_fine disk left path result one fine, remove_all_fine other left' path result two fine]
    exact .done () left left' same
  · rw [not_or] at fine
    cases result with
    | ok value => exact (fine.1 rfl).elim
    | error refusal =>
        have lost : refusal ≠ .notFound := fun same => fine.2 (congrArg Except.error same)
        rw [remove_all_refused disk left path refusal lost one, remove_all_refused other left' path refusal lost two]
        exact .failed _ left left'

theorem remove_tree_unnamed (disk : Disk) (path : String) (found : Location) (straight : disk.Straight path)
    (unnamed : ¬ endsInName path = true) (led : disk.target path = .ok (.directory found)) :
    disk.removeTree path =
      (match (disk.clear found).target path with
        | .error .notFound => .ok ()
        | .error e => .error e
        | .ok _ => .error (cannotRemove path), disk.clear found) := by
  simp only [removeTree, sight_target disk path straight, led, if_neg unnamed]
  generalize (disk.clear found).target path = seen
  cases seen with
  | ok target => rfl
  | error refusal => cases refusal <;> rfl

section Straight

variable (disk other : Disk) (path : String) (straight : disk.Straight path) (straight' : other.Straight path)

include straight straight'

theorem remove_all_directories (found : Location) (working : disk.working = other.working)
    (outside : ∀ place, ¬ found <+: place → disk.find? place = other.find? place)
    (led : disk.target path = .ok (.directory found)) (led' : other.target path = .ok (.directory found)) :
    SameEnd (disk.removeAll path) (other.removeAll path) := by
  by_cases named : endsInName path = true
  · refine remove_all_ends disk other (disk.remove found) (other.remove found) path (.ok ()) ?_ ?_
      (remove_same disk other found working outside)
    · simp only [removeTree, sight_target disk path straight, led, if_pos named]
    · simp only [removeTree, sight_target other path straight', led', if_pos named]
  · have top : disk.find? found = other.find? found := by
      rw [disk.target_directory path found led, other.target_directory path found led']
    have emptied := clear_same disk other found working outside top
    have tree := remove_tree_unnamed other path found straight' named led'
    rw [← target_same _ _ emptied] at tree
    exact remove_all_ends disk other _ _ path _ (remove_tree_unnamed disk path found straight named led) tree emptied

theorem remove_all_same (same : Same disk other) : SameEnd (disk.removeAll path) (other.removeAll path) := by
  have led := target_same disk other same path
  have sight := sight_target disk path straight
  have sight' := sight_target other path straight'
  cases found : disk.target path with
  | error e =>
      rw [found] at led
      refine remove_all_ends disk other disk other path (.error e) ?_ ?_ same
      · simp only [removeTree, sight, found]
      · simp only [removeTree, sight', ← led]
  | ok target =>
      rw [found] at led
      cases target with
      | link place slashed => exact absurd found (target_unlinked disk path straight place slashed)
      | missing place slashed =>
          refine remove_all_ends disk other disk other path (.error .notFound) ?_ ?_ same
          · simp only [removeTree, sight, found]
          · simp only [removeTree, sight', ← led]
      | file place slashed =>
          refine remove_all_ends disk other disk other path (.error .notDirectory) ?_ ?_ same
          · simp only [removeTree, sight, found]
          · simp only [removeTree, sight', ← led]
      | directory place =>
          exact remove_all_directories disk other path straight straight' place same.working
            (fun spot _ => same.nodes spot) found led.symm

end Straight

def Reached (disk : Disk) (path : String) : Prop :=
  disk.target path = .ok (.directory (location disk.working path)) ∨ disk.find? (location disk.working path) = none

-- Disks that differ at most in what the directory of a path holds, and in whether it stands where the path ends in
-- a name. No link stands in the way of the path.
structure Comparable (path : String) (disk other : Disk) : Prop where
  working : disk.working = other.working
  outside : ∀ place, ¬ location disk.working path <+: place → disk.find? place = other.find? place
  straight : disk.Straight path
  straight' : other.Straight path
  reached : disk.Reached path
  reached' : other.Reached path
  named : endsInName path = true ∨
    (disk.find? (location disk.working path) = none ↔ other.find? (location disk.working path) = none)

theorem comparable_symm (path : String) (disk other : Disk) (comparable : Comparable path disk other) :
    Comparable path other disk where
  working := comparable.working.symm
  outside place off := (comparable.outside place (comparable.working ▸ off)).symm
  straight := comparable.straight'
  straight' := comparable.straight
  reached := comparable.reached'
  reached' := comparable.reached
  named := comparable.working ▸ comparable.named.imp id Iff.symm

theorem walk_plain (disk : Disk) (here : Location) (segments : List String) (noUp : ".." ∉ segments)
    (short : ∀ segment ∈ segments, segment.utf8ByteSize ≤ nameLimit)
    (standing : disk.find? (leads here segments) = some .directory) :
    disk.walk stop here segments = .ok (.directory (leads here segments)) := by
  induction segments generalizing here with
  | nil =>
      rw [leads] at standing
      rw [walk, leads, if_pos standing]
  | cons segment rest ih =>
      rw [List.mem_cons, not_or] at noUp
      rw [List.forall_mem_cons] at short
      rw [walk_cons_directory]
      rw [leads] at standing ⊢
      by_cases skipped : segment = "" ∨ segment = "."
      · rw [if_pos skipped] at standing ⊢
        rw [if_pos skipped]
        exact ih here noUp.2 short.2 standing
      · rw [if_neg skipped, if_neg (Ne.symm noUp.1)] at standing ⊢
        rw [if_neg skipped, if_neg (Ne.symm noUp.1)]
        obtain ⟨deeper, same⟩ := leads_down (here ++ [segment]) rest noUp.2
        exact ⟨short.1, disk.find_front _ deeper (same ▸ standing), ih _ noUp.2 short.2 standing⟩

theorem plain_reached (disk : Disk) (path : String) (straight : disk.Straight path) (sound : Sound path)
    (noUp : ".." ∉ segments path) (short : ∀ segment ∈ segments path, segment.utf8ByteSize ≤ nameLimit)
    (noFile : disk.fileAt (location disk.working path) = none) : disk.Reached path := by
  cases found : disk.find? (location disk.working path) with
  | none => exact .inr found
  | some node =>
      cases node with
      | link other => exact absurd found (straight _ (passes_end disk.working path) other)
      | file bytes => rw [(disk.file_at_iff _ _).mpr found] at noFile; cases noFile
      | directory => exact .inl ((target_sound disk path straight sound).trans (walk_plain disk _ _ noUp short found))

theorem plain_comparable (path : String) (disk other : Disk) (sound : Sound path) (noUp : ".." ∉ segments path)
    (short : ∀ segment ∈ segments path, segment.utf8ByteSize ≤ nameLimit) (named : endsInName path = true)
    (working : disk.working = other.working) (straight : disk.Straight path) (straight' : other.Straight path)
    (outside : ∀ place, ¬ location disk.working path <+: place → disk.find? place = other.find? place)
    (noFile : disk.fileAt (location disk.working path) = none)
    (noFile' : other.fileAt (location disk.working path) = none) : Comparable path disk other where
  working := working
  outside := outside
  straight := straight
  straight' := straight'
  reached := plain_reached disk path straight sound noUp short noFile
  reached' := plain_reached other path straight' sound noUp short (working ▸ noFile')
  named := .inl named

theorem reached_standing (disk : Disk) (path : String) (reached : disk.Reached path)
    (there : disk.find? (location disk.working path) ≠ none) :
    disk.target path = .ok (.directory (location disk.working path)) :=
  reached.resolve_right there

theorem remove_all_missing (disk other : Disk) (path : String) (comparable : Comparable path disk other)
    (there : disk.find? (location disk.working path) ≠ none) (absent : other.find? (location disk.working path) = none) :
    SameEnd (disk.removeAll path) (other.removeAll path) := by
  have led := reached_standing disk path comparable.reached there
  have named := comparable.named.resolve_right fun both => there (both.mpr absent)
  have less : ∀ place, other.find? place = none ∨ other.find? place = disk.find? place := by
    intro place
    by_cases below : location disk.working path <+: place
    · obtain ⟨rest, rfl⟩ := below
      exact .inl (other.find_below_none _ rest absent)
    · exact .inr (comparable.outside place below).symm
  have removed : disk.removeAll path = (.ok (), disk.remove (location disk.working path)) := by
    refine remove_all_fine disk _ path (.ok ()) ?_ (.inl rfl)
    simp only [removeTree, sight_target disk path comparable.straight, led, if_pos named]
  have kept : other.removeAll path = (.ok (), other) := by
    obtain ⟨sound, walked⟩ := (target_ok_iff disk path _ comparable.straight).mp led
    have target := target_sound other path comparable.straight' sound
    have sight := sight_target other path comparable.straight'
    rw [comparable.working] at walked
    refine remove_all_fine other other path (.error .notFound) ?_ (.inr rfl)
    rcases walk_fewer disk other _ _ _ less walked with same | lost | ⟨place, slashed, free⟩
    · have standing := other.target_directory path _ (target.trans same)
      rw [← comparable.working, absent] at standing
      cases standing
    · simp only [removeTree, sight, target, lost]
    · simp only [removeTree, sight, target, free]
  rw [removed, kept]
  exact .done () _ _ (remove_missing_same disk other _ comparable.working comparable.outside absent)

theorem remove_all_comparable (disk other : Disk) (path : String) (comparable : Comparable path disk other) :
    SameEnd (disk.removeAll path) (other.removeAll path) := by
  by_cases absent : disk.find? (location disk.working path) = none
  · by_cases absent' : other.find? (location disk.working path) = none
    · refine remove_all_same disk other path comparable.straight comparable.straight' ⟨comparable.working, fun place => ?_⟩
      by_cases below : location disk.working path <+: place
      · obtain ⟨rest, rfl⟩ := below
        rw [disk.find_below_none _ rest absent, other.find_below_none _ rest absent']
      · exact comparable.outside place below
    · refine same_end_symm _ _ (remove_all_missing other disk path (comparable_symm path disk other comparable) ?_ ?_)
      · rwa [← comparable.working]
      · rwa [← comparable.working]
  · by_cases absent' : other.find? (location disk.working path) = none
    · exact remove_all_missing disk other path comparable absent absent'
    · have led := reached_standing disk path comparable.reached absent
      have led' := reached_standing other path comparable.reached' (comparable.working ▸ absent')
      rw [← comparable.working] at led'
      exact remove_all_directories disk other path comparable.straight comparable.straight' _ comparable.working
        comparable.outside led led'

theorem reset_comparable (disk other : Disk) (path : String) (comparable : Comparable path disk other) :
    SameEnd (disk.reset path) (other.reset path) := by
  have removed := remove_all_comparable disk other path comparable
  rw [reset, reset]
  generalize disk.removeAll path = one at removed ⊢
  generalize other.removeAll path = two at removed ⊢
  cases removed with
  | failed error left left' => exact .failed error left left'
  | done _ left left' same => exact create_all_same left left' same path

end SuiteSync.Disk
