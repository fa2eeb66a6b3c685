import SuiteSync.Proofs.Disk.Passage
import SuiteSync.Proofs.Disk.Walking

set_option autoImplicit false

namespace SuiteSync.Disk

open SuiteSync.Path

-- A disk that differs from another one inside, and elsewhere by directories on a way that were made where nothing
-- stood. It has no new links.
structure Kept (inside way : Location → Prop) (disk left : Disk) : Prop where
  working : left.working = disk.working
  links : ∀ place path, left.find? place = some (.link path) → disk.find? place = some (.link path)
  places : ∀ place, ¬ inside place → left.find? place = disk.find? place ∨
    (way place ∧ disk.find? place = none ∧ left.find? place = some .directory)

theorem kept_refl (inside way : Location → Prop) (disk : Disk) : Kept inside way disk disk :=
  ⟨rfl, fun _ _ => id, fun _ _ => .inl rfl⟩

theorem kept_trans (inside way : Location → Prop) (first second third : Disk) (one : Kept inside way first second)
    (two : Kept inside way second third) : Kept inside way first third := by
  refine ⟨two.working.trans one.working, fun place path link => one.links place path (two.links place path link), ?_⟩
  intro place off
  rcases one.places place off with same | ⟨on, before, made⟩
  · rw [← same]
    exact two.places place off
  · rcases two.places place off with same | ⟨_, none, _⟩
    · exact .inr ⟨on, before, same.trans made⟩
    · rw [made] at none
      cases none

theorem kept_mono (inside inside' way way' : Location → Prop) (disk left : Disk)
    (wide : ∀ place, inside place → inside' place) (more : ∀ place, way place → inside' place ∨ way' place)
    (kept : Kept inside way disk left) : Kept inside' way' disk left := by
  refine ⟨kept.working, kept.links, fun place off => ?_⟩
  rcases kept.places place fun within => off (wide place within) with same | ⟨on, made⟩
  · exact .inl same
  · exact .inr ⟨(more place on).resolve_left off, made⟩

theorem kept_straight (inside way : Location → Prop) (disk left : Disk) (path : String) (kept : Kept inside way disk left)
    (straight : disk.Straight path) : left.Straight path := by
  intro place passes other link
  exact straight place (kept.working ▸ passes) other (kept.links place other link)

theorem straight_iff (disk : Disk) (path : String) :
    disk.Straight path ↔ ∀ n ∈ List.range ((segments path).length + 1),
      (disk.find? (leads (start disk.working path) ((segments path).take n))).all (fun node => !isLink node) = true := by
  constructor
  · intro straight n member
    have unlinked := straight _ ((passes_iff disk.working path _).mpr ⟨n, member, rfl⟩)
    cases found : disk.find? (leads (start disk.working path) ((segments path).take n)) with
    | none => rfl
    | some node =>
        cases node with
        | link other => exact absurd found (unlinked other)
        | directory | file bytes => rfl
  · intro checked place passes other link
    obtain ⟨n, member, rfl⟩ := (passes_iff disk.working path place).mp passes
    have unlinked := checked n member
    rw [link] at unlinked
    cases unlinked

instance (disk : Disk) (path : String) : Decidable (disk.Straight path) := decidable_of_iff _ (straight_iff disk path).symm

def Grown (way : Location → Prop) (disk left : Disk) : Prop := Kept (fun _ => False) way disk left

theorem grown_mono (way wider : Location → Prop) (disk left : Disk) (wide : ∀ place, way place → wider place)
    (grown : Grown way disk left) : Grown wider disk left :=
  kept_mono _ _ _ _ _ _ (fun _ => id) (fun place on => .inr (wide place on)) grown

theorem grown_more (way : Location → Prop) (disk left : Disk) (grown : Grown way disk left) : MoreDirectories disk left := by
  refine ⟨⟨grown.working, fun place standing => ?_, fun place path standing => ?_⟩, fun place => ?_⟩
  · rcases grown.places place id with same | ⟨_, _, made⟩
    · rw [same, standing]
    · exact made
  · rcases grown.places place id with same | ⟨_, before, _⟩
    · rw [same, standing]
    · rw [standing] at before
      cases before
  · rcases grown.places place id with same | ⟨_, before, made⟩
    · exact file_at_congr _ _ _ same
    · simp only [fileAt, before, made]

section Straight

variable (disk : Disk) (path : String) (straight : disk.Straight path)

include straight

theorem make_directory_spec (made : Disk) (run : disk.makeDirectory path = .ok made) :
    disk.find? (location disk.working path) = none ∧ made.working = disk.working ∧
      (∀ other, made.find? other = if other = location disk.working path then some .directory else disk.find? other) ∧
      made.target path = .ok (.directory (location disk.working path)) := by
  rw [makeDirectory, sight_target disk path straight] at run
  split at run
  · cases run
  · rename_i found slashed led
    obtain rfl : found = location disk.working path := target_location disk path _ straight led
    rw [Disk.place] at run
    split at run
    · rename_i free
      cases run
      have after := fun other => disk.find_add (location disk.working path) other .directory free
      have kept : ∀ other node, disk.find? other = some node →
          (disk.add (location disk.working path) .directory free).find? other = some node := by
        intro other node standing
        rw [after, if_neg, standing]
        rintro rfl
        rw [free.1] at standing
        cases standing
      have firm : Firm disk (disk.add (location disk.working path) .directory free) :=
        ⟨rfl, fun other => kept other _, fun other _ => kept other _⟩
      have meets := look_up_meets disk _ _ slashed firm true path (.inl led)
      exact ⟨free.1, rfl, after, meets.1 ((after _).trans (if_pos rfl))⟩
    · cases run
  · cases run

theorem make_directory_grown (made : Disk) (run : disk.makeDirectory path = .ok made) :
    Grown (Passes disk.working path) disk made := by
  obtain ⟨absent, working, after, _⟩ := make_directory_spec disk path straight made run
  refine ⟨working, fun other target link => ?_, fun other _ => ?_⟩
  · rw [after] at link
    split at link
    · cases link
    · exact link
  · by_cases here : other = location disk.working path
    · subst here
      exact .inr ⟨passes_end disk.working path, absent, (after _).trans (if_pos rfl)⟩
    · exact .inl ((after other).trans (if_neg here))

omit straight in
theorem is_directory_target (there : disk.isDirectory path = true) : ∃ found, disk.target path = .ok (.directory found) := by
  rw [isDirectory, node] at there
  cases led : disk.target path with
  | error e => simp [led] at there
  | ok found =>
      have stands := disk.look_up_stands true path found led
      cases found with
      | directory base => exact ⟨base, rfl⟩
      | missing place slashed | link place slashed => simp [led] at there
      | file place slashed =>
          obtain ⟨bytes, held⟩ := stands
          cases slashed <;> simp [led, held] at there

theorem make_directories_grown (paths : List String)
    (on : ∀ up ∈ paths, ∀ place, Passes disk.working up place → Passes disk.working path place) :
    Grown (Passes disk.working path) disk (disk.makeDirectories paths).2 := by
  induction paths with
  | nil => exact kept_refl _ _ disk
  | cons first above ih =>
      rw [List.forall_mem_cons] at on
      have made : ∀ left made, Grown (Passes disk.working path) disk left → left.makeDirectory first = .ok made →
          Grown (Passes disk.working path) disk made := by
        intro left made grown run
        have straight' : left.Straight first :=
          kept_straight _ _ _ _ first grown fun place passes => straight place (on.1 place passes)
        have more := make_directory_grown left first straight' made run
        rw [grown.working] at more
        exact kept_trans _ _ _ _ _ grown (grown_mono _ _ _ _ on.1 more)
      have before := ih on.2
      rw [makeDirectories]
      split
      · rename_i left run
        exact made _ _ (kept_refl _ _ disk) run
      · split
        · rename_i run
          rwa [run] at before
        · rename_i left run
          rw [run] at before
          split
          · rename_i after again
            exact made _ _ before again
          · exact before
      · exact kept_refl _ _ disk

theorem create_all_grown : Grown (Passes disk.working path) disk (disk.createAll path).2 := by
  rw [createAll]
  split
  · exact kept_refl _ _ disk
  · apply make_directories_grown disk path straight
    intro up member
    rcases List.mem_cons.mp member with rfl | above
    · exact fun _ => id
    · exact parents_passes disk.working path up above

theorem create_parents_grown : Grown (Passes disk.working path) disk (disk.createParents path).2 := by
  rw [createParents]
  split
  · exact kept_refl _ _ disk
  · rename_i up parent
    have on := parent_passes disk.working path up parent
    exact grown_mono _ _ _ _ on (create_all_grown disk up fun place passes => straight place (on place passes))

end Straight

theorem walk_passes (disk : Disk) (here found : Location) (segments front : List String)
    (run : disk.walk stop here segments = .ok (.directory found)) (whole : front <+: segments) :
    leads here front <+: here ∨ disk.find? (leads here front) = some .directory := by
  induction segments generalizing here front with
  | nil =>
      rw [List.prefix_nil.mp whole]
      exact .inl (List.prefix_refl _)
  | cons segment rest ih =>
      cases front with
      | nil => exact .inl (List.prefix_refl _)
      | cons first walked =>
          obtain ⟨rfl, inner⟩ := List.cons_prefix_cons.mp whole
          rw [walk_cons_directory] at run
          rw [leads]
          by_cases skipped : first = "" ∨ first = "."
          · rw [if_pos skipped] at run ⊢
            exact ih here walked run inner
          · rw [if_neg skipped] at run ⊢
            by_cases up : first = ".."
            · rw [if_pos up] at run ⊢
              exact (ih _ walked run inner).imp (·.trans (List.dropLast_prefix _)) id
            · rw [if_neg up] at run ⊢
              obtain ⟨_, there, further⟩ := run
              rcases ih _ walked further inner with ⟨more, same⟩ | standing
              · rw [← same] at there
                exact .inr (disk.find_front _ more there)
              · exact .inr standing

section Way

variable (disk : Disk) (path : String) (straight : disk.Straight path)

include straight

theorem target_passes (found place : Location) (led : disk.target path = .ok (.directory found))
    (passes : Passes disk.working path place) : place <+: start disk.working path ∨ disk.find? place = some .directory := by
  obtain ⟨front, whole, rfl⟩ := passes
  exact walk_passes disk _ found _ front ((target_ok_iff disk path _ straight).mp led).2 whole

theorem make_directories_led (left : Disk) (above : List String)
    (on : ∀ up ∈ above, ∀ place, Passes disk.working up place → Passes disk.working path place)
    (run : disk.makeDirectories (path :: above) = (.ok (), left)) :
    left.target path = .ok (.directory (location disk.working path)) := by
  have there : ∀ left : Disk, left.working = disk.working → left.Straight path → left.isDirectory path = true →
      left.target path = .ok (.directory (location disk.working path)) := by
    intro left working straight there
    obtain ⟨found, led⟩ := is_directory_target left path there
    rw [led, ← working, ← target_location left path _ straight led, landed]
  rw [makeDirectories] at run
  split at run
  · rename_i made run'
    cases run
    exact (make_directory_spec disk path straight _ run').2.2.2
  · have grown := make_directories_grown disk path straight above on
    generalize disk.makeDirectories above = outcome at run grown
    obtain ⟨result, middle⟩ := outcome
    cases result with
    | error e => cases run
    | ok _ =>
        have straight' := kept_straight _ _ _ _ path grown straight
        cases again : middle.makeDirectory path with
        | ok made =>
            simp only [again] at run
            cases run
            rw [← grown.working]
            exact (make_directory_spec middle path straight' _ again).2.2.2
        | error e =>
            simp only [again] at run
            split at run
            · rename_i stands
              cases run
              exact there _ grown.working straight' stands
            · cases run
  · split at run
    · rename_i stands
      cases run
      exact there disk rfl straight stands
    · cases run

theorem create_all_led (left : Disk) (run : disk.createAll path = (.ok (), left)) :
    (left = disk ∧ (path = "" ∨ parent? path = none)) ∨
      left.target path = .ok (.directory (location disk.working path)) := by
  rw [createAll] at run
  split at run
  · rename_i nowhere
    cases run
    rw [Bool.or_eq_true] at nowhere
    exact .inl ⟨rfl, nowhere.imp String.isEmpty_iff.mp Option.isNone_iff_eq_none.mp⟩
  · generalize made : disk.makeDirectories (path :: parents path) = outcome at run
    obtain ⟨result, after⟩ := outcome
    cases result with
    | error e => cases run
    | ok _ =>
        cases run
        exact .inr (make_directories_led disk path straight left _ (parents_passes disk.working path) made)

theorem create_all_way (left : Disk) (run : disk.createAll path = (.ok (), left)) (place : Location)
    (passes : Passes disk.working path place) :
    place <+: start disk.working path ∨ left.find? place = some .directory := by
  have grown := create_all_grown disk path straight
  rw [run] at grown
  rcases create_all_led disk path straight left run with ⟨_, nowhere⟩ | led
  · have only : place = start disk.working path := by
      rcases nowhere with rfl | orphan
      · exact passes_skipped disk.working "" place (by decide) passes
      · exact parent_missing disk.working path orphan place passes
    exact .inl (only ▸ List.prefix_refl _)
  · have way := target_passes left path (kept_straight _ _ _ _ path grown straight) _ place led
    rw [grown.working] at way
    exact way passes

end Way

end SuiteSync.Disk
