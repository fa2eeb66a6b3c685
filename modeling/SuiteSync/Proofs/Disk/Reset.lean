import SuiteSync.Proofs.Disk.Making

set_option autoImplicit false

namespace SuiteSync.Disk

open SuiteSync.Path

def Emptied (disk left : Disk) (location : Location) : Prop :=
  ∀ other, left.fileAt other = if location.isPrefixOf other then none else disk.fileAt other

structure Cleared (disk left : Disk) (location : Location) : Prop where
  top : left.fileAt location = none
  below : ∀ rest, rest ≠ [] → left.find? (location ++ rest) = none
  outside : ∀ other, ¬ location <+: other → left.find? other = disk.find? other

theorem cleared_emptied (disk left : Disk) (location : Location) (cleared : Cleared disk left location) :
    Emptied disk left location := by
  intro other
  by_cases below : location <+: other
  · rw [if_pos (List.isPrefixOf_iff_prefix.mpr below)]
    obtain ⟨rest, rfl⟩ := below
    by_cases here : rest = []
    · rw [here, List.append_nil, cleared.top]
    · rw [fileAt, cleared.below rest here]
  · rw [if_neg fun inside => below (List.isPrefixOf_iff_prefix.mp inside)]
    exact file_at_congr _ _ _ (cleared.outside other below)

theorem find_remove (disk : Disk) (location other : Location) :
    (disk.remove location).find? other = if other ≠ [] ∧ location <+: other then none else disk.find? other := by
  rw [remove, find_discard]
  simp only [List.isPrefixOf_iff_prefix]

theorem find_clear (disk : Disk) (location other : Location) :
    (disk.clear location).find? other = if location <+: other ∧ location ≠ other then none else disk.find? other := by
  rw [clear, find_discard]
  simp only [isBelow, Bool.and_eq_true, List.isPrefixOf_iff_prefix, bne_iff_ne]
  by_cases root : other = []
  · subst root
    simp
  · simp [root]

theorem remove_cleared (disk : Disk) (location : Location) : Cleared disk (disk.remove location) location := by
  refine ⟨?_, fun rest filled => ?_, fun other off => ?_⟩
  · by_cases root : location = []
    · rw [root]
      rfl
    · rw [fileAt, find_remove, if_pos ⟨root, List.prefix_refl _⟩]
  · rw [find_remove, if_pos ⟨List.append_ne_nil_of_right_ne_nil _ filled, List.prefix_append _ _⟩]
  · rw [find_remove, if_neg fun both => off both.2]

theorem clear_cleared (disk : Disk) (location : Location) (there : disk.find? location = some .directory) :
    Cleared disk (disk.clear location) location := by
  refine ⟨?_, fun rest filled => ?_, fun other off => ?_⟩
  · rw [fileAt, find_clear, if_neg fun both => both.2 rfl, there]
  · rw [find_clear, if_pos ⟨List.prefix_append _ _, fun same => filled (List.self_eq_append_right.mp same)⟩]
  · rw [find_clear, if_neg fun both => off both.1]

theorem missing_cleared (disk : Disk) (location : Location) (absent : disk.find? location = none) :
    Cleared disk disk location :=
  ⟨by rw [fileAt, absent], fun rest _ => disk.find_below_none location rest absent, fun _ _ => rfl⟩

theorem target_missing (disk : Disk) (path : String) (location : Location) (slashed : Bool)
    (run : disk.target path = .ok (.missing location slashed)) : disk.find? location = none :=
  (disk.look_up_stands true path _ run).1

structure Less (disk left : Disk) : Prop where
  working : left.working = disk.working
  nodes : ∀ place node, left.find? place = some node → disk.find? place = some node

theorem less_refl (disk : Disk) : Less disk disk := ⟨rfl, fun _ _ => id⟩

theorem remove_less (disk : Disk) (location : Location) : Less disk (disk.remove location) := by
  refine ⟨rfl, fun place node standing => ?_⟩
  rw [find_remove] at standing
  split at standing
  · cases standing
  · exact standing

theorem clear_less (disk : Disk) (location : Location) : Less disk (disk.clear location) := by
  refine ⟨rfl, fun place node standing => ?_⟩
  rw [find_clear] at standing
  split at standing
  · cases standing
  · exact standing

theorem empty_behind_less (disk : Disk) (path : String) : Less disk (disk.emptyBehind path).2 := by
  rw [emptyBehind]
  split
  · exact less_refl disk
  · rename_i location _
    dsimp only
    split <;> exact clear_less disk location
  · exact less_refl disk
  · exact less_refl disk

theorem remove_tree_less (disk : Disk) (path : String) : Less disk (disk.removeTree path).2 := by
  rw [removeTree]
  split
  · exact less_refl disk
  · exact less_refl disk
  · exact less_refl disk
  · exact remove_less disk _
  · exact empty_behind_less disk path
  · split
    · exact remove_less disk _
    · dsimp only
      split <;> exact clear_less disk _

theorem remove_all_left (disk : Disk) (path : String) : (disk.removeAll path).2 = (disk.removeTree path).2 := by
  rw [removeAll]
  split
  · rename_i left removed
    rw [removed]
  · rename_i result left other removed
    rw [removed]

theorem less_straight (disk left : Disk) (path : String) (less : Less disk left) (straight : disk.Straight path) :
    left.Straight path :=
  fun place passes other link => straight place (less.working ▸ passes) other (less.nodes place _ link)

section Straight

variable (disk : Disk) (path : String) (straight : disk.Straight path)

include straight

theorem target_unlinked (place : Location) (slashed : Bool) : disk.target path ≠ .ok (.link place slashed) := by
  intro led
  obtain ⟨other, link⟩ := disk.look_up_stands true path _ led
  have same : place = location disk.working path := target_location disk path _ straight led
  exact straight _ (passes_end disk.working path) other (same ▸ link)

theorem remove_tree_spec (left : Disk) (result : Except Refusal Unit)
    (run : disk.removeTree path = (result, left)) (fine : result = .ok () ∨ result = .error .notFound) :
    (disk.target path = .error .notFound ∧ left = disk) ∨
      (disk.target path ≠ .error .notFound ∧ Cleared disk left (location disk.working path)) := by
  rw [removeTree, sight_target disk path straight] at run
  cases led : disk.target path with
  | error e =>
      rw [led] at run
      cases run
      rcases fine with fine | fine
      · cases fine
      · cases fine
        exact .inl ⟨rfl, rfl⟩
  | ok found =>
      have same := target_location disk path found straight led
      refine .inr ⟨nofun, ?_⟩
      rw [led] at run
      cases found with
      | link place slashed => exact absurd led (target_unlinked disk path straight place slashed)
      | missing place slashed =>
          cases run
          exact same ▸ missing_cleared disk place (disk.target_missing path place slashed led)
      | file place slashed =>
          cases run
          rcases fine with fine | fine <;> cases fine
      | directory base =>
          -- A path that does not end in a name leaves an empty directory behind.
          have cleared : Cleared disk (disk.clear base) (location disk.working path) :=
            same ▸ clear_cleared disk base (disk.target_directory path base led)
          simp only at run
          split at run
          · cases run
            exact same ▸ remove_cleared disk base
          · split at run
            · cases run
              exact cleared
            · cases run
              exact cleared
            · cases run
              exact cleared

theorem remove_all_spec (left : Disk) (run : disk.removeAll path = (.ok (), left)) :
    (disk.target path = .error .notFound ∧ left = disk) ∨
      (disk.target path ≠ .error .notFound ∧ Cleared disk left (location disk.working path)) := by
  rw [removeAll] at run
  split at run
  · rename_i removed
    cases run
    exact remove_tree_spec disk path straight left _ removed (.inr rfl)
  · rename_i result kept other removed
    cases result with
    | error e => cases run
    | ok _ =>
        cases run
        exact remove_tree_spec disk path straight left _ removed (.inl rfl)

theorem reset_steps (left : Disk) (run : disk.reset path = (.ok (), left)) :
    ∃ emptied, emptied.createAll path = (.ok (), left) ∧ Less disk emptied ∧ emptied.Straight path ∧
      ((disk.target path = .error .notFound ∧ emptied = disk) ∨
        (disk.target path ≠ .error .notFound ∧ Cleared disk emptied (location disk.working path))) := by
  rw [reset] at run
  have less := remove_tree_less disk path
  rw [← remove_all_left] at less
  split at run
  · cases run
  · rename_i emptied removed
    rw [removed] at less
    exact ⟨emptied, run, less, less_straight disk emptied path less straight, remove_all_spec disk path straight emptied removed⟩

theorem reset_files (left : Disk) (run : disk.reset path = (.ok (), left)) :
    (disk.target path = .error .notFound → ∀ other, left.fileAt other = disk.fileAt other) ∧
      (disk.target path ≠ .error .notFound → Emptied disk left (location disk.working path)) := by
  obtain ⟨emptied, created, _, straight', removed⟩ := reset_steps disk path straight left run
  have more := grown_more _ _ _ (create_all_grown emptied path straight')
  rw [created] at more
  rcases removed with ⟨lost, rfl⟩ | ⟨led, cleared⟩
  · exact ⟨fun _ => more.files, fun led => absurd lost led⟩
  · exact ⟨fun lost => absurd lost led, fun _ other => (more.files other).trans (cleared_emptied _ _ _ cleared other)⟩

theorem remove_tree_outside (other : Location) (off : ¬ location disk.working path <+: other) :
    (disk.removeTree path).2.find? other = disk.find? other := by
  rw [removeTree, sight_target disk path straight]
  split
  · rfl
  · rfl
  · rfl
  · rename_i place led
    exact absurd led (target_unlinked disk path straight place _)
  · rename_i place led
    exact absurd led (target_unlinked disk path straight place _)
  · rename_i base led
    obtain rfl : base = location disk.working path := target_location disk path _ straight led
    have emptied : (disk.clear (location disk.working path)).find? other = disk.find? other := by
      rw [find_clear, if_neg fun both => off both.1]
    split
    · dsimp only
      rw [find_remove, if_neg fun both => off both.2]
    · dsimp only
      split
      · exact emptied
      · exact emptied
      · exact emptied

theorem reset_kept :
    Kept (location disk.working path <+: ·) (Passes disk.working path) disk (disk.reset path).2 := by
  have less := remove_tree_less disk path
  rw [← remove_all_left] at less
  have removed : Kept (location disk.working path <+: ·) (Passes disk.working path) disk (disk.removeAll path).2 := by
    refine ⟨less.working, fun place other => less.nodes place (.link other), fun other off => ?_⟩
    rw [remove_all_left]
    exact .inl (remove_tree_outside disk path straight other off)
  rw [reset]
  split
  · rename_i e left run
    rwa [run] at removed
  · rename_i left run
    rw [run] at removed less
    have made := create_all_grown left path (less_straight disk left path less straight)
    rw [less.working] at made
    exact kept_trans _ _ _ _ _ removed (kept_mono _ _ _ _ _ _ (fun _ => False.elim) (fun _ => .inr) made)

theorem reset_working (left : Disk) (run : disk.reset path = (.ok (), left)) : left.working = disk.working := by
  have kept := reset_kept disk path straight
  rw [run] at kept
  exact kept.working

theorem reset_way (left : Disk) (run : disk.reset path = (.ok (), left)) (place : Location)
    (passes : Passes disk.working path place) :
    place <+: start disk.working path ∨ left.find? place = some .directory := by
  obtain ⟨emptied, created, less, straight', _⟩ := reset_steps disk path straight left run
  rw [← less.working] at passes ⊢
  exact create_all_way emptied path straight' left created place passes

theorem reset_directory (left : Disk) (run : disk.reset path = (.ok (), left))
    (rooted : disk.find? disk.working = some .directory) :
    left.find? (location disk.working path) = some .directory := by
  obtain ⟨emptied, created, less, straight', removed⟩ := reset_steps disk path straight left run
  rw [← less.working]
  rcases create_all_led emptied path straight' left created with ⟨rfl, nowhere⟩ | led
  · have unnamed : path = "" → left.find? (location left.working path) = some .directory := by
      rintro rfl
      rcases removed with ⟨_, rfl⟩ | ⟨led, _⟩
      · exact rooted
      · exact absurd rfl led
    rcases nowhere with empty | orphan
    · exact unnamed empty
    · rcases parent_none path orphan with empty | absolute
      · exact unnamed empty
      · rw [parent_missing left.working path orphan _ (passes_end left.working path), start, if_pos absolute]
        rfl
  · exact left.target_directory path _ led

theorem reset_inside (left : Disk) (run : disk.reset path = (.ok (), left)) (led : disk.target path ≠ .error .notFound)
    (place : Location) (below : location disk.working path <+: place) (inner : place ≠ location disk.working path) :
    left.find? place = none ∨ (Passes disk.working path place ∧ left.find? place = some .directory) := by
  obtain ⟨emptied, created, less, straight', removed⟩ := reset_steps disk path straight left run
  have made := create_all_grown emptied path straight'
  rw [created, less.working] at made
  obtain ⟨_, cleared⟩ := removed.resolve_left fun lost => led lost.1
  obtain ⟨rest, rfl⟩ := below
  have absent := cleared.below rest fun empty => inner (by rw [empty, List.append_nil])
  exact (made.places _ id).imp (fun same => same.trans absent) fun grown => ⟨grown.1, grown.2.2⟩

theorem reset_below (left : Disk) (run : disk.reset path = (.ok (), left)) (place : Location)
    (below : location disk.working path <+: place) (off : ¬ Passes disk.working path place) :
    (disk.target path = .error .notFound → left.find? place = disk.find? place) ∧
      (disk.target path ≠ .error .notFound → left.find? place = none) := by
  obtain ⟨emptied, created, less, straight', removed⟩ := reset_steps disk path straight left run
  have made := create_all_grown emptied path straight'
  rw [created, less.working] at made
  -- Off the way nothing is made, so what is left is what the removal left.
  have same : left.find? place = emptied.find? place := (made.places place id).resolve_right fun grown => off grown.1
  rw [same]
  rcases removed with ⟨lost, rfl⟩ | ⟨led, cleared⟩
  · exact ⟨fun _ => rfl, fun led => absurd lost led⟩
  · refine ⟨fun lost => absurd lost led, fun _ => ?_⟩
    obtain ⟨rest, rfl⟩ := below
    apply cleared.below
    rintro rfl
    rw [List.append_nil] at off
    exact off (passes_end disk.working path)

end Straight

end SuiteSync.Disk
