import SuiteSync.Disk.Operations

set_option autoImplicit false

namespace SuiteSync.Disk

def fileAt (disk : Disk) (location : Location) : Option ByteArray :=
  match disk.find? location with
  | some (.file bytes) => some bytes
  | _ => none

theorem file_at_iff (disk : Disk) (location : Location) (bytes : ByteArray) :
    disk.fileAt location = some bytes ↔ disk.find? location = some (.file bytes) := by
  rw [fileAt]
  cases found : disk.find? location with
  | none => simp
  | some node =>
      cases node with
      | file other => simp
      | directory | link path => simp

theorem file_at_congr (disk disk' : Disk) (location : Location) (same : disk'.find? location = disk.find? location) :
    disk'.fileAt location = disk.fileAt location := by
  rw [fileAt, fileAt, same]

theorem find_add (disk : Disk) (location other : Location) (node : Node) (free : disk.Free location) :
    (disk.add location node free).find? other = if other = location then some node else disk.find? other := by
  have named := disk.free_named location free
  by_cases root : other = []
  · subst root
    rw [if_neg (Ne.symm named)]
    rfl
  · rw [find?, find?, if_neg root, if_neg root, add, List.lookup_cons]
    by_cases here : other = location
    · rw [if_pos here, beq_iff_eq.mpr here]
    · rw [if_neg here, beq_eq_false_iff_ne.mpr here]

theorem lookup_map_nodes (write : Location × Node → Location × Node) (keeps : ∀ entry, (write entry).1 = entry.1)
    (entries : List (Location × Node)) (location : Location) :
    (entries.map write).lookup location = (entries.lookup location).map fun node => (write (location, node)).2 := by
  induction entries with
  | nil => rfl
  | cons entry rest ih =>
      have key := keeps entry
      rw [List.map_cons, List.lookup_cons, List.lookup_cons, key]
      by_cases here : location = entry.1
      · subst here
        simp
      · rw [beq_eq_false_iff_ne.mpr here]
        exact ih

theorem lookup_filter_locations (keeps : Location → Bool) (entries : List (Location × Node)) (location : Location) :
    (entries.filter fun entry => keeps entry.1).lookup location =
      if keeps location then entries.lookup location else none := by
  induction entries with
  | nil => simp
  | cons entry rest ih =>
      rw [List.filter_cons, List.lookup_cons]
      by_cases here : location = entry.1
      · subst here
        by_cases kept : keeps entry.1 = true
        · rw [if_pos kept, if_pos kept, List.lookup_cons, beq_self_eq_true]
        · rw [if_neg kept, if_neg kept, ih, if_neg kept]
      · rw [beq_eq_false_iff_ne.mpr here]
        split
        · rw [List.lookup_cons, beq_eq_false_iff_ne.mpr here]
          exact ih
        · exact ih

theorem find_overwrite (disk : Disk) (location other : Location) (old bytes : ByteArray)
    (standing : disk.find? location = some (.file old)) :
    (disk.overwrite location bytes).find? other = if other = location then some (.file bytes) else disk.find? other := by
  by_cases root : other = []
  · subst root
    have different : [] ≠ location := by
      rintro rfl
      cases standing
    rw [if_neg different]
    rfl
  · rw [find?, find?, if_neg root, if_neg root]
    refine (lookup_map_nodes _ (fun entry => ?_) disk.entries other).trans ?_
    · split
      · split <;> rfl
      · rfl
    by_cases here : other = location
    · subst here
      rw [find?, if_neg root] at standing
      rw [standing, if_pos rfl]
      simp
    · rw [if_neg here]
      cases disk.entries.lookup other with
      | none => rfl
      | some node => cases node <;> simp [here]

theorem find_discard (disk : Disk) (selects : Location → Bool)
    (below : ∀ location, location.dropLast ≠ [] → selects location.dropLast → selects location) (other : Location) :
    (disk.discard selects below).find? other = if other ≠ [] ∧ selects other = true then none else disk.find? other := by
  by_cases root : other = []
  · subst root
    simp [find?]
  · have kept := lookup_filter_locations (fun location => !selects location) disk.entries other
    rw [find?, find?, if_neg root, if_neg root]
    refine kept.trans ?_
    cases selects other <;> simp [root]

theorem find_above (disk : Disk) (location : Location) (node : Node) (found : disk.find? location = some node) :
    disk.find? location.dropLast = some .directory := by
  by_cases root : location.dropLast = []
  · rw [root]
    rfl
  · have named : location ≠ [] := by
      rintro rfl
      exact root rfl
    exact (disk.find_mem _ _ root).mpr (disk.wellFormed.rooted _ ((disk.find_mem _ _ named).mp found) root)

theorem find_below_none (disk : Disk) (location rest : Location) (absent : disk.find? location = none) :
    disk.find? (location ++ rest) = none := by
  -- Induction on how far below: what stands there needs the directory it lies in.
  induction shape : rest.length generalizing rest with
  | zero => rw [List.length_eq_zero_iff.mp shape, List.append_nil, absent]
  | succ n ih =>
      have filled : rest ≠ [] := by
        rintro rfl
        cases shape
      have above := ih rest.dropLast (by rw [List.length_dropLast, shape]; rfl)
      cases found : disk.find? (location ++ rest) with
      | none => rfl
      | some node =>
          have parent := disk.find_above _ _ found
          rw [List.dropLast_append_of_ne_nil filled, above] at parent
          cases parent

theorem find_front (disk : Disk) (front rest : Location) (found : disk.find? (front ++ rest) = some .directory) :
    disk.find? front = some .directory := by
  cases rest with
  | nil => rwa [List.append_nil] at found
  | cons name later =>
      cases next : disk.find? (front ++ [name]) with
      | none =>
          have below := disk.find_below_none _ later next
          rw [List.append_assoc, List.singleton_append, found] at below
          cases below
      | some node =>
          have above := disk.find_above _ node next
          rwa [List.dropLast_concat] at above

structure Firm (disk later : Disk) : Prop where
  working : later.working = disk.working
  directories : ∀ place, disk.find? place = some .directory → later.find? place = some .directory
  links : ∀ place path, disk.find? place = some (.link path) → later.find? place = some (.link path)

theorem firm_refl (disk : Disk) : Firm disk disk := ⟨rfl, fun _ => id, fun _ _ => id⟩

theorem firm_trans (first second third : Disk) (one : Firm first second) (two : Firm second third) : Firm first third :=
  ⟨two.working.trans one.working, fun place there => two.directories place (one.directories place there),
    fun place path there => two.links place path (one.links place path there)⟩

structure MoreDirectories (disk later : Disk) : Prop extends Firm disk later where
  files : ∀ place, later.fileAt place = disk.fileAt place

section Working

variable (disk : Disk) (location : Location)

@[simp] theorem working_add (node : Node) (free : disk.Free location) : (disk.add location node free).working = disk.working :=
  rfl

@[simp] theorem working_overwrite (bytes : ByteArray) : (disk.overwrite location bytes).working = disk.working := rfl

@[simp] theorem working_clear : (disk.clear location).working = disk.working := rfl

@[simp] theorem working_remove : (disk.remove location).working = disk.working := rfl

end Working

end SuiteSync.Disk
