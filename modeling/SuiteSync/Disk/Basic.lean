set_option autoImplicit false

/- The contents of a disk. A node is reached by the names that lead to it from the root, which is reached by no names
   and always stands. A path starts at the root when it is absolute and at the working directory otherwise; the working
   directory may be taken away like any other. A link holds the path that it stands for. Permissions, hard links, times
   and names that are no text are left out, and so is whatever is neither file, directory nor link. -/
namespace SuiteSync

inductive Node where
  | file (bytes : ByteArray)
  | directory
  | link (path : String)

instance : DecidableEq Node
  | .directory, .directory => isTrue rfl
  | .link a, .link b =>
      if same : a = b then isTrue (congrArg Node.link same) else isFalse fun equal => same (Node.link.inj equal)
  | .file a, .file b =>
      if same : a.data = b.data then isTrue (congrArg Node.file (ByteArray.ext same))
      else isFalse fun equal => same (congrArg ByteArray.data (Node.file.inj equal))
  | .file _, .directory | .file _, .link _ | .directory, .file _ | .directory, .link _ | .link _, .file _
  | .link _, .directory => isFalse Node.noConfusion

abbrev Location := List String

namespace Disk

structure WellFormed (entries : List (Location × Node)) : Prop where
  distinct : (entries.map Prod.fst).Nodup
  named : ∀ entry ∈ entries, entry.1 ≠ []
  rooted : ∀ entry ∈ entries, entry.1.dropLast ≠ [] → (entry.1.dropLast, Node.directory) ∈ entries

end Disk

structure Disk where
  entries : List (Location × Node)
  working : Location
  wellFormed : Disk.WellFormed entries

namespace Disk

def empty : Disk := ⟨[], [], ⟨List.nodup_nil, by simp, by simp⟩⟩

def find? (disk : Disk) (location : Location) : Option Node :=
  if location = [] then some .directory else disk.entries.lookup location

theorem lookup_mem (entries : List (Location × Node)) (location : Location) (node : Node)
    (found : entries.lookup location = some node) : (location, node) ∈ entries := by
  induction entries with
  | nil => simp at found
  | cons entry rest ih =>
      rw [List.lookup_cons] at found
      split at found
      · rename_i same
        cases found
        exact List.mem_cons.mpr (.inl (by rw [eq_of_beq same]))
      · exact List.mem_cons_of_mem _ (ih found)

theorem lookup_none (entries : List (Location × Node)) (location : Location)
    (absent : entries.lookup location = none) : location ∉ entries.map Prod.fst := by
  induction entries with
  | nil => simp
  | cons entry rest ih =>
      rw [List.lookup_cons] at absent
      split at absent
      · cases absent
      · rename_i different
        intro member
        rcases List.mem_cons.mp member with same | later
        · exact absurd (beq_iff_eq.mpr same) (by simp [different])
        · exact ih absent later

theorem lookup_of_mem (entries : List (Location × Node)) (distinct : (entries.map Prod.fst).Nodup)
    (location : Location) (node : Node) (member : (location, node) ∈ entries) :
    entries.lookup location = some node := by
  induction entries with
  | nil => simp at member
  | cons entry rest ih =>
      obtain ⟨fresh, tail⟩ := List.nodup_cons.mp distinct
      rw [List.lookup_cons]
      rcases List.mem_cons.mp member with same | later
      · subst same
        simp
      · have different : (location == entry.1) = false :=
          beq_eq_false_iff_ne.mpr fun same => fresh (same ▸ List.mem_map_of_mem later)
        simp only [different]
        exact ih tail later

theorem find_mem (disk : Disk) (location : Location) (node : Node) (named : location ≠ []) :
    disk.find? location = some node ↔ (location, node) ∈ disk.entries := by
  rw [find?, if_neg named]
  exact ⟨lookup_mem _ _ _, lookup_of_mem _ disk.wellFormed.distinct _ _⟩

def Free (disk : Disk) (location : Location) : Prop :=
  disk.find? location = none ∧ disk.find? location.dropLast = some .directory

instance (disk : Disk) (location : Location) : Decidable (disk.Free location) := instDecidableAnd

theorem free_named (disk : Disk) (location : Location) (free : disk.Free location) : location ≠ [] := by
  intro same
  subst same
  simp [Free, find?] at free

def add (disk : Disk) (location : Location) (node : Node) (free : disk.Free location) : Disk :=
  ⟨(location, node) :: disk.entries, disk.working, by
    have named := disk.free_named location free
    have absent : disk.entries.lookup location = none := by
      have := free.1
      rwa [find?, if_neg named] at this
    refine ⟨List.nodup_cons.mpr ⟨lookup_none _ _ absent, disk.wellFormed.distinct⟩, ?_, ?_⟩
    · intro entry member
      rcases List.mem_cons.mp member with same | later
      · exact same ▸ named
      · exact disk.wellFormed.named entry later
    · intro entry member inner
      rcases List.mem_cons.mp member with same | later
      · subst same
        exact List.mem_cons_of_mem _ ((disk.find_mem _ _ inner).mp free.2)
      · exact List.mem_cons_of_mem _ (disk.wellFormed.rooted entry later inner)⟩

def overwrite (disk : Disk) (location : Location) (bytes : ByteArray) : Disk :=
  let write : Location × Node → Location × Node := fun entry =>
    match entry.2 with
    | .file _ => if entry.1 = location then (entry.1, .file bytes) else entry
    | _ => entry
  ⟨disk.entries.map write, disk.working, by
    have same : ∀ entry, (write entry).1 = entry.1 := by
      intro entry
      simp only [write]
      split
      · split <;> rfl
      · rfl
    have kept : ∀ place, (place, Node.directory) ∈ disk.entries → (place, Node.directory) ∈ disk.entries.map write :=
      fun place member => List.mem_map.mpr ⟨_, member, rfl⟩
    refine ⟨?_, ?_, ?_⟩
    · have : disk.entries.map (Prod.fst ∘ write) = disk.entries.map Prod.fst :=
        List.map_congr_left fun entry _ => same entry
      rw [List.map_map, this]
      exact disk.wellFormed.distinct
    · intro entry member
      obtain ⟨old, oldMember, rfl⟩ := List.mem_map.mp member
      exact same old ▸ disk.wellFormed.named old oldMember
    · intro entry member inner
      obtain ⟨old, oldMember, rfl⟩ := List.mem_map.mp member
      rw [same old] at inner ⊢
      exact kept _ (disk.wellFormed.rooted old oldMember inner)⟩

def discard (disk : Disk) (selects : Location → Bool)
    (below : ∀ location, location.dropLast ≠ [] → selects location.dropLast → selects location) : Disk :=
  ⟨disk.entries.filter fun entry => !selects entry.1, disk.working, by
    refine ⟨?_, ?_, ?_⟩
    · exact disk.wellFormed.distinct.sublist (List.filter_sublist.map _)
    · intro entry member
      exact disk.wellFormed.named entry (List.mem_filter.mp member).1
    · intro entry member inner
      obtain ⟨old, kept⟩ := List.mem_filter.mp member
      refine List.mem_filter.mpr ⟨disk.wellFormed.rooted entry old inner, ?_⟩
      cases selected : selects entry.1.dropLast with
      | false => rfl
      | true => simp [below entry.1 inner selected] at kept⟩

def isBelow (directory location : Location) : Bool := directory.isPrefixOf location && directory != location

theorem is_below_child (directory location : Location) (below : directory.isPrefixOf location.dropLast) :
    directory.isPrefixOf location :=
  List.isPrefixOf_iff_prefix.mpr ((List.isPrefixOf_iff_prefix.mp below).trans (List.dropLast_prefix _))

def clear (disk : Disk) (directory : Location) : Disk :=
  disk.discard (isBelow directory) (by
    intro location inner selected
    simp only [isBelow, Bool.and_eq_true, bne_iff_ne] at selected ⊢
    refine ⟨is_below_child _ _ selected.1, fun same => ?_⟩
    have bound := (List.isPrefixOf_iff_prefix.mp selected.1).length_le
    have longer : location.length ≠ 0 := by
      intro none
      exact inner (by simp [List.length_eq_zero_iff.mp none])
    simp only [same, List.length_dropLast] at bound
    omega)

def remove (disk : Disk) (location : Location) : Disk :=
  disk.discard location.isPrefixOf fun inner _ selected => is_below_child location inner selected

end Disk

end SuiteSync
