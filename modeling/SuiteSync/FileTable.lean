set_option autoImplicit false

namespace SuiteSync

structure FileTable where
  entries : List (String × List String)
  ascending : entries.Pairwise fun a b => a.1 < b.1
deriving Repr

namespace FileTable

def empty : FileTable := ⟨[], List.Pairwise.nil⟩

def insertEntry (name : String) (tests : List String) : List (String × List String) → List (String × List String)
  | [] => [(name, tests)]
  | entry :: rest =>
      if name < entry.1 then (name, tests) :: entry :: rest
      else if name = entry.1 then (name, tests) :: rest
      else entry :: insertEntry name tests rest

theorem insert_entry_names (name : String) (tests : List String) (entries : List (String × List String))
    (entry : String × List String) (member : entry ∈ insertEntry name tests entries) :
    entry = (name, tests) ∨ entry ∈ entries := by
  fun_induction insertEntry name tests entries with
  | case1 => simpa using member
  | case2 => simpa using member
  | case3 =>
      rcases List.mem_cons.mp member with same | later
      · exact .inl same
      · exact .inr (List.mem_cons_of_mem _ later)
  | case4 first rest _ _ ih =>
      rcases List.mem_cons.mp member with same | later
      · exact .inr (same ▸ List.mem_cons_self)
      · exact (ih later).imp id (List.mem_cons_of_mem _)

theorem insert_entry_ascending (name : String) (tests : List String) (entries : List (String × List String))
    (ascending : entries.Pairwise fun a b => a.1 < b.1) :
    (insertEntry name tests entries).Pairwise fun a b => a.1 < b.1 := by
  fun_induction insertEntry name tests entries with
  | case1 => simp
  | case2 first rest less =>
      refine List.pairwise_cons.mpr ⟨fun entry member => ?_, ascending⟩
      rcases List.mem_cons.mp member with same | later
      · exact same ▸ less
      · exact String.lt_trans less ((List.pairwise_cons.mp ascending).1 entry later)
  | case3 first rest _ same =>
      obtain ⟨above, tail⟩ := List.pairwise_cons.mp ascending
      exact List.pairwise_cons.mpr ⟨fun entry member => same ▸ above entry member, tail⟩
  | case4 first rest notLess different ih =>
      obtain ⟨above, tail⟩ := List.pairwise_cons.mp ascending
      refine List.pairwise_cons.mpr ⟨fun entry member => ?_, ih tail⟩
      rcases insert_entry_names name tests rest entry member with same | earlier
      · subst same
        rcases String.le_total name first.1 with before | after
        · exact absurd (String.le_antisymm before (String.not_lt.mp notLess)) different
        · exact String.not_le.mp fun le => different (String.le_antisymm le after)
      · exact above entry earlier

def insert (table : FileTable) (name : String) (tests : List String) : FileTable :=
  ⟨insertEntry name tests table.entries, insert_entry_ascending name tests _ table.ascending⟩

def ofList (entries : List (String × List String)) : FileTable :=
  entries.foldl (fun table entry => table.insert entry.1 entry.2) empty

def names (table : FileTable) : List String := table.entries.map Prod.fst

def size (table : FileTable) : Nat := table.entries.length

def contains (table : FileTable) (name : String) : Bool := table.names.contains name

def excluded (table : FileTable) (name : String) : List String := (table.entries.lookup name).getD []

def excludedCount (table : FileTable) : Nat :=
  table.entries.foldr (fun entry n => entry.2.length + n) 0

theorem names_nodup (table : FileTable) : table.names.Nodup := by
  refine List.pairwise_map.mpr (table.ascending.imp ?_)
  intro a b less same
  exact String.lt_irrefl _ (same ▸ less)

end FileTable

end SuiteSync
