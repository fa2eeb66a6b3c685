import SuiteSync.Disk.Path
import SuiteSync.Proofs.Disk.Files

set_option autoImplicit false

namespace SuiteSync

namespace Path

def leads : List String → List String → List String
  | here, [] => here
  | here, segment :: rest =>
      if segment = "" ∨ segment = "." then leads here rest
      else if segment = ".." then leads here.dropLast rest
      else leads (here ++ [segment]) rest

-- Where a path leads by its text alone.
def location (working : List String) (path : String) : List String := leads (start working path) (segments path)

structure Simple (name : String) : Prop where
  named : name ≠ ""
  noSlash : '/' ∉ name.toList
  noNull : '\x00' ∉ name.toList
  notHere : name ≠ "."
  notUp : name ≠ ".."

@[simp] theorem leads_append (here front back : List String) : leads here (front ++ back) = leads (leads here front) back := by
  induction front generalizing here with
  | nil => rfl
  | cons segment rest ih =>
      rw [List.cons_append, leads, leads]
      split
      · exact ih here
      · split
        · exact ih here.dropLast
        · exact ih (here ++ [segment])

theorem leads_simple (here : List String) (name : String) (simple : Simple name) : leads here [name] = here ++ [name] := by
  rw [leads, if_neg (not_or.mpr ⟨simple.named, simple.notHere⟩), if_neg simple.notUp, leads]

theorem leads_empty (here rest : List String) (empty : rest.all String.isEmpty = true) : leads here rest = here := by
  induction rest with
  | nil => rfl
  | cons segment later ih =>
      rw [List.all_cons, Bool.and_eq_true] at empty
      rw [leads, if_pos (.inl (String.isEmpty_iff.mp empty.1)), ih empty.2]

theorem pieces_filled (text : List Char) : pieces text ≠ [] := by
  fun_induction pieces text <;> simp_all

@[simp] theorem pieces_append (front back : List Char) : pieces (front ++ '/' :: back) = pieces front ++ pieces back := by
  fun_induction pieces front with
  | case1 => rfl
  | case2 rest ih => rw [List.cons_append, pieces, ih, List.cons_append]
  | case3 c rest other none ih => exact absurd none (pieces_filled rest)
  | case4 c rest other piece later same ih =>
      rw [List.cons_append, pieces.eq_3 _ _ other, ih, same]
      rfl

theorem pieces_whole (text : List Char) (noSlash : '/' ∉ text) : pieces text = [text] := by
  fun_induction pieces text with
  | case1 => rfl
  | case2 rest ih => exact absurd List.mem_cons_self noSlash
  | case3 c rest other none ih => exact absurd none (pieces_filled rest)
  | case4 c rest other piece later same ih =>
      have tail := ih fun member => noSlash (List.mem_cons_of_mem c member)
      rw [same] at tail
      cases tail
      rfl

theorem segments_simple (name : String) (simple : Simple name) : segments name = [name] := by
  rw [segments, pieces_whole _ simple.noSlash, List.map_singleton, String.ofList_toList]

theorem simple_relative (name : String) (simple : Simple name) : isAbsolute name = false := by
  cases shape : name.toList with
  | nil => simp [isAbsolute, shape]
  | cons c rest =>
      have other : c ≠ '/' := fun same => simple.noSlash (shape ▸ same ▸ List.mem_cons_self)
      simp [isAbsolute, shape, other]

theorem segments_join (directory name : String) (relative : isAbsolute name = false) (filled : directory ≠ "") :
    ∃ front, segments (join directory name) = front ++ segments name ∧
      (segments directory = front ∨ segments directory = front ++ [""]) := by
  have nonempty : directory.isEmpty = false := by simpa using filled
  by_cases slash : directory.toList.getLast? = some '/'
  · obtain ⟨front, same⟩ := List.getLast?_eq_some_iff.mp slash
    refine ⟨(pieces front).map String.ofList, ?_, .inr ?_⟩
    · have ends : (directory.toList.getLast? == some '/') = true := beq_iff_eq.mpr slash
      rw [join, relative, nonempty, ends]
      simp only [Bool.false_eq_true, Bool.or_true, ite_true, ite_false]
      rw [segments, String.toList_append, same, List.append_assoc, List.singleton_append, pieces_append, List.map_append]
      rfl
    · rw [segments, same, pieces_append, List.map_append]
      rfl
  · refine ⟨segments directory, ?_, .inl rfl⟩
    have ends : (directory.toList.getLast? == some '/') = false := beq_eq_false_iff_ne.mpr slash
    rw [join, relative, nonempty, ends]
    simp only [Bool.false_eq_true, Bool.or_false, ite_false]
    have text : (directory ++ "/" ++ name).toList = directory.toList ++ '/' :: name.toList := by simp
    rw [segments, text, pieces_append, List.map_append]
    rfl

theorem join_text (directory name : String) (simple : Simple name) :
    ∃ between, join directory name = directory ++ between ++ name ∧ '\x00' ∉ between.toList := by
  have relative : ¬ isAbsolute name = true := by rw [simple_relative name simple]; exact Bool.false_ne_true
  rw [join, if_neg relative]
  split
  · exact ⟨"", by rw [String.append_empty], by decide⟩
  · exact ⟨"/", rfl, by decide⟩

theorem absolute_front (front whole : String) (rest : List Char) (cut : whole.toList = front.toList ++ rest)
    (filled : front ≠ "") : isAbsolute whole = isAbsolute front := by
  rw [isAbsolute, isAbsolute, cut]
  cases shape : front.toList with
  | nil => exact absurd (String.toList_eq_nil_iff.mp shape) filled
  | cons c later => rfl

theorem join_relative (directory name : String) (relative : isAbsolute name = false) :
    ∃ rest, (join directory name).toList = directory.toList ++ rest := by
  rw [join, relative, if_neg Bool.false_ne_true]
  split
  · exact ⟨name.toList, by simp⟩
  · exact ⟨'/' :: name.toList, by simp⟩

theorem start_join (working : List String) (directory name : String) (relative : isAbsolute name = false)
    (filled : directory ≠ "") : start working (join directory name) = start working directory := by
  obtain ⟨rest, cut⟩ := join_relative directory name relative
  rw [start, start, absolute_front directory _ rest cut filled]

theorem location_under (working : List String) (directory name : String) (relative : isAbsolute name = false)
    (filled : directory ≠ "") : location working (join directory name) = leads (location working directory) (segments name) := by
  obtain ⟨front, joined, whole⟩ := segments_join directory name relative filled
  have same : leads (start working directory) (segments directory) = leads (start working directory) front := by
    rcases whole with whole | whole
    · rw [whole]
    · rw [whole, leads_append]
      rfl
  rw [location, start_join working directory name relative filled, joined, leads_append, location, same]

theorem location_join (working : List String) (directory name : String) (simple : Simple name) (filled : directory ≠ "") :
    location working (join directory name) = location working directory ++ [name] := by
  rw [location_under working directory name (simple_relative name simple) filled, segments_simple name simple,
    leads_simple _ _ simple]

def Passes (working : List String) (path : String) (place : List String) : Prop :=
  ∃ front, front <+: segments path ∧ leads (start working path) front = place

end Path

end SuiteSync
