import SuiteSync.Proofs.Disk.Paths

set_option autoImplicit false

namespace SuiteSync

namespace Path

section Working

variable (working : List String)

theorem passes_iff (path : String) (place : List String) :
    Passes working path place ↔
      ∃ n ∈ List.range ((segments path).length + 1), leads (start working path) ((segments path).take n) = place := by
  constructor
  · rintro ⟨front, whole, led⟩
    rw [List.prefix_iff_eq_take.mp whole] at led
    exact ⟨front.length, List.mem_range.mpr (Nat.lt_succ_of_le whole.length_le), led⟩
  · rintro ⟨n, _, led⟩
    exact ⟨_, List.take_prefix n _, led⟩

instance (path : String) (place : List String) : Decidable (Passes working path place) :=
  decidable_of_iff _ (passes_iff working path place).symm

theorem passes_start (path : String) : Passes working path (start working path) := ⟨[], List.nil_prefix, rfl⟩

theorem passes_end (path : String) : Passes working path (location working path) := ⟨segments path, List.prefix_refl _, rfl⟩

theorem leads_skipped (here front : List String) (skipped : ∀ segment ∈ front, segment = "" ∨ segment = ".") :
    leads here front = here := by
  induction front with
  | nil => rfl
  | cons segment rest ih =>
      rw [List.forall_mem_cons] at skipped
      rw [leads, if_pos skipped.1, ih skipped.2]

theorem passes_skipped (path : String) (place : List String) (skipped : ∀ segment ∈ segments path, segment = "" ∨ segment = ".")
    (passes : Passes working path place) : place = start working path := by
  obtain ⟨front, whole, rfl⟩ := passes
  exact leads_skipped _ front fun segment member => skipped segment (whole.subset member)

theorem passes_front (front path : String) (back : List Char) (cut : path.toList = front.toList ++ '/' :: back)
    (same : start working front = start working path) (place : List String) (passes : Passes working front place) :
    Passes working path place := by
  obtain ⟨walked, whole, rfl⟩ := passes
  refine ⟨walked, ?_, same ▸ rfl⟩
  rw [segments, cut, pieces_append, List.map_append]
  exact whole.trans (List.prefix_append _ _)

theorem passes_onward (directory name : String) (relative : isAbsolute name = false) (filled : directory ≠ "")
    (place : List String) (passes : Passes working directory place) : Passes working (join directory name) place := by
  obtain ⟨walked, whole, rfl⟩ := passes
  obtain ⟨front, joined, cut⟩ := segments_join directory name relative filled
  rw [Passes, start_join working directory name relative filled, joined]
  rcases cut with same | same
  · exact ⟨walked, (same ▸ whole).trans (List.prefix_append _ _), rfl⟩
  · rw [same] at whole
    rcases List.prefix_concat_iff.mp whole with rfl | inner
    · exact ⟨front, List.prefix_append _ _, by rw [leads_append]; rfl⟩
    · exact ⟨walked, inner.trans (List.prefix_append _ _), rfl⟩

theorem passes_join (directory name : String) (relative : isAbsolute name = false) (filled : directory ≠ "")
    (place : List String) (passes : Passes working (join directory name) place) :
    Passes working directory place ∨ ∃ front, front <+: segments name ∧ leads (location working directory) front = place := by
  obtain ⟨walked, whole, rfl⟩ := passes
  rw [start_join working directory name relative filled]
  obtain ⟨front, joined, cut⟩ := segments_join directory name relative filled
  rw [joined] at whole
  rcases List.prefix_or_prefix_of_prefix whole (List.prefix_append front _) with short | ⟨more, rfl⟩
  · refine .inl ⟨walked, short.trans ?_, rfl⟩
    rcases cut with same | same
    · exact same ▸ List.prefix_refl _
    · exact same ▸ List.prefix_append _ _
  · refine .inr ⟨more, (List.prefix_append_right_inj front).mp whole, ?_⟩
    rw [leads_append, location]
    rcases cut with same | same
    · rw [same]
    · rw [same, leads_append]
      rfl

end Working

theorem leads_down (here front : List String) (noUp : ".." ∉ front) : here <+: leads here front := by
  induction front generalizing here with
  | nil => exact List.prefix_refl _
  | cons segment rest ih =>
      rw [List.mem_cons, not_or] at noUp
      obtain ⟨down, noUp⟩ := noUp
      rw [leads]
      split
      · exact ih here noUp
      · rw [if_neg (Ne.symm down)]
        exact (List.prefix_append here [segment]).trans (ih _ noUp)

theorem trim_end_suffix (path : List Char) : trimEnd path <:+ path := by
  fun_induction trimEnd path with
  | case1 c rest ih => exact ih.trans (List.suffix_cons _ _)
  | case2 rest ih => exact ih.trans (List.suffix_cons _ _)
  | case3 => exact List.suffix_refl _

theorem trim_end_slash (path rest : List Char) (slash : trimEnd path = '/' :: rest) : rest = [] := by
  fun_induction trimEnd path with
  | case1 c later ih => exact ih slash
  | case2 later ih => exact ih slash
  | case3 path inner _ =>
      cases rest with
      | nil => rfl
      | cons c later => exact (inner c later slash).elim

theorem trim_end_nil (path : List Char) (none : trimEnd path = []) : path = [] := by
  fun_induction trimEnd path with
  | case1 c rest ih => cases ih none
  | case2 rest ih => cases ih none
  | case3 => exact none

theorem trim_end_cut (path : List Char) :
    trimEnd path = path ∨ trimEnd path = ['/'] ∨ ∃ dropped, path = dropped ++ '/' :: trimEnd path := by
  fun_induction trimEnd path with
  | case1 c rest ih =>
      rcases ih with whole | root | ⟨dropped, cut⟩
      · rw [whole]
        exact .inr (.inr ⟨[], rfl⟩)
      · exact .inr (.inl root)
      · exact .inr (.inr ⟨'/' :: dropped, congrArg (List.cons '/') cut⟩)
  | case2 rest ih =>
      rcases ih with whole | root | ⟨dropped, cut⟩
      · rw [whole, trim_end_slash _ rest whole]
        exact .inr (.inl rfl)
      · exact .inr (.inl root)
      · exact .inr (.inr ⟨'.' :: dropped, congrArg (List.cons '.') cut⟩)
  | case3 => exact .inl rfl

theorem parent_cut (path up : List Char) (parent : parentReversed? path = some up) :
    up = [] ∨ up = ['/'] ∨ ∃ dropped, path = dropped ++ '/' :: up := by
  rw [parentReversed?] at parent
  split at parent
  · cases parent
  · cases parent
  · rename_i c rest _ trimmed
    cases parent
    generalize shape : (c :: rest).dropWhile (· != '/') = left
    have inside : left <:+ path := shape ▸ (List.dropWhile_suffix _).trans (trimmed ▸ trim_end_suffix path)
    cases left with
    | nil => exact .inl rfl
    | cons slash above =>
        have first : slash = '/' := by
          have stopped := List.head?_dropWhile_not (· != '/') (c :: rest)
          rw [shape] at stopped
          simpa using stopped
        subst first
        rcases trim_end_cut ('/' :: above) with whole | root | ⟨dropped, cut⟩
        · rw [whole, trim_end_slash _ above whole]
          exact .inr (.inl rfl)
        · exact .inr (.inl root)
        · obtain ⟨before, same⟩ := inside
          exact .inr (.inr ⟨before ++ dropped, by rw [← same, List.append_assoc, ← cut]⟩)

theorem reversed_cut (path up dropped : List Char) (cut : path.reverse = dropped ++ '/' :: up) :
    path = up.reverse ++ '/' :: dropped.reverse := by
  have same := congrArg List.reverse cut
  simpa using same

theorem last_of_suffix (back whole : List Char) (suffix : back <:+ whole) (filled : back ≠ []) :
    back.getLast? = whole.getLast? := by
  obtain ⟨front, rfl⟩ := suffix
  rw [List.getLast?_append, List.getLast?_eq_some_getLast filled, Option.some_or]

theorem absolute_reversed (reversed : List Char) :
    isAbsolute (String.ofList reversed.reverse) = (reversed.getLast? == some '/') := by
  rw [isAbsolute, String.toList_ofList, List.head?_reverse]

theorem parent_absolute (path up : List Char) (parent : parentReversed? path = some up) :
    (up.getLast? == some '/') = (path.getLast? == some '/') := by
  rw [parentReversed?] at parent
  split at parent
  · cases parent
  · cases parent
  · rename_i c rest _ trimmed
    cases parent
    have ends : (c :: rest).getLast? = path.getLast? :=
      last_of_suffix _ path (trimmed ▸ trim_end_suffix path) (List.cons_ne_nil _ _)
    generalize shape : (c :: rest).dropWhile (· != '/') = left
    have inside : left <:+ c :: rest := shape ▸ List.dropWhile_suffix _
    by_cases empty : trimEnd left = []
    · have whole := List.takeWhile_append_dropWhile (p := (· != '/')) (l := c :: rest)
      have slashless := List.all_takeWhile (p := (· != '/')) (l := c :: rest)
      rw [shape, trim_end_nil left empty, List.append_nil] at whole
      rw [whole, List.all_eq_true] at slashless
      rw [empty, ← ends, Bool.eq_iff_iff]
      constructor
      · intro impossible
        cases impossible
      · intro slash
        have member := List.mem_of_getLast? (beq_iff_eq.mp slash)
        exact absurd (slashless '/' member) (by decide)
    · rw [last_of_suffix _ _ ((trim_end_suffix left).trans inside) empty, ends]

theorem parent_start (working : List String) (path up : String) (parent : parent? path = some up) :
    start working up = start working path := by
  obtain ⟨reversed, found, rfl⟩ := Option.map_eq_some_iff.mp parent
  have same := parent_absolute _ _ found
  rw [← absolute_reversed, ← absolute_reversed, List.reverse_reverse, String.ofList_toList] at same
  rw [start, start, same]

theorem parent_passes (working : List String) (path up : String) (parent : parent? path = some up) (place : List String)
    (passes : Passes working up place) : Passes working path place := by
  have same := parent_start working path up parent
  obtain ⟨reversed, found, rfl⟩ := Option.map_eq_some_iff.mp parent
  rcases parent_cut _ _ found with rfl | rfl | ⟨dropped, cut⟩
  · rw [passes_skipped working _ place (by decide) passes, same]
    exact passes_start working path
  · rw [passes_skipped working _ place (by decide) passes, same]
    exact passes_start working path
  · have whole := reversed_cut _ _ _ cut
    exact passes_front working _ path dropped.reverse (by rw [String.toList_ofList, whole]) same place passes

theorem above_cut (path up : List Char) (member : up ∈ above path) : up ≠ [] ∧ ∃ dropped, path = dropped ++ '/' :: up := by
  fun_induction above path with
  | case1 => cases member
  | case2 => cases member
  | case3 path first parent inner ih =>
      have filled : first ≠ [] := by
        rintro rfl
        simp at inner
      have cut : ∃ dropped, path = dropped ++ '/' :: first := by
        rcases parent_cut path first parent with rfl | rfl | cut
        · simp at inner
        · simp at inner
        · exact cut
      rcases List.mem_cons.mp member with rfl | later
      · exact ⟨filled, cut⟩
      · obtain ⟨dropped, whole⟩ := cut
        obtain ⟨named, more, rest⟩ := ih later
        exact ⟨named, dropped ++ '/' :: more, by rw [whole, rest, List.append_assoc, List.cons_append]⟩

theorem parents_passes (working : List String) (path up : String) (member : up ∈ parents path) (place : List String)
    (passes : Passes working up place) : Passes working path place := by
  obtain ⟨reversed, inside, rfl⟩ := List.mem_map.mp member
  obtain ⟨filled, dropped, cut⟩ := above_cut _ _ inside
  have whole := reversed_cut _ _ _ cut
  have cut' : path.toList = (String.ofList reversed.reverse).toList ++ '/' :: dropped.reverse := by
    rw [String.toList_ofList, whole]
  refine passes_front working _ path dropped.reverse cut' ?_ place passes
  have named : String.ofList reversed.reverse ≠ "" := fun empty => filled (by simpa using congrArg String.toList empty)
  rw [start, start, absolute_front _ path _ cut' named]

theorem trim_end_root (path : List Char) (root : trimEnd path = ['/']) :
    ∀ piece ∈ pieces path.reverse, piece = [] ∨ piece = ['.'] := by
  fun_induction trimEnd path with
  | case1 c rest ih =>
      rw [List.reverse_cons, pieces_append]
      simpa [or_imp, forall_and, pieces] using ih root
  | case2 rest ih =>
      have before := ih root
      rw [List.reverse_cons, pieces_append] at before
      rw [List.reverse_cons, List.reverse_cons, List.append_assoc, List.singleton_append, pieces_append]
      simpa [or_imp, forall_and, pieces] using before
  | case3 path =>
      rw [root]
      decide

theorem parent_missing (working : List String) (path : String) (none : parent? path = none) (place : List String)
    (passes : Passes working path place) : place = start working path := by
  have missing : parentReversed? path.toList.reverse = .none := by simpa [parent?] using none
  refine passes_skipped working path place ?_ passes
  rw [parentReversed?] at missing
  split at missing
  · rename_i trimmed
    have empty := trim_end_nil _ trimmed
    rw [List.reverse_eq_nil_iff] at empty
    rw [segments, empty]
    decide
  · rename_i rest trimmed
    have harmless := trim_end_root _ (trim_end_slash _ rest trimmed ▸ trimmed)
    rw [List.reverse_reverse] at harmless
    intro segment member
    obtain ⟨piece, inside, rfl⟩ := List.mem_map.mp member
    exact (harmless piece inside).imp (congrArg String.ofList) (congrArg String.ofList)
  · cases missing

theorem parent_none (path : String) (none : parent? path = none) : path = "" ∨ isAbsolute path = true := by
  have missing : parentReversed? path.toList.reverse = .none := by simpa [parent?] using none
  rw [parentReversed?] at missing
  split at missing
  · rename_i trimmed
    have empty := trim_end_nil _ trimmed
    rw [List.reverse_eq_nil_iff] at empty
    exact .inl (String.toList_eq_nil_iff.mp empty)
  · rename_i rest trimmed
    obtain rfl := trim_end_slash _ rest trimmed
    have ends := last_of_suffix _ _ (trim_end_suffix path.toList.reverse) (by rw [trimmed]; exact List.cons_ne_nil _ _)
    rw [trimmed, List.getLast?_reverse] at ends
    exact .inr (by rw [isAbsolute, ← ends]; rfl)
  · cases missing

structure Bounded (working : List String) (inside way : List String → Prop) (path : String) : Prop where
  ends : inside (location working path)
  passes : ∀ place, Passes working path place → inside place ∨ way place

theorem bounded_below (working : List String) (directory name : String) (relative : isAbsolute name = false)
    (noUp : ".." ∉ segments name) (filled : directory ≠ "") :
    Bounded working (location working directory <+: ·) (Passes working directory) (join directory name) := by
  constructor
  · rw [location_under working directory name relative filled]
    exact leads_down _ _ noUp
  · intro place passes
    rcases passes_join working directory name relative filled place passes with before | ⟨front, whole, rfl⟩
    · exact .inr before
    · exact .inl (leads_down _ front fun up => noUp (whole.subset up))

end Path

end SuiteSync
