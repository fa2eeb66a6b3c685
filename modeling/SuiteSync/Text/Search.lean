set_option autoImplicit false

namespace SuiteSync.Text

def strip : List Char → List Char → Option (List Char)
  | [], text => some text
  | _ :: _, [] => none
  | p :: ps, c :: cs => if p = c then strip ps cs else none

def splitFirst? (pattern : List Char) : List Char → Option (List Char × List Char)
  | [] => (strip pattern []).map fun rest => ([], rest)
  | c :: cs =>
      match strip pattern (c :: cs) with
      | some rest => some ([], rest)
      | none => (splitFirst? pattern cs).map fun (before, after) => (c :: before, after)

-- Replaces from left to right. `edit` sees the text from one position on and answers, where it wants a
-- replacement, with the new text and the number of characters it stands for; the counter holds how many of those
-- are still to be passed. A replacement of no characters is an insertion.
def substitute (edit : List Char → Option (List Char × Nat)) : Nat → List Char → List Char
  | 0, [] => (edit []).elim [] Prod.fst
  | _ + 1, [] => []
  | n + 1, _ :: cs => substitute edit n cs
  | 0, c :: cs =>
      match edit (c :: cs) with
      | none => c :: substitute edit 0 cs
      | some (new, 0) => new ++ c :: substitute edit 0 cs
      | some (new, n + 1) => new ++ substitute edit n cs

def replaceAll (pattern new text : List Char) : List Char :=
  substitute (fun rest => if pattern.isPrefixOf rest then some (new, pattern.length) else none) 0 text

structure Occurrence where
  before : List Char
  after : List Char
deriving DecidableEq, Repr

def occurrencesFrom (pattern : List Char) (before : List Char) : Nat → List Char → List Occurrence
  | 0, [] => (strip pattern []).toList.map fun after => ⟨before, after⟩
  | _ + 1, [] => []
  | n + 1, c :: cs => occurrencesFrom pattern (c :: before) n cs
  | 0, c :: cs =>
      match strip pattern (c :: cs) with
      | some after => ⟨before, after⟩ :: occurrencesFrom pattern (c :: before) (pattern.length - 1) cs
      | none => occurrencesFrom pattern (c :: before) 0 cs

def occurrences (pattern text : List Char) : List Occurrence := occurrencesFrom pattern [] 0 text

theorem strip_eq_some_iff (pattern text rest : List Char) :
    strip pattern text = some rest ↔ text = pattern ++ rest := by
  fun_induction strip pattern text with
  | case1 => simp [eq_comm]
  | case2 => simp
  | case3 p ps cs ih => simp [ih]
  | case4 p ps c cs different => simp [Ne.symm different]

@[simp] theorem strip_append (pattern rest : List Char) : strip pattern (pattern ++ rest) = some rest :=
  (strip_eq_some_iff _ _ _).mpr rfl

theorem split_first_join (pattern text before after : List Char)
    (found : splitFirst? pattern text = some (before, after)) : text = before ++ pattern ++ after := by
  fun_induction splitFirst? pattern text generalizing before with
  | case1 =>
      obtain ⟨rest, stripped, same⟩ := Option.map_eq_some_iff.mp found
      cases same
      simpa using (strip_eq_some_iff _ _ _).mp stripped
  | case2 c cs rest stripped =>
      cases found
      simpa using (strip_eq_some_iff _ _ _).mp stripped
  | case3 c cs _ ih =>
      obtain ⟨⟨earlier, later⟩, split, same⟩ := Option.map_eq_some_iff.mp found
      cases same
      simp [ih earlier split]

theorem occurrences_from_join (pattern before text : List Char) (n : Nat) (place : Occurrence)
    (member : place ∈ occurrencesFrom pattern before n text) :
    before.reverse ++ text = place.before.reverse ++ pattern ++ place.after := by
  fun_induction occurrencesFrom pattern before n text with
  | case1 before =>
      obtain ⟨after, stripped, same⟩ := List.mem_map.mp member
      subst same
      have := (strip_eq_some_iff _ _ _).mp (Option.mem_toList.mp stripped)
      simp [List.append_assoc, ← this]
  | case2 => simp at member
  | case3 before n c cs ih => simpa using ih member
  | case4 before c cs after stripped ih =>
      rcases List.mem_cons.mp member with same | later
      · subst same
        simp [(strip_eq_some_iff _ _ _).mp stripped]
      · simpa using ih later
  | case5 before c cs _ ih => simpa using ih member

end SuiteSync.Text
