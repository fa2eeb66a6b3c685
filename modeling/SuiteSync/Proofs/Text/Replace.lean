import SuiteSync.Proofs.Text.Search

set_option autoImplicit false

namespace SuiteSync.Text

theorem substitute_apart (edit : List Char → Option (List Char × Nat)) (n : Nat) (front back : List Char)
    (short : n ≤ front.length) (ends : edit [] = none)
    (own : ∀ rest, rest ≠ [] → rest <:+ front → edit (rest ++ back) = edit rest)
    (within : ∀ rest new size, edit rest = some (new, size) → 0 < size ∧ size ≤ rest.length) :
    substitute edit n (front ++ back) = substitute edit n front ++ substitute edit 0 back := by
  induction front generalizing n with
  | nil =>
      obtain rfl := Nat.le_zero.mp short
      simp [substitute, ends]
  | cons c rest ih =>
      have later := fun m short => ih m short fun more filled ending => own more filled (ending.trans (List.suffix_cons c rest))
      cases n with
      | succ m => simpa [substitute] using later m (Nat.le_of_succ_le_succ short)
      | zero =>
          have here := own (c :: rest) (List.cons_ne_nil c rest) List.suffix_rfl
          rw [List.cons_append] at here
          rw [List.cons_append, substitute, substitute, here]
          cases found : edit (c :: rest) with
          | none => simp [later 0 (Nat.zero_le _)]
          | some result =>
              obtain ⟨new, size⟩ := result
              obtain ⟨filled, fits⟩ := within _ _ _ found
              cases size with
              | zero => cases filled
              | succ m => simp [later m (Nat.le_of_succ_le_succ fits)]

theorem substitute_plain (edit : List Char → Option (List Char × Nat)) (front back : List Char)
    (plain : ∀ rest, rest ≠ [] → rest <:+ front → edit (rest ++ back) = none) :
    substitute edit 0 (front ++ back) = front ++ substitute edit 0 back := by
  induction front with
  | nil => rfl
  | cons c rest ih =>
      have here := plain (c :: rest) (List.cons_ne_nil c rest) List.suffix_rfl
      have later := ih fun more filled ending => plain more filled (ending.trans (List.suffix_cons c rest))
      rw [List.cons_append] at here
      rw [List.cons_append, substitute, here]
      exact congrArg (c :: ·) later

theorem substitute_passed (edit : List Char → Option (List Char × Nat)) (front back : List Char) :
    substitute edit front.length (front ++ back) = substitute edit 0 back := by
  induction front with
  | nil => rfl
  | cons c rest ih => exact ih

theorem substitute_found (edit : List Char → Option (List Char × Nat)) (part back new : List Char) (filled : part ≠ [])
    (found : edit (part ++ back) = some (new, part.length)) :
    substitute edit 0 (part ++ back) = new ++ substitute edit 0 back := by
  cases part with
  | nil => exact absurd rfl filled
  | cons c rest =>
      rw [List.cons_append] at found ⊢
      rw [substitute, found, List.length_cons]
      exact congrArg (new ++ ·) (substitute_passed edit rest back)

theorem substitute_unstopped (edit : List Char → Option (List Char × Nat)) (n : Nat) (text : List Char) (p : Char → Bool)
    (stops : ∀ rest new size, edit rest = some (new, size) → ∃ inner stop, new = inner ++ [stop] ∧ p stop = false)
    (all : ∀ c ∈ substitute edit n text, p c = true) : substitute edit n text = text.drop n := by
  have none : ∀ rest new size tail, edit rest = some (new, size) → ¬ ∀ c ∈ new ++ tail, p c = true := by
    intro rest new size tail found all
    obtain ⟨inner, stop, rfl, stopped⟩ := stops rest new size found
    have kept := all stop (by simp)
    rw [stopped] at kept
    cases kept
  fun_induction substitute edit n text with
  | case1 =>
      cases found : edit [] with
      | none => rfl
      | some result => exact absurd (by simpa [found] using all) (none [] result.1 result.2 [] found)
  | case2 => rfl
  | case3 n c cs ih => exact ih all
  | case4 c cs _ ih =>
      rw [List.forall_mem_cons] at all
      rw [ih all.2, List.drop_zero, List.drop_zero]
  | case5 c cs new found ih => exact absurd all (none _ _ _ _ found)
  | case6 c cs new n found ih => exact absurd all (none _ _ _ _ found)

theorem substitute_ending (edit : List Char → Option (List Char × Nat)) (n : Nat) (text part : List Char) (p : Char → Bool)
    (stops : ∀ rest new size, edit rest = some (new, size) → ∃ inner stop, new = inner ++ [stop] ∧ p stop = false)
    (all : ∀ c ∈ part, p c = true) (ending : part <:+ substitute edit n text) : part <:+ text := by
  have after : ∀ rest new size tail, edit rest = some (new, size) → part <:+ new ++ tail → part <:+ tail := by
    intro rest new size tail found ending
    obtain ⟨inner, stop, rfl, stopped⟩ := stops rest new size found
    rw [List.append_assoc, List.singleton_append] at ending
    refine suffix_after_stop part inner tail stop (fun member => ?_) ending
    rw [all stop member] at stopped
    cases stopped
  have kept : ∀ c cs, (part <:+ substitute edit 0 cs → part <:+ cs) → part <:+ c :: substitute edit 0 cs →
      part <:+ c :: cs := by
    intro c cs later ending
    rcases List.suffix_cons_iff.mp ending with rfl | ending
    · rw [List.forall_mem_cons] at all
      have same := substitute_unstopped edit 0 cs p stops all.2
      exact ⟨[], congrArg (c :: ·) same⟩
    · exact (later ending).trans (List.suffix_cons c cs)
  fun_induction substitute edit n text with
  | case1 =>
      cases found : edit [] with
      | none => rwa [found] at ending
      | some result =>
          have empty := after [] result.1 result.2 [] found (by simpa [found] using ending)
          exact empty
  | case2 => exact ending
  | case3 n c cs ih => exact (ih ending).trans (List.suffix_cons c cs)
  | case4 c cs _ ih => exact kept c cs ih ending
  | case5 c cs new found ih => exact kept c cs ih (after _ _ _ _ found ending)
  | case6 c cs new n found ih => exact (ih (after _ _ _ _ found ending)).trans (List.suffix_cons c cs)

def Untouched (pattern front part back : List Char) : Prop :=
  ∀ above below, front ++ (part ++ back) = above ++ (pattern ++ below) →
    (above ++ pattern).length ≤ front.length ∨ (pattern ++ below).length ≤ back.length

theorem untouched_iff (pattern front part back : List Char) :
    Untouched pattern front part back ↔ ∀ n ∈ List.range ((front ++ (part ++ back)).length + 1),
      pattern <+: (front ++ (part ++ back)).drop n → n + pattern.length ≤ front.length ∨ (front ++ part).length ≤ n := by
  constructor
  · intro untouched n bound starts
    obtain ⟨below, same⟩ := starts
    have start : ((front ++ (part ++ back)).take n).length = n :=
      List.length_take_of_le (Nat.le_of_lt_succ (List.mem_range.mp bound))
    have whole := congrArg List.length same
    simp only [List.length_append, List.length_drop] at whole start bound ⊢
    have fits := List.mem_range.mp bound
    rcases untouched _ below (by rw [same, List.take_append_drop]) with before | after
    · rw [List.length_append, List.length_take, List.length_append, List.length_append] at before
      exact .inl (by omega)
    · rw [List.length_append] at after
      exact .inr (by omega)
  · intro places above below same
    have lengths := congrArg List.length same
    have starts : pattern <+: (front ++ (part ++ back)).drop above.length := by
      rw [same, List.drop_left]
      exact List.prefix_append pattern below
    simp only [List.length_append] at lengths
    rcases places above.length (List.mem_range.mpr (by simp only [List.length_append]; omega)) starts with before | after
    · exact .inl (by rwa [List.length_append])
    · rw [List.length_append] at after
      exact .inr (by rw [List.length_append]; omega)

instance (pattern front part back : List Char) : Decidable (Untouched pattern front part back) :=
  decidable_of_iff _ (untouched_iff pattern front part back).symm

theorem replace_untouched (pattern new front part back : List Char) (filled : pattern ≠ [])
    (untouched : Untouched pattern front part back) :
    replaceAll pattern new (front ++ (part ++ back)) =
      replaceAll pattern new front ++ (part ++ replaceAll pattern new back) := by
  rw [replaceAll, substitute_apart _ 0 front _ (Nat.zero_le _), substitute_plain]
  · rfl
  · rintro rest some ⟨earlier, rfl⟩
    refine if_neg fun starts => ?_
    obtain ⟨below, same⟩ := List.isPrefixOf_iff_prefix.mp starts
    rcases untouched (front ++ earlier) below (by simp [same]) with before | after
    · have positive := List.length_pos_iff.mpr filled
      simp only [List.length_append] at before
      omega
    · have positive := List.length_pos_iff.mpr some
      rw [same, List.length_append] at after
      omega
  · exact if_neg fun starts => filled (List.prefix_nil.mp (List.isPrefixOf_iff_prefix.mp starts))
  · rintro rest some ⟨earlier, rfl⟩
    have same : pattern <+: rest ++ (part ++ back) ↔ pattern <+: rest := by
      refine ⟨?_, fun starts => starts.trans (List.prefix_append _ _)⟩
      rintro ⟨below, starts⟩
      rcases untouched earlier below (by simp [starts]) with before | after
      · simp only [List.length_append, Nat.add_le_add_iff_left] at before
        exact List.prefix_of_prefix_length_le ⟨below, starts⟩ (List.prefix_append rest _) before
      · have positive := List.length_pos_iff.mpr some
        rw [starts, List.length_append, List.length_append] at after
        omega
    rw [← List.isPrefixOf_iff_prefix, ← List.isPrefixOf_iff_prefix, ← Bool.eq_iff_iff] at same
    rw [same]
  · intro rest other size found
    split at found
    · rename_i starts
      cases found
      exact ⟨List.length_pos_iff.mpr filled, (List.isPrefixOf_iff_prefix.mp starts).length_le⟩
    · cases found

end SuiteSync.Text
