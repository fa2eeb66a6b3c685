import SuiteSync.Text.Search

set_option autoImplicit false

namespace SuiteSync.Text

theorem prefix_of_longer (first rest rest' pattern : List Char) (long : pattern.length ≤ first.length) :
    pattern <+: first ++ rest ↔ pattern <+: first ++ rest' := by
  have inside : ∀ tail, pattern <+: first ++ tail ↔ pattern <+: first := fun tail =>
    ⟨fun starts => List.prefix_of_prefix_length_le starts (List.prefix_append first tail) long,
      fun starts => starts.trans (List.prefix_append first tail)⟩
  rw [inside rest, inside rest']

theorem prefix_before_stop (pattern front after : List Char) (stop : Char) (foreign : stop ∉ pattern) :
    pattern <+: front ++ stop :: after ↔ pattern <+: front := by
  constructor
  · intro starts
    rcases Nat.le_total pattern.length front.length with short | long
    · exact List.prefix_of_prefix_length_le starts (List.prefix_append _ _) short
    · obtain ⟨more, same⟩ := List.prefix_of_prefix_length_le (List.prefix_append _ _) starts long
      cases more with
      | nil => exact (List.append_nil front).symm.trans same ▸ List.prefix_rfl
      | cons c rest =>
          rw [← same] at starts
          have first := (List.cons_prefix_cons.mp ((List.prefix_append_right_inj front).mp starts)).1
          exact absurd (same ▸ List.mem_append_right front (first ▸ List.mem_cons_self)) foreign
  · exact fun starts => starts.trans (List.prefix_append _ _)

theorem infix_around_stop (pattern front back : List Char) (stop : Char) (foreign : stop ∉ pattern)
    (inside : pattern <:+: front ++ stop :: back) : pattern <:+: front ∨ pattern <:+: back := by
  induction front with
  | nil =>
      rcases List.infix_cons_iff.mp inside with starts | later
      · exact .inl ((prefix_before_stop pattern [] back stop foreign).mp starts).isInfix
      · exact .inr later
  | cons c rest ih =>
      rcases List.infix_cons_iff.mp inside with starts | later
      · exact .inl ((prefix_before_stop pattern (c :: rest) back stop foreign).mp starts).isInfix
      · exact (ih later).imp_left fun within => within.trans (List.infix_cons List.infix_rfl)

theorem suffix_after_stop (pattern front back : List Char) (stop : Char) (foreign : stop ∉ pattern)
    (ending : pattern <:+ front ++ stop :: back) : pattern <:+ back := by
  have starts := List.reverse_prefix.mpr ending
  rw [List.reverse_append, List.reverse_cons, List.append_assoc, List.singleton_append] at starts
  refine List.reverse_prefix.mp ((prefix_before_stop _ _ _ stop ?_).mp starts)
  rwa [List.mem_reverse]

theorem char_within (front middle back front' back' : List Char) (c : Char)
    (same : front ++ middle ++ back = front' ++ c :: back') (after : front.length ≤ front'.length)
    (before : front'.length < front.length + middle.length) : c ∈ middle := by
  have there : (front' ++ c :: back')[front'.length]? = some c := by simp
  rw [← same, List.append_assoc, List.getElem?_append_right after, List.getElem?_append_left (by omega)] at there
  exact List.mem_of_getElem? there

theorem strip_none_append (pattern text tail : List Char) (apart : strip pattern text = none)
    (long : pattern.length ≤ text.length) : strip pattern (text ++ tail) = none := by
  cases found : strip pattern (text ++ tail) with
  | none => rfl
  | some rest =>
      have starts : pattern <+: text ++ tail := ⟨rest, ((strip_eq_some_iff _ _ _).mp found).symm⟩
      obtain ⟨more, same⟩ := List.prefix_of_prefix_length_le starts (List.prefix_append text tail) long
      rw [← same, strip_append] at apart
      cases apart

theorem split_first_append (pattern text tail before after : List Char)
    (found : splitFirst? pattern text = some (before, after)) :
    splitFirst? pattern (text ++ tail) = some (before, after ++ tail) := by
  induction text generalizing before with
  | nil =>
      obtain ⟨rest, stripped, same⟩ := Option.map_eq_some_iff.mp found
      cases same
      obtain ⟨rfl, rfl⟩ := List.append_eq_nil_iff.mp ((strip_eq_some_iff _ _ _).mp stripped).symm
      cases tail <;> rfl
  | cons c cs ih =>
      rw [splitFirst?] at found
      split at found
      · rename_i rest stripped
        cases found
        have whole := (strip_eq_some_iff _ _ _).mp stripped
        have again : strip pattern (c :: (cs ++ tail)) = some (after ++ tail) := by
          rw [← List.cons_append, whole, List.append_assoc, strip_append]
        rw [List.cons_append, splitFirst?, again]
      · rename_i apart
        obtain ⟨⟨earlier, later⟩, split, same⟩ := Option.map_eq_some_iff.mp found
        cases same
        have long : pattern.length ≤ (c :: cs).length := by
          have joined := congrArg List.length (split_first_join _ _ _ _ split)
          simp only [List.length_append] at joined
          simp only [List.length_cons]
          omega
        have still := strip_none_append pattern (c :: cs) tail apart long
        rw [List.cons_append] at still ⊢
        rw [splitFirst?, still, ih earlier split]
        rfl

theorem front_unique (p : Char → Bool) (front front' tail tail' : List Char) (c d : Char)
    (all : ∀ e ∈ front, p e = true) (all' : ∀ e ∈ front', p e = true) (ends : p c = false) (ends' : p d = false)
    (same : front ++ c :: tail = front' ++ d :: tail') : front = front' ∧ c :: tail = d :: tail' := by
  have fronts := congrArg (List.takeWhile p) same
  rw [List.takeWhile_append_of_pos all, List.takeWhile_append_of_pos all', List.takeWhile_cons, List.takeWhile_cons, ends,
    ends'] at fronts
  have equal : front = front' := by simpa using fronts
  exact ⟨equal, List.append_cancel_left (equal ▸ same)⟩

theorem split_first_leftmost (pattern text before after front back : List Char)
    (found : splitFirst? pattern text = some (before, after)) (also : text = front ++ pattern ++ back) :
    before.length ≤ front.length := by
  induction text generalizing before front with
  | nil =>
      obtain ⟨rest, stripped, same⟩ := Option.map_eq_some_iff.mp found
      cases same
      exact Nat.zero_le _
  | cons c cs ih =>
      rw [splitFirst?] at found
      split at found
      · cases found
        exact Nat.zero_le _
      · rename_i apart
        obtain ⟨⟨earlier, later⟩, split, same⟩ := Option.map_eq_some_iff.mp found
        cases same
        cases front with
        | nil =>
            rw [List.nil_append] at also
            rw [also, strip_append] at apart
            cases apart
        | cons d more =>
            rw [List.cons_append, List.cons_append] at also
            exact Nat.succ_le_succ (ih earlier more split (List.cons.inj also).2)

theorem split_first_none (pattern text : List Char) (missing : splitFirst? pattern text = none) (front back : List Char) :
    text ≠ front ++ pattern ++ back := by
  induction text generalizing front with
  | nil =>
      intro same
      have stripped := (strip_eq_some_iff pattern [] back).mpr (by simp_all)
      rw [splitFirst?, stripped] at missing
      cases missing
  | cons c cs ih =>
      intro same
      rw [splitFirst?] at missing
      split at missing
      · cases missing
      · rename_i apart
        have none : splitFirst? pattern cs = none := Option.map_eq_none_iff.mp missing
        cases front with
        | nil =>
            rw [List.nil_append] at same
            rw [same, strip_append] at apart
            cases apart
        | cons d more =>
            rw [List.cons_append, List.cons_append] at same
            exact ih none more (List.cons.inj same).2

theorem split_first_at (pattern before after : List Char)
    (leftmost : ∀ front back, before ++ pattern ++ after = front ++ pattern ++ back → before.length ≤ front.length) :
    splitFirst? pattern (before ++ pattern ++ after) = some (before, after) := by
  cases found : splitFirst? pattern (before ++ pattern ++ after) with
  | none => exact absurd rfl (split_first_none _ _ found before after)
  | some place =>
      obtain ⟨earlier, later⟩ := place
      have joined := split_first_join _ _ _ _ found
      have bound := split_first_leftmost _ _ _ _ before after found rfl
      have equal := Nat.le_antisymm bound (leftmost earlier later joined)
      rw [List.append_assoc, List.append_assoc] at joined
      obtain ⟨same, rest⟩ := List.append_inj joined equal.symm
      rw [same, List.append_cancel_left rest]

theorem occurrences_from_bound (pattern before text : List Char) (n : Nat) (place : Occurrence)
    (member : place ∈ occurrencesFrom pattern before n text) : before.length + n ≤ place.before.length := by
  fun_induction occurrencesFrom pattern before n text with
  | case1 before =>
      obtain ⟨after, _, same⟩ := List.mem_map.mp member
      exact same ▸ Nat.le_refl _
  | case2 => cases member
  | case3 before n c cs ih =>
      have later := ih member
      simp only [List.length_cons] at later
      omega
  | case4 before c cs after stripped ih =>
      rcases List.mem_cons.mp member with same | later
      · exact same ▸ Nat.le_refl _
      · have bound := ih later
        simp only [List.length_cons] at bound
        omega
  | case5 before c cs _ ih =>
      have later := ih member
      simp only [List.length_cons] at later
      omega

theorem occurrences_from_ascending (pattern before text : List Char) (n : Nat) :
    (occurrencesFrom pattern before n text).Pairwise fun first second =>
      first.before.length < second.before.length := by
  fun_induction occurrencesFrom pattern before n text with
  | case1 before =>
      cases strip pattern [] with
      | none => exact List.Pairwise.nil
      | some after => exact List.pairwise_singleton _ _
  | case2 => exact List.Pairwise.nil
  | case3 before n c cs ih => exact ih
  | case4 before c cs after stripped ih =>
      refine List.pairwise_cons.mpr ⟨fun place member => ?_, ih⟩
      have bound := occurrences_from_bound _ _ _ _ place member
      exact Nat.lt_of_lt_of_le (Nat.lt_succ_self before.length) (Nat.le_trans (Nat.le_add_right _ _) bound)
  | case5 before c cs _ ih => exact ih

theorem split_first_rest (pattern text before after other : List Char)
    (found : splitFirst? pattern text = some (before, after)) :
    splitFirst? pattern (before ++ pattern ++ other) = some (before, other) := by
  have joined := split_first_join _ _ _ _ found
  -- What the text goes on with after the place found does not matter, not even when it is nothing.
  have ending : splitFirst? pattern (before ++ pattern ++ []) = some (before, []) := by
    refine split_first_at pattern before [] fun front back same => ?_
    rw [List.append_nil] at same
    refine split_first_leftmost pattern text before after front (back ++ after) found ?_
    rw [joined, same, List.append_assoc]
  have longer := split_first_append _ _ other _ _ ending
  rwa [List.append_nil, List.nil_append] at longer

theorem split_first_iff (pattern text : List Char) : (splitFirst? pattern text).isSome = true ↔ pattern <:+: text := by
  cases found : splitFirst? pattern text with
  | none =>
      have missing := split_first_none pattern text found
      refine ⟨fun none => (Bool.false_ne_true none).elim, ?_⟩
      rintro ⟨front, back, same⟩
      exact absurd same.symm (missing front back)
  | some place =>
      exact ⟨fun _ => ⟨place.1, place.2, (split_first_join _ _ _ _ found).symm⟩, fun _ => rfl⟩

def Unlapped (pattern text : List Char) (position : Nat) : Prop :=
  ∀ front back, text = front ++ pattern ++ back → front.length < position → front.length + pattern.length ≤ position

theorem unlapped_tail (pattern text : List Char) (c : Char) (position : Nat)
    (unlapped : Unlapped pattern (c :: text) (position + 1)) : Unlapped pattern text position := by
  intro front back same less
  have bound := unlapped (c :: front) back (congrArg (c :: ·) same) (Nat.succ_lt_succ less)
  simp only [List.length_cons] at bound
  omega

theorem occurrences_from_found (pattern before text front back : List Char) (n : Nat) (filled : pattern ≠ [])
    (split : text = front ++ pattern ++ back) (late : n ≤ front.length) (unlapped : Unlapped pattern text front.length) :
    ⟨front.reverse ++ before, back⟩ ∈ occurrencesFrom pattern before n text := by
  fun_induction occurrencesFrom pattern before n text generalizing front with
  | case1 before => simp_all
  | case2 => simp_all
  | case3 before n c cs ih =>
      cases front with
      | nil => cases late
      | cons d more =>
          obtain ⟨rfl, rest⟩ := List.cons.inj split
          simpa using ih more rest (Nat.le_of_succ_le_succ late) (unlapped_tail _ _ _ _ unlapped)
  | case4 before c cs after stripped ih =>
      have whole := (strip_eq_some_iff _ _ _).mp stripped
      cases front with
      | nil =>
          rw [whole, List.nil_append] at split
          rw [List.append_cancel_left split]
          exact List.mem_cons_self
      | cons d more =>
          -- The place found here ends before the one in question starts.
          have long := unlapped [] after whole (Nat.succ_pos _)
          obtain ⟨rfl, rest⟩ := List.cons.inj split
          simp only [List.length_nil, List.length_cons] at long
          exact List.mem_cons_of_mem _ (by simpa using ih more rest (by omega) (unlapped_tail _ _ _ _ unlapped))
  | case5 before c cs missing ih =>
      cases front with
      | nil =>
          rw [split, List.nil_append, strip_append] at missing
          cases missing
      | cons d more =>
          obtain ⟨rfl, rest⟩ := List.cons.inj split
          simpa using ih more rest (Nat.zero_le _) (unlapped_tail _ _ _ _ unlapped)

end SuiteSync.Text
