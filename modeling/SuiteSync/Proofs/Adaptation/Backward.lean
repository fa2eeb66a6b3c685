import Mathlib.Logic.ExistsUnique
import SuiteSync.Adaptation.Backward
import SuiteSync.Proofs.Adaptation.Hits
import SuiteSync.Proofs.Text.Search

set_option autoImplicit false

namespace SuiteSync.Adaptation

open Text

theorem last_start_found (pattern above below : List Char) (c : Char) (ends : pattern.getLast? = some c)
    (foreign : c ∉ below) : lastStart? pattern (above ++ pattern ++ below) = some above.length := by
  obtain ⟨front, rfl⟩ := List.getLast?_eq_some_iff.mp ends
  have found := split_first_at (front ++ [c]).reverse below.reverse above.reverse fun earlier later same => by
    refine Nat.le_of_not_lt fun before => foreign (List.mem_reverse.mp ?_)
    exact char_within [] below.reverse ((front ++ [c]).reverse ++ above.reverse) earlier (front.reverse ++ later) c
      (by simpa using same) (Nat.zero_le _) (by simpa using before)
  have reversed : (above ++ (front ++ [c]) ++ below).reverse =
      below.reverse ++ (front ++ [c]).reverse ++ above.reverse := by simp
  rw [lastStart?, reversed, found, Option.map_some, List.length_reverse]

theorem turn_settled_split (before : List Char) (stop start : Nat) (settled : turnAt before stop = .settled (some start)) :
    ∃ above, above ++ testOpening <+: before ∧ above.length = start ∧ standsAlone above.reverse = true := by
  rw [turnAt] at settled
  split at settled
  · cases settled
  · rename_i found
    split at settled
    · rename_i alone
      cases settled
      obtain ⟨above, below, split, rfl⟩ := last_start_split _ _ _ found
      have whole : above ++ testOpening <+: before :=
        (split ▸ List.prefix_append _ below).trans (List.take_prefix stop before)
      obtain ⟨rest, same⟩ := whole
      refine ⟨above, ⟨rest, same⟩, rfl, ?_⟩
      rwa [← same, List.append_assoc, List.take_left] at alone
    · cases settled

inductive Answers (before : List Char) : Nat → Option Nat → Prop
  | now (stop : Nat) (start : Option Nat) (turned : turnAt before stop = .settled start) : Answers before stop start
  | later (stop earlier : Nat) (start : Option Nat) (turned : turnAt before stop = .back earlier)
      (rest : Answers before earlier start) : Answers before stop start

theorem answers_iff (before : List Char) (stop : Nat) (start : Option Nat) :
    Answers before stop start ↔ start = startAbove? before stop := by
  constructor
  · intro answers
    induction answers with
    | now stop start turned => rw [startAbove?, turned]
    | later stop earlier start turned rest ih => rw [startAbove?, turned, ih]
  · rintro rfl
    fun_induction startAbove? before stop with
    | case1 stop start turned => exact .now stop start turned
    | case2 stop earlier turned ih => exact .later stop earlier _ turned ih

theorem start_above_split (before : List Char) (stop start : Nat) (found : startAbove? before stop = some start) :
    ∃ above, above ++ testOpening <+: before ∧ above.length = start ∧ standsAlone above.reverse = true := by
  fun_induction startAbove? before stop with
  | case1 stop settled turned => exact turn_settled_split before stop start (found ▸ turned)
  | case2 stop earlier turned ih => exact ih found

-- A test marks the name at a position when it stands alone, when nothing but blanks and quotes stands between the
-- two and when the last of those quotes follows the name.
structure Marks (text : List Char) (place length start : Nat) : Prop where
  opening : testOpening <+: text.drop start
  alone : ∀ above c, text.take start = above ++ [c] → isIdentifierPart c = false
  apart : start + 3 < place
  leading : ∀ c ∈ (text.take place).drop (start + 3), isBlank c = true ∨ isQuote c = true
  closed : ∀ front quote rest, (text.take place).drop (start + 3) = front ++ quote :: rest → isQuote quote = true →
    (∀ c ∈ rest, isQuote c = false) → text[place + length]? = some quote

structure TestAbove (before after above gap : List Char) : Prop where
  split : before = above ++ testOpening ++ gap
  alone : standsAlone above.reverse = true
  filled : gap ≠ []
  leading : ∀ c ∈ gap, leads c = true
  closed : closesName gap after = true

theorem text_above (before name after : List Char) : (before ++ name ++ after).take before.length = before := by
  rw [List.append_assoc, List.take_left]

theorem text_in_gap (above gap : List Char) : (above ++ testOpening ++ gap).drop (above.length + 3) = gap := by
  rw [← test_opening_length, ← List.length_append, List.drop_left]

theorem stands_alone_iff (above : List Char) :
    standsAlone above.reverse = true ↔ ∀ front c, above = front ++ [c] → isIdentifierPart c = false := by
  rcases List.eq_nil_or_concat above with rfl | ⟨front, c, rfl⟩
  · simp
  · simp

theorem last_quote_iff (gap : List Char) (quote : Char) :
    gap.reverse.find? isQuote = some quote ↔
      isQuote quote = true ∧ ∃ front rest, gap = front ++ quote :: rest ∧ ∀ c ∈ rest, isQuote c = false := by
  rw [List.find?_eq_some_iff_append]
  refine and_congr_right fun _ => ⟨?_, ?_⟩
  · rintro ⟨after, before, split, none⟩
    refine ⟨before.reverse, after.reverse, ?_, fun c member => by simpa using none c (List.mem_reverse.mp member)⟩
    simpa using congrArg List.reverse split
  · rintro ⟨front, rest, rfl, none⟩
    exact ⟨rest.reverse, front.reverse, by simp, fun c member => by simpa using none c (List.mem_reverse.mp member)⟩

theorem closes_name_iff (gap after : List Char) :
    closesName gap after = true ↔ ∀ front quote rest, gap = front ++ quote :: rest → isQuote quote = true →
      (∀ c ∈ rest, isQuote c = false) → after.head? = some quote := by
  rw [closesName]
  cases found : gap.reverse.find? isQuote with
  | none =>
      refine iff_of_true rfl fun front quote rest split isQuote none => ?_
      have last := (last_quote_iff gap quote).mpr ⟨isQuote, front, rest, split, none⟩
      cases found.symm.trans last
  | some quote =>
      obtain ⟨opens, front, rest, split, none⟩ := (last_quote_iff gap quote).mp found
      refine ⟨fun closed front' quote' rest' split' opens' none' => ?_, fun closed => ?_⟩
      · have last := (last_quote_iff gap quote').mpr ⟨opens', front', rest', split', none'⟩
        rw [← Option.some.inj (found.symm.trans last)]
        exact beq_iff_eq.mp closed
      · exact beq_iff_eq.mpr (closed front quote rest split opens none)

theorem marks_iff (before name after : List Char) (start : Nat) :
    Marks (before ++ name ++ after) before.length name.length start ↔
      ∃ above gap, above.length = start ∧ TestAbove before after above gap := by
  have behind : (before ++ name ++ after)[before.length + name.length]? = after.head? := by
    rw [← List.length_append, List.getElem?_append_right (Nat.le_refl _), Nat.sub_self, List.head?_eq_getElem?]
  constructor
  · rintro ⟨opening, alone, apart, leading, closed⟩
    simp only [text_above, behind] at leading closed
    have long : start ≤ before.length := by omega
    rw [List.append_assoc, List.take_append_of_le_length long] at alone
    rw [List.append_assoc, List.drop_append_of_le_length long] at opening
    have room : testOpening.length ≤ (before.drop start).length := by
      simp only [List.length_drop, test_opening_length]
      omega
    obtain ⟨gap, split⟩ := List.prefix_of_prefix_length_le opening (List.prefix_append _ _) room
    have gapped : before.drop (start + 3) = gap := by
      rw [← List.drop_drop, ← split]
      rfl
    refine ⟨before.take start, gap, List.length_take_of_le long, ?_, (stands_alone_iff _).mpr alone, ?_, ?_, ?_⟩
    · rw [List.append_assoc, split, List.take_append_drop]
    · rintro rfl
      have empty := congrArg List.length gapped
      rw [List.length_drop, List.length_nil] at empty
      omega
    · intro c member
      rw [leads, Bool.or_eq_true]
      exact leading c (gapped ▸ member)
    · exact (closes_name_iff gap after).mpr (gapped ▸ closed)
  · rintro ⟨above, gap, rfl, rfl, alone, filled, leading, closed⟩
    have between : ((above ++ testOpening ++ gap ++ name ++ after).take (above ++ testOpening ++ gap).length).drop
        (above.length + 3) = gap := by rw [text_above, text_in_gap]
    refine ⟨?_, ?_, ?_, ?_, ?_⟩
    · simp
    · simp only [List.append_assoc, List.take_left]
      exact (stands_alone_iff above).mp alone
    · have held := List.length_pos_iff.mpr filled
      simp
      omega
    · rw [between]
      simpa [leads] using leading
    · rw [between, behind]
      exact (closes_name_iff gap after).mp closed

theorem nearest_opening (above gap : List Char) (leading : ∀ c ∈ gap, leads c = true) :
    lastStart? testOpening (above ++ testOpening ++ gap) = some above.length := by
  refine last_start_found testOpening above gap '(' rfl fun member => ?_
  exact absurd (leading '(' member) (by decide)

theorem marker_before_iff (before name after : List Char) (start : Nat) :
    markerBefore? (before ++ name ++ after) before.length name.length = some start ↔
      ∃ above gap, above.length = start ∧ TestAbove before after above gap := by
  have behind : (before ++ name ++ after).drop (before.length + name.length) = after := by
    rw [← List.length_append, List.drop_left]
  simp only [markerBefore?, text_above, behind, test_opening_length]
  constructor
  · intro marked
    split at marked
    · cases marked
    · rename_i start' found
      obtain ⟨above, ⟨gap, rfl⟩, rfl, alone⟩ := start_above_split _ _ _ found
      rw [text_in_gap] at marked
      split at marked
      · rename_i fits
        cases marked
        rw [Bool.and_eq_true, leads_to_name_iff] at fits
        exact ⟨above, gap, rfl, rfl, alone, fits.1.1, fits.1.2, fits.2⟩
      · cases marked
  · rintro ⟨above, gap, rfl, rfl, alone, filled, leading, closed⟩
    have turned : turnAt (above ++ testOpening ++ gap) (above ++ testOpening ++ gap).length = .settled (some above.length) := by
      rw [turnAt, List.take_length, nearest_opening above gap leading]
      simp only [List.append_assoc, List.take_left, alone, if_true]
    have found : startAbove? (above ++ testOpening ++ gap) (above ++ testOpening ++ gap).length = some above.length := by
      rw [startAbove?, turned]
    rw [found]
    simp only [text_in_gap, (leads_to_name_iff gap).mpr ⟨filled, leading⟩, closed, Bool.and_true, if_true]

theorem declaration_start_iff (before after : List Char) (start : Nat) :
    (declaration? ⟨before.reverse, after⟩).map (fun found => found.1.length) = some start ↔
      ∃ above gap, above.length = start ∧ TestAbove before after above gap := by
  rw [Option.map_eq_some_iff]
  constructor
  · rintro ⟨⟨above, gap⟩, declared, same⟩
    obtain ⟨whole, alone, filled, leading, closed⟩ := (declaration_iff _ _ _).mp declared
    refine ⟨above.reverse, gap, ?_, ?_, ?_, filled, leading, closed⟩
    · rw [List.length_reverse, same]
    · rw [List.reverse_reverse] at whole
      rw [whole, testOpening]
      simp
    · rw [List.reverse_reverse, alone]
  · rintro ⟨above, gap, rfl, rfl, alone, filled, leading, closed⟩
    refine ⟨(above.reverse, gap), (declaration_iff _ _ _).mpr ⟨?_, alone, filled, leading, closed⟩, List.length_reverse⟩
    simp [testOpening]

/-- The search above a name comes to an end, with one answer. It finds a start of a test exactly when that start marks the
name; this is then the nearest start there is and the only mark, and it is the test that a skip of the name takes. -/
theorem marker_is_nearest_opening (before name after : List Char) :
    (∃! start, Answers before before.length start) ∧
      (∀ start, markerBefore? (before ++ name ++ after) before.length name.length = some start ↔
        Marks (before ++ name ++ after) before.length name.length start) ∧
      (∀ start, markerBefore? (before ++ name ++ after) before.length name.length = some start →
        lastStart? testOpening before = some start) ∧
      (∀ start other, Marks (before ++ name ++ after) before.length name.length start →
        Marks (before ++ name ++ after) before.length name.length other → start = other) ∧
      (declaration? ⟨before.reverse, after⟩).map (fun found => found.1.length) =
        markerBefore? (before ++ name ++ after) before.length name.length := by
  have direct : ∀ start, markerBefore? (before ++ name ++ after) before.length name.length = some start ↔
      Marks (before ++ name ++ after) before.length name.length start := fun start =>
    (marker_before_iff before name after start).trans (marks_iff before name after start).symm
  refine ⟨⟨_, (answers_iff _ _ _).mpr rfl, fun start => (answers_iff _ _ _).mp⟩, direct, fun start marked => ?_,
    fun start other marks marks' => ?_, ?_⟩
  · obtain ⟨above, gap, rfl, rfl, _, _, leading, _⟩ := (marker_before_iff before name after start).mp marked
    exact nearest_opening above gap leading
  · exact Option.some.inj (((direct start).mpr marks).symm.trans ((direct other).mpr marks'))
  · exact Option.ext fun start =>
      (declaration_start_iff before after start).trans (marker_before_iff before name after start).symm

end SuiteSync.Adaptation
