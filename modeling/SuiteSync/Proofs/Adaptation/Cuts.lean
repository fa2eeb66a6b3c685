import SuiteSync.Adaptation.Suites
import SuiteSync.Proofs.Text.Search

set_option autoImplicit false

namespace SuiteSync.Adaptation

open Text

def endsSeparated : Bool → List Char → Bool
  | separated, [] => separated
  | _, c :: rest => endsSeparated (separatesSuite c) rest

def Quiet (after : List Char) : Bool → List Char → Prop
  | _, [] => True
  | separated, c :: rest =>
      ¬ (separated = true ∧ suiteStart <+: c :: rest ++ after) ∧ Quiet after (separatesSuite c) rest

inductive Pieces : Bool → List (List Char) → Prop
  | nil (separated : Bool) : Pieces separated []
  | cons (inner : List Char) (later : List (List Char)) (quiet : Quiet later.flatten false inner)
      (more : Pieces (endsSeparated false inner) later) : Pieces true ((suiteStart ++ inner) :: later)

@[simp] theorem ends_separated_append (separated : Bool) (front back : List Char) :
    endsSeparated separated (front ++ back) = endsSeparated (endsSeparated separated front) back := by
  induction front generalizing separated with
  | nil => rfl
  | cons c rest ih => exact ih (separatesSuite c)

@[simp] theorem ends_separated_last (separated : Bool) (front : List Char) (last : Char) :
    endsSeparated separated (front ++ [last]) = separatesSuite last := by
  rw [ends_separated_append]
  rfl

@[simp] theorem quiet_append (after : List Char) (separated : Bool) (front back : List Char) :
    Quiet after separated (front ++ back) ↔
      Quiet (back ++ after) separated front ∧ Quiet after (endsSeparated separated front) back := by
  induction front generalizing separated with
  | nil => simp [Quiet, endsSeparated]
  | cons c rest ih =>
      simp only [List.cons_append, Quiet, endsSeparated, ih, List.append_assoc, and_assoc]

theorem quiet_congr (after after' : List Char) (separated : Bool) (front : List Char)
    (same : ∀ text, text ≠ [] → text <:+ front → (suiteStart <+: text ++ after ↔ suiteStart <+: text ++ after')) :
    Quiet after separated front ↔ Quiet after' separated front := by
  induction front generalizing separated with
  | nil => exact Iff.rfl
  | cons c rest ih =>
      have here := same (c :: rest) (List.cons_ne_nil c rest) List.suffix_rfl
      have later := ih (separatesSuite c) fun text filled ending => same text filled (ending.trans (List.suffix_cons c rest))
      simp only [Quiet, here, later]

theorem quiet_before_pieces (separated next : Bool) (front : List Char) (pieces pieces' : List (List Char))
    (cut : Pieces next pieces) (cut' : Pieces next pieces') (both : pieces = [] ↔ pieces' = []) :
    Quiet pieces.flatten separated front ↔ Quiet pieces'.flatten separated front := by
  apply quiet_congr
  intro text filled _
  cases cut with
  | nil => rw [both.mp rfl]
  | cons inner later =>
      cases cut' with
      | nil => exact absurd (both.mpr rfl) (List.cons_ne_nil _ _)
      | cons inner' later' =>
          simp only [List.flatten_cons, List.append_assoc]
          rw [← List.append_assoc text, ← List.append_assoc text]
          exact prefix_of_longer _ _ _ _ (by simp)

theorem quiet_before_stop (after after' : List Char) (separated : Bool) (front : List Char) (stop : Char)
    (foreign : stop ∉ suiteStart) (quiet : Quiet after separated (front ++ [stop])) :
    Quiet after' separated (front ++ [stop]) := by
  refine (quiet_congr after after' separated (front ++ [stop]) ?_).mp quiet
  intro text filled ending
  -- A declaration that starts in the front would have to hold the stop: what comes after it is out of reach.
  obtain ⟨shorter, rfl⟩ : ∃ shorter, text = shorter ++ [stop] := by
    obtain ⟨earlier, whole⟩ := ending
    rcases List.eq_nil_or_concat text with empty | ⟨shorter, last, same⟩
    · exact absurd empty filled
    · rw [same, List.concat_eq_append, ← List.append_assoc] at whole
      exact ⟨shorter, by rw [same, List.concat_eq_append, (List.append_inj' whole rfl).2]⟩
  simp only [List.append_assoc, List.singleton_append, prefix_before_stop _ _ _ _ foreign]

theorem quiet_without_start (after : List Char) (separated : Bool) (text : List Char) (free : 'd' ∉ text) :
    Quiet after separated text := by
  induction text generalizing separated with
  | nil => trivial
  | cons c rest ih =>
      refine ⟨fun declared => free ?_, ih _ fun member => free (List.mem_cons_of_mem c member)⟩
      exact (List.cons_prefix_cons.mp declared.2).1 ▸ List.mem_cons_self

theorem quiet_unseparated (after : List Char) (text : List Char) (joined : ∀ c ∈ text, separatesSuite c = false) :
    Quiet after false text := by
  induction text with
  | nil => trivial
  | cons c rest ih =>
      refine ⟨fun declared => Bool.false_ne_true declared.1, ?_⟩
      rw [joined c List.mem_cons_self]
      exact ih fun d member => joined d (List.mem_cons_of_mem c member)

theorem quiet_suite_start (after : List Char) : Quiet after false suiteStart.tail := by
  have joined : (suiteStart.tail.all fun c => !separatesSuite c) = true := by decide
  refine quiet_unseparated after _ fun c member => ?_
  simpa using List.all_eq_true.mp joined c member

theorem cut_quiet (separated : Bool) (front rest : List Char) (quiet : Quiet rest separated front) :
    cutSuites separated (front ++ rest) =
      (front ++ (cutSuites (endsSeparated separated front) rest).1, (cutSuites (endsSeparated separated front) rest).2) := by
  induction front generalizing separated with
  | nil => rfl
  | cons c more ih =>
      have none : ¬ (separated && suiteStart.isPrefixOf (c :: (more ++ rest))) = true := by
        rw [Bool.and_eq_true, List.isPrefixOf_iff_prefix]
        exact quiet.1
      simp only [List.cons_append, cutSuites, if_neg none, ih _ quiet.2, endsSeparated]

theorem cut_at_suite (rest : List Char) :
    cutSuites true (suiteStart ++ rest) =
      ([], (suiteStart ++ (cutSuites false rest).1) :: (cutSuites false rest).2) := by
  have start : suiteStart ++ rest = 'd' :: (suiteStart.tail ++ rest) := rfl
  have declared : (true && suiteStart.isPrefixOf ('d' :: (suiteStart.tail ++ rest))) = true :=
    List.isPrefixOf_iff_prefix.mpr (start ▸ List.prefix_append suiteStart rest)
  have inner := cut_quiet false suiteStart.tail rest (quiet_suite_start rest)
  have flag : separatesSuite 'd' = false := rfl
  simp only [start, cutSuites, if_pos declared, flag, inner]
  rfl

theorem cut_suites_spec (separated : Bool) (text : List Char) :
    Quiet (cutSuites separated text).2.flatten separated (cutSuites separated text).1 ∧
      Pieces (endsSeparated separated (cutSuites separated text).1) (cutSuites separated text).2 := by
  induction text generalizing separated with
  | nil => exact ⟨trivial, .nil _⟩
  | cons c rest ih =>
      by_cases declared : separated = true ∧ suiteStart <+: c :: rest
      · obtain ⟨rfl, tail, start⟩ := declared
        -- The declaration itself is quiet, so the text cut off goes at least to its end.
        obtain ⟨rfl, rfl⟩ : c = 'd' ∧ rest = suiteStart.tail ++ tail := by
          cases start
          exact ⟨rfl, rfl⟩
        have whole : 'd' :: (suiteStart.tail ++ tail) = suiteStart ++ tail := rfl
        rw [whole, cut_at_suite]
        have inner := ih false
        rw [cut_quiet false suiteStart.tail tail (quiet_suite_start tail)] at inner
        obtain ⟨quiet, more⟩ := inner
        rw [quiet_append] at quiet
        rw [ends_separated_append] at more
        exact ⟨trivial, .cons _ _ quiet.2 more⟩
      · have none : ¬ (separated && suiteStart.isPrefixOf (c :: rest)) = true := by
          rw [Bool.and_eq_true, List.isPrefixOf_iff_prefix]
          exact declared
        have inner := ih (separatesSuite c)
        have whole := cut_suites_join (separatesSuite c) rest
        simp only [cutSuites, if_neg none]
        refine ⟨⟨?_, inner.1⟩, inner.2⟩
        rw [List.cons_append, whole]
        exact declared

theorem cut_of_pieces (separated : Bool) (lead : List Char) (pieces : List (List Char))
    (quiet : Quiet pieces.flatten separated lead) (cut : Pieces (endsSeparated separated lead) pieces) :
    cutSuites separated (lead ++ pieces.flatten) = (lead, pieces) := by
  -- The lead is quiet, so what is left is the cut of the pieces; the induction is on their list.
  suffices own : cutSuites (endsSeparated separated lead) pieces.flatten = ([], pieces) by
    rw [cut_quiet _ _ _ quiet, own, List.append_nil]
  clear quiet
  generalize endsSeparated separated lead = next at cut
  induction cut with
  | nil => rfl
  | cons inner later quiet more ih =>
      rw [List.flatten_cons, List.append_assoc, cut_at_suite, cut_quiet _ _ _ quiet, ih, List.append_nil]

end SuiteSync.Adaptation
