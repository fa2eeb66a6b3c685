import SuiteSync.Proofs.Adaptation.InPlace
import SuiteSync.Proofs.Adaptation.Insertions
import SuiteSync.Proofs.Settings

set_option autoImplicit false

namespace SuiteSync.Adaptation

open Text

structure CutAtSuites (text lead : List Char) (pieces : List (List Char)) : Prop where
  whole : text = lead ++ pieces.flatten
  declared : ∀ piece ∈ pieces, suiteStart <+: piece
  suites : ∀ above below, Suite text above below ↔ ∃ earlier piece later,
    pieces = earlier ++ piece :: later ∧ above = lead ++ earlier.flatten ∧ below = piece ++ later.flatten

theorem pieces_declared (separated : Bool) (pieces : List (List Char)) (cut : Pieces separated pieces) :
    ∀ piece ∈ pieces, suiteStart <+: piece := by
  induction cut with
  | nil => exact List.forall_mem_nil _
  | cons inner later quiet more ih => exact List.forall_mem_cons.mpr ⟨List.prefix_append _ _, ih⟩

theorem ends_separated_piece (before inner : List Char) :
    endsSeparated false (before ++ (suiteStart ++ inner)) = endsSeparated false inner := by
  rw [ends_separated_append, ends_separated_append]
  rfl

theorem suite_of_pieces (before piece : List Char) (separated : Bool) (earlier later : List (List Char))
    (cut : Pieces separated (earlier ++ piece :: later)) (start : endsSeparated false before = separated) :
    Suite (before ++ (earlier ++ piece :: later).flatten) (before ++ earlier.flatten) (piece ++ later.flatten) := by
  induction earlier generalizing before separated with
  | nil =>
      cases cut with
      | cons inner _ quiet more =>
          refine ⟨by simp, ?_, ?_⟩
          · rw [List.append_assoc]
            exact List.prefix_append _ _
          · rw [List.flatten_nil, List.append_nil]
            exact (ends_separated_iff before).mp start
  | cons first earlier ih =>
      cases cut with
      | cons inner _ quiet more =>
          have next := ih (before ++ (suiteStart ++ inner)) _ more (ends_separated_piece before inner)
          simpa only [List.cons_append, List.flatten_cons, List.append_assoc] using next

theorem pieces_of_suite (before above below : List Char) (separated : Bool) (pieces : List (List Char))
    (cut : Pieces separated pieces) (start : endsSeparated false before = separated)
    (suite : Suite (before ++ pieces.flatten) above below) (late : before.length ≤ above.length) :
    ∃ earlier piece later, pieces = earlier ++ piece :: later ∧ above = before ++ earlier.flatten ∧
      below = piece ++ later.flatten := by
  induction cut generalizing before with
  | nil =>
      rw [List.flatten_nil, List.append_nil] at suite
      exact absurd (suite_before_end before above below suite) (Nat.not_lt.mpr late)
  | cons inner later quiet more ih =>
      rw [List.flatten_cons] at suite
      rcases suite_of_piece before inner later.flatten above below quiet start suite late with
        ⟨rfl, rfl⟩ | ⟨between, rfl, same⟩
      · exact ⟨[], suiteStart ++ inner, later, rfl, by simp, rfl⟩
      · rw [← List.append_assoc before (suiteStart ++ inner)] at suite
        obtain ⟨earlier, piece, rest, rfl, above, below⟩ := ih _ (ends_separated_piece before inner) suite (by simp)
        refine ⟨(suiteStart ++ inner) :: earlier, piece, rest, rfl, ?_, below⟩
        rw [above, List.flatten_cons, List.append_assoc before]

theorem cut_at_suites (lead : List Char) (pieces : List (List Char)) (quiet : Quiet pieces.flatten false lead)
    (cut : Pieces (endsSeparated false lead) pieces) : CutAtSuites (lead ++ pieces.flatten) lead pieces := by
  refine ⟨rfl, pieces_declared _ pieces cut, fun above below => ⟨fun suite => ?_, ?_⟩⟩
  · exact pieces_of_suite lead above below _ pieces cut rfl suite (suite_after_lead lead _ above below quiet suite)
  · rintro ⟨earlier, piece, later, rfl, rfl, rfl⟩
    exact suite_of_pieces lead piece _ earlier later cut rfl

def suiteBySuite (hook : List Char) : List Char → List (List Char) → List Char
  | _, [] => []
  | before, piece :: later =>
      (match splitFirst? bodyOpening piece with
        | none => piece
        | some (declaration, body) =>
            declaration ++ bodyOpening ++ (missingBlock hook before (body ++ later.flatten) ++ body)) ++
      suiteBySuite hook (before ++ piece) later

theorem suite_by_suite_hooked (hook before : List Char) (separated : Bool) (pieces : List (List Char))
    (name : HookName hook) (cut : Pieces separated pieces) :
    suiteBySuite hook before pieces = (hookedPieces hook before pieces).flatten := by
  induction cut generalizing before with
  | nil => rfl
  | cons inner later quiet more ih =>
      rw [suiteBySuite, hookedPieces, List.flatten_cons, ih]
      cases found : splitFirst? bodyOpening (suiteStart ++ inner) with
      | none => simp only [hookedPiece, found]
      | some place =>
          obtain ⟨declaration, body⟩ := place
          obtain ⟨rest, -, rfl⟩ := piece_opening inner declaration body found
          rw [ends_separated_append, ends_separated_opening] at more
          rw [hooked_piece_parts _ _ _ _ _ found, ← missing_block_within hook before body later name more]

theorem hook_pieces_opened (hook before : List Char) (file : String) (pieces settled : List (List Char))
    (run : hookPieces hook file before pieces = .ok settled) : ∀ piece ∈ pieces, bodyOpening <:+: piece := by
  induction pieces generalizing before settled with
  | nil => exact List.forall_mem_nil _
  | cons piece later ih =>
      rw [hookPieces] at run
      split at run
      · cases run
      · rename_i rest hooked
        have opened : (splitFirst? bodyOpening piece).isSome = true := by
          cases found : splitFirst? bodyOpening piece with
          | some place => rfl
          | none =>
              rw [found] at run
              cases run
        exact List.forall_mem_cons.mpr ⟨(split_first_iff _ _).mp opened, ih _ rest hooked⟩

theorem hook_pieces_fails (hook before : List Char) (file : String) (pieces : List (List Char)) (error : AdaptError)
    (failed : hookPieces hook file before pieces = .error error) :
    ∃ earlier piece later, pieces = earlier ++ piece :: later ∧ ¬ bodyOpening <:+: piece ∧
      (∀ other ∈ later, bodyOpening <:+: other) ∧
      error = .suiteBodyNotFound file (1 + lineFeeds (before ++ earlier.flatten)) := by
  induction pieces generalizing before with
  | nil => cases failed
  | cons piece later ih =>
      rw [hookPieces] at failed
      split at failed
      · rename_i fault hooked
        cases failed
        obtain ⟨earlier, closed, rest, rfl, missing, opened, same⟩ := ih _ hooked
        refine ⟨piece :: earlier, closed, rest, rfl, missing, opened, ?_⟩
        rw [same, List.flatten_cons, List.append_assoc]
      · rename_i settled hooked
        cases found : splitFirst? bodyOpening piece with
        | none =>
            rw [found] at failed
            cases failed
            have missing : ¬ bodyOpening <:+: piece := fun inside => by
              have opened := (split_first_iff _ _).mpr inside
              rw [found] at opened
              cases opened
            exact ⟨[], piece, later, rfl, missing, hook_pieces_opened _ _ _ _ _ hooked, by simp⟩
        | some place =>
            rw [found] at failed
            simp only at failed
            split at failed <;> cases failed

/-- Hooking in place, from the last suite to the first, is hooking suite by suite. It succeeds when each piece opens a
body, and else reports the last piece that opens none, by the line of its declaration. -/
theorem hook_in_place_suite_by_suite (hook text : List Char) (file : String) (name : HookName hook) :
    ∃ lead pieces, CutAtSuites text lead pieces ∧ hookInPlace hook file text = hookSuites hook file text ∧
      ((∃ hooked, hookInPlace hook file text = .ok hooked) ↔ ∀ piece ∈ pieces, bodyOpening <:+: piece) ∧
      (∀ hooked, hookInPlace hook file text = .ok hooked → hooked = lead ++ suiteBySuite hook lead pieces) ∧
      ∀ error, hookInPlace hook file text = .error error → ∃ earlier piece later, pieces = earlier ++ piece :: later ∧
        ¬ bodyOpening <:+: piece ∧ (∀ other ∈ later, bodyOpening <:+: other) ∧
        error = .suiteBodyNotFound file (1 + lineFeeds (lead ++ earlier.flatten)) := by
  obtain ⟨quiet, cut⟩ := cut_suites_spec false text
  have whole := cut_suites_join false text
  have run := hook_suites_pieces hook file text
  rw [hook_in_place_settles, run]
  generalize (cutSuites false text).1 = lead at quiet cut whole
  generalize (cutSuites false text).2 = pieces at quiet cut whole
  subst whole
  refine ⟨lead, pieces, cut_at_suites lead pieces quiet cut, rfl, ?_⟩
  have settles := fun settled => hook_pieces_ok_iff hook lead file _ pieces settled name cut
  simp only [split_first_iff] at settles
  cases hooking : hookPieces hook file lead pieces with
  | error e =>
      have fails := hook_pieces_fails hook lead file pieces e hooking
      refine ⟨⟨?_, fun opened => ?_⟩, ?_, ?_⟩
      · rintro ⟨hooked, ⟨⟩⟩
      · cases hooking.symm.trans ((settles _).mpr ⟨opened, rfl⟩)
      · rintro hooked ⟨⟩
      · rintro error ⟨⟩
        exact fails
  | ok settled =>
      obtain ⟨opened, rfl⟩ := (settles settled).mp hooking
      refine ⟨⟨fun _ => opened, fun _ => ⟨_, rfl⟩⟩, ?_, ?_⟩
      · rintro hooked ⟨⟩
        rw [suite_by_suite_hooked hook lead _ pieces name cut]
      · rintro error ⟨⟩

theorem sample_suite_by_suite : HookName "h".toList ∧ ∃ lead pieces,
    CutAtSuites " describe(a\x7b\n\tdescribe(b\x7b\n".toList lead pieces ∧
    lead ++ suiteBySuite "h".toList lead pieces = (" describe(a\x7b\n" ++
      "   beforeEach(function () \x7b\n     h(this);\n   \x7d);\n\n\tdescribe(b\x7b\n" ++
      "\t  beforeEach(function () \x7b\n\t    h(this);\n\t  \x7d);\n\n").toList := by
  have name : HookName "h".toList := ⟨by decide, List.all_eq_true.mp (by decide), by decide⟩
  have run : (hookInPlace "h".toList "a.ts" " describe(a\x7b\n\tdescribe(b\x7b\n".toList).toOption =
      some (" describe(a\x7b\n" ++
        "   beforeEach(function () \x7b\n     h(this);\n   \x7d);\n\n\tdescribe(b\x7b\n" ++
        "\t  beforeEach(function () \x7b\n\t    h(this);\n\t  \x7d);\n\n").toList := by decide +kernel
  obtain ⟨lead, pieces, cut, _, _, hooked, _⟩ := hook_in_place_suite_by_suite _ _ "a.ts" name
  exact ⟨name, lead, pieces, cut, (hooked _ (except_of_option _ _ run)).symm⟩

end SuiteSync.Adaptation
