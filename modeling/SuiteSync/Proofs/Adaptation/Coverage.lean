import SuiteSync.Proofs.Adaptation.Suites

set_option autoImplicit false

namespace SuiteSync.Adaptation

open Text

inductive Hooked (hook : List Char) : List Char → List (List Char) → Prop
  | nil (before : List Char) : Hooked hook before []
  | cons (before piece declaration body : List Char) (later : List (List Char))
      (found : splitFirst? bodyOpening piece = some (declaration, body))
      (starts : hookBlock (lastIndent before) hook <+: body) (more : Hooked hook (before ++ piece) later) :
      Hooked hook before (piece :: later)

theorem missing_block_starts (hook before body : List Char) :
    hookBlock (lastIndent before) hook <+: missingBlock hook before body ++ body := by
  rw [missingBlock]
  split
  · rename_i starts
    exact List.isPrefixOf_iff_prefix.mp starts
  · exact List.prefix_append _ _

theorem block_last_line (front indent hook body : List Char) :
    lastLine (front ++ hookBlock indent hook ++ body) = lastLine body := by
  rw [hook_block_lines, ← List.append_assoc, List.append_assoc _ ['\n'], List.singleton_append, last_line_after_feed]

theorem opening_last_line (front body : List Char) : lastLine (front ++ bodyOpening ++ body) = lastLine body := by
  rw [opening_chars, List.append_assoc, List.singleton_append, last_line_after_feed]

theorem hooked_piece_last_line (hook before before' piece declaration body : List Char)
    (found : splitFirst? bodyOpening piece = some (declaration, body)) :
    lastLine (before' ++ hookedPiece hook before piece) = lastLine (before ++ piece) := by
  have plain : lastLine (before ++ piece) = lastLine body := by
    rw [split_first_join _ _ _ _ found, ← List.append_assoc, ← List.append_assoc, opening_last_line]
  rw [plain, hooked_piece_parts _ _ _ _ _ found, missingBlock]
  split
  · rw [List.nil_append, ← List.append_assoc, ← List.append_assoc, opening_last_line]
  · rw [← List.append_assoc, ← List.append_assoc, block_last_line]

theorem hooked_pieces_hooked (hook before before' : List Char) (pieces : List (List Char))
    (opened : ∀ piece ∈ pieces, (splitFirst? bodyOpening piece).isSome) (line : lastLine before' = lastLine before) :
    Hooked hook before' (hookedPieces hook before pieces) := by
  induction pieces generalizing before before' with
  | nil => exact .nil _
  | cons piece later ih =>
      rw [List.forall_mem_cons] at opened
      obtain ⟨⟨declaration, body⟩, found⟩ := Option.isSome_iff_exists.mp opened.1
      have own : splitFirst? bodyOpening (hookedPiece hook before piece) =
          some (declaration, missingBlock hook before body ++ body) := by
        rw [hooked_piece_parts _ _ _ _ _ found]
        exact split_first_rest _ _ _ _ _ found
      have indent : lastIndent before' = lastIndent before := congrArg (List.takeWhile isIndent) line
      refine .cons before' _ declaration _ _ own ?_ (ih _ _ opened.2 (hooked_piece_last_line _ _ _ _ _ _ found))
      rw [indent]
      exact missing_block_starts hook before body

theorem hooked_opened (hook before : List Char) (pieces : List (List Char)) (hooked : Hooked hook before pieces) :
    ∀ piece ∈ pieces, (splitFirst? bodyOpening piece).isSome := by
  induction hooked with
  | nil => exact List.forall_mem_nil _
  | cons before piece declaration body later found starts more ih =>
      exact List.forall_mem_cons.mpr ⟨Option.isSome_of_eq_some found, ih⟩

theorem hooked_kept (hook before : List Char) (pieces : List (List Char)) (hooked : Hooked hook before pieces) :
    hookedPieces hook before pieces = pieces := by
  induction hooked with
  | nil => rfl
  | cons before piece declaration body later found starts more ih =>
      have none : missingBlock hook before body = [] := if_pos (List.isPrefixOf_iff_prefix.mpr starts)
      rw [hookedPieces, ih, hooked_piece_parts _ _ _ _ _ found, none, List.nil_append,
        ← split_first_join _ _ _ _ found]

theorem hooked_at (hook before piece : List Char) (earlier later : List (List Char))
    (hooked : Hooked hook before (earlier ++ piece :: later)) :
    ∃ declaration body, splitFirst? bodyOpening piece = some (declaration, body) ∧
      hookBlock (lastIndent (before ++ earlier.flatten)) hook <+: body := by
  induction earlier generalizing before with
  | nil =>
      cases hooked with
      | cons _ _ declaration body _ found starts more =>
          exact ⟨declaration, body, found, by rwa [List.flatten_nil, List.append_nil]⟩
  | cons first earlier ih =>
      cases hooked with
      | cons _ _ _ _ _ _ _ more =>
          rw [List.flatten_cons, ← List.append_assoc]
          exact ih _ more

theorem hooked_pieces_length (hook before : List Char) (pieces : List (List Char)) :
    (hookedPieces hook before pieces).length = pieces.length := by
  induction pieces generalizing before with
  | nil => rfl
  | cons piece later ih => rw [hookedPieces, List.length_cons, List.length_cons, ih]

theorem hooked_suites_kept (hook lead : List Char) (file : String) (pieces : List (List Char)) (name : HookName hook)
    (quiet : Quiet pieces.flatten false lead) (cut : Pieces (endsSeparated false lead) pieces)
    (hooked : Hooked hook lead pieces) :
    hookSuites hook file (lead ++ pieces.flatten) = .ok (lead ++ pieces.flatten) := by
  rw [hook_suites_pieces_ok hook lead file pieces name quiet cut (hooked_opened hook lead pieces hooked),
    hooked_kept hook lead pieces hooked]

/-- A hooked text has the suites of the text that it was made from. Each of them opens a body, which starts with the
block for the suite's own line, and hooking the text again leaves it as it is. -/
theorem hook_suites_settled (hook text hooked : List Char) (file : String) (name : HookName hook)
    (run : hookSuites hook file text = .ok hooked) :
    ∃ lead pieces settled, CutAtSuites text lead pieces ∧ CutAtSuites hooked lead settled ∧
      settled.length = pieces.length ∧
      (∀ earlier piece later, settled = earlier ++ piece :: later → ∃ declaration body,
        splitFirst? bodyOpening piece = some (declaration, body) ∧
        hookBlock (lastIndent (lead ++ earlier.flatten)) hook <+: body) ∧
      ∀ again, hookSuites hook again hooked = .ok hooked := by
  obtain ⟨lead, pieces, rfl, quiet, cut, opened, rfl⟩ := hook_suites_ok hook text hooked file name run
  have cut' := hooked_pieces_cut hook lead _ pieces name cut
  have length := hooked_pieces_length hook lead pieces
  have both : pieces = [] ↔ hookedPieces hook lead pieces = [] := by
    rw [← List.length_eq_zero_iff, ← List.length_eq_zero_iff, length]
  have quiet' := (quiet_before_pieces false _ lead pieces _ cut cut' both).mp quiet
  have covered := hooked_pieces_hooked hook lead lead pieces opened rfl
  refine ⟨lead, pieces, _, cut_at_suites lead pieces quiet cut, cut_at_suites lead _ quiet' cut', length, ?_, ?_⟩
  · intro earlier piece later split
    exact hooked_at hook lead piece earlier later (split ▸ covered)
  · exact fun again => hooked_suites_kept hook lead again _ name quiet' cut' covered

theorem sample_hooked_settled : HookName "h".toList ∧
    hookSuites "h".toList "a.ts" " describe(a\x7b\n\tdescribe(b\x7b\n".toList =
      .ok (" describe(a\x7b\n" ++ "   beforeEach(function () \x7b\n     h(this);\n   \x7d);\n\n\tdescribe(b\x7b\n" ++
        "\t  beforeEach(function () \x7b\n\t    h(this);\n\t  \x7d);\n\n").toList ∧
    hookSuites "h".toList "b.ts" (" describe(a\x7b\n" ++
        "   beforeEach(function () \x7b\n     h(this);\n   \x7d);\n\n\tdescribe(b\x7b\n" ++
        "\t  beforeEach(function () \x7b\n\t    h(this);\n\t  \x7d);\n\n").toList =
      .ok (" describe(a\x7b\n" ++ "   beforeEach(function () \x7b\n     h(this);\n   \x7d);\n\n\tdescribe(b\x7b\n" ++
        "\t  beforeEach(function () \x7b\n\t    h(this);\n\t  \x7d);\n\n").toList ∧
    ∃ lead settled, CutAtSuites (" describe(a\x7b\n" ++
        "   beforeEach(function () \x7b\n     h(this);\n   \x7d);\n\n\tdescribe(b\x7b\n" ++
        "\t  beforeEach(function () \x7b\n\t    h(this);\n\t  \x7d);\n\n").toList lead settled := by
  have name : HookName "h".toList := ⟨by decide, List.all_eq_true.mp (by decide), by decide⟩
  have run : (hookSuites "h".toList "a.ts" " describe(a\x7b\n\tdescribe(b\x7b\n".toList).toOption =
      some (" describe(a\x7b\n" ++
        "   beforeEach(function () \x7b\n     h(this);\n   \x7d);\n\n\tdescribe(b\x7b\n" ++
        "\t  beforeEach(function () \x7b\n\t    h(this);\n\t  \x7d);\n\n").toList := by decide +kernel
  have ran := except_of_option _ _ run
  obtain ⟨lead, _, settled, _, cut, _, _, again⟩ := hook_suites_settled _ _ _ "a.ts" name ran
  exact ⟨name, ran, again "b.ts", lead, settled, cut⟩

end SuiteSync.Adaptation
