import SuiteSync.Adaptation.Exclusions
import SuiteSync.Proofs.Adaptation.Cuts
import SuiteSync.Proofs.Text.Search

set_option autoImplicit false

namespace SuiteSync.Adaptation

open Text

def suiteWord : List Char := "describe".toList

theorem suite_start_word : suiteStart = suiteWord ++ ['('] := by decide

structure HookName (hook : List Char) : Prop where
  named : hook ≠ []
  parts : ∀ c ∈ hook, isIdentifierPart c = true
  other : hook ≠ suiteWord

theorem identifier_part_ascii (c : Char) (ascii : c.toNat < 0x80) :
    isIdentifierPart c = (c.isAlphanum || c == '_' || c == '$') := by
  rw [isIdentifierPart, isAlphanumeric, if_pos ascii]

theorem identifier_part_ne (c d : Char) (part : isIdentifierPart c = true) (ascii : d.toNat < 0x80)
    (foreign : (d.isAlphanum || d == '_' || d == '$') = false) : c ≠ d := by
  intro same
  rw [same, identifier_part_ascii d ascii, foreign] at part
  cases part

theorem identifier_part_joins (c : Char) (part : isIdentifierPart c = true) : separatesSuite c = false := by
  have space := identifier_part_ne c ' ' part (by decide) (by decide)
  have tab := identifier_part_ne c '\t' part (by decide) (by decide)
  have feed := identifier_part_ne c '\n' part (by decide) (by decide)
  simp [separatesSuite, space, tab, feed]

theorem quiet_hook_name (hook after : List Char) (separated : Bool) (name : HookName hook) :
    Quiet ('(' :: after) separated hook := by
  cases shape : hook with
  | nil => trivial
  | cons c rest =>
      refine ⟨fun declared => name.other ?_, ?_⟩
      · have noBracket : ∀ d ∈ hook, (d != '(') = true := fun d member =>
          bne_iff_ne.mpr (identifier_part_ne d '(' (name.parts d member) (by decide) (by decide))
        obtain ⟨tail, start⟩ := declared.2
        have bracket : ('(' != '(') = false := by decide
        have word : ∀ d ∈ suiteWord, (d != '(') = true := List.all_eq_true.mp (by decide)
        rw [← shape, suite_start_word, List.append_assoc] at start
        have words := congrArg (List.takeWhile (· != '(')) start
        rw [List.takeWhile_append_of_pos word, List.takeWhile_append_of_pos noBracket, List.singleton_append,
          List.takeWhile_cons, List.takeWhile_cons, bracket] at words
        simpa using words.symm
      · have first := identifier_part_joins c (name.parts c (shape ▸ List.mem_cons_self))
        rw [first]
        refine quiet_unseparated _ rest fun d member => ?_
        exact identifier_part_joins d (name.parts d (shape ▸ List.mem_cons_of_mem c member))

theorem indent_free (indent : List Char) (blank : ∀ c ∈ indent, isIndent c = true) (c : Char)
    (visible : isIndent c = false) : c ∉ indent := by
  intro member
  rw [blank c member] at visible
  cases visible

theorem last_indent_blank (before : List Char) : ∀ c ∈ lastIndent before, isIndent c = true :=
  List.all_eq_true.mp List.all_takeWhile

def blockOpening (indent : List Char) : List Char :=
  indent ++ [' ', ' ', 'b', 'e', 'f', 'o', 'r', 'e', 'E', 'a', 'c', 'h', '(', 'f', 'u', 'n', 'c', 't', 'i', 'o', 'n',
    ' ', '(', ')', ' ', '\x7b', '\n'] ++ indent ++ [' ', ' ', ' ', ' ']

def blockEnding (indent : List Char) : List Char :=
  ['t', 'h', 'i', 's', ')', ';', '\n'] ++ indent ++ [' ', ' ', '\x7d', ')', ';', '\n', '\n']

theorem regroup_block (indent hook a b c d a' b' c' d' : List Char) (first : a = a') (second : b = b')
    (call : c = '(' :: c') (fourth : d = d') :
    indent ++ a ++ indent ++ b ++ hook ++ c ++ indent ++ d =
      indent ++ a' ++ indent ++ b' ++ (hook ++ '(' :: (c' ++ indent ++ d')) := by
  subst first second call fourth
  simp only [List.append_assoc, List.cons_append]

theorem hook_block_parts (indent hook : List Char) :
    hookBlock indent hook = blockOpening indent ++ (hook ++ '(' :: blockEnding indent) :=
  regroup_block indent hook _ _ _ _ _ _ _ _ (by decide) (by decide) (by decide) (by decide)

def blockLines (indent hook : List Char) : List Char :=
  blockOpening indent ++ (hook ++ '(' :: (['t', 'h', 'i', 's', ')', ';', '\n'] ++ indent ++
    [' ', ' ', '\x7d', ')', ';', '\n']))

theorem hook_block_lines (indent hook : List Char) : hookBlock indent hook = blockLines indent hook ++ ['\n'] := by
  rw [hook_block_parts, blockEnding, blockLines]
  simp only [List.append_assoc, List.cons_append, List.nil_append]

theorem quiet_hook_block (indent hook after : List Char) (separated : Bool) (name : HookName hook)
    (blank : ∀ c ∈ indent, isIndent c = true) : Quiet after separated (hookBlock indent hook) := by
  have free := indent_free indent blank 'd' (by decide)
  rw [hook_block_parts, quiet_append, quiet_append]
  refine ⟨quiet_without_start _ _ _ ?_, quiet_hook_name hook _ _ name, quiet_without_start _ _ _ ?_⟩
  · simp [blockOpening, free]
  · simp [blockEnding, free]

@[simp] theorem ends_separated_block (separated : Bool) (indent hook : List Char) :
    endsSeparated separated (hookBlock indent hook) = true := by
  have ending : blockEnding indent = (['t', 'h', 'i', 's', ')', ';', '\n'] ++ indent ++
      [' ', ' ', '\x7d', ')', ';', '\n']) ++ ['\n'] := by simp [blockEnding]
  rw [hook_block_parts, ends_separated_append, ends_separated_append, ending, ← List.cons_append, ends_separated_last]
  rfl

theorem block_within_body (indent hook body : List Char) (later : List (List Char)) (name : HookName hook)
    (blank : ∀ c ∈ indent, isIndent c = true) (cut : Pieces (endsSeparated true body) later) :
    hookBlock indent hook <+: body ++ later.flatten ↔ hookBlock indent hook <+: body := by
  constructor
  · intro starts
    rcases Nat.le_total (hookBlock indent hook).length body.length with short | long
    · exact List.prefix_of_prefix_length_le starts (List.prefix_append _ _) short
    · obtain ⟨extra, same⟩ := List.prefix_of_prefix_length_le (List.prefix_append body _) starts long
      cases extra with
      | nil => exact ((List.append_nil body).symm.trans same) ▸ List.prefix_rfl
      | cons c more =>
          obtain ⟨tail, whole⟩ := starts
          rw [← same, List.append_assoc] at whole
          have next := List.append_cancel_left whole
          have quiet := quiet_hook_block indent hook tail true name blank
          rw [← same, quiet_append] at quiet
          generalize endsSeparated true body = separated at cut quiet
          cases cut with
          | nil => cases next
          | cons inner rest =>
              refine absurd ⟨rfl, ?_⟩ quiet.2.1
              rw [next, List.flatten_cons, List.append_assoc]
              exact List.prefix_append _ _
  · exact fun starts => starts.trans (List.prefix_append _ _)

def hookedPiece (hook before piece : List Char) : List Char :=
  match splitFirst? bodyOpening piece with
  | none => piece
  | some (declaration, body) =>
      if (hookBlock (lastIndent before) hook).isPrefixOf body then piece
      else declaration ++ bodyOpening ++ hookBlock (lastIndent before) hook ++ body

def hookedPieces (hook : List Char) : List Char → List (List Char) → List (List Char)
  | _, [] => []
  | before, piece :: later => hookedPiece hook before piece :: hookedPieces hook (before ++ piece) later

theorem piece_opening (inner declaration body : List Char)
    (found : splitFirst? bodyOpening (suiteStart ++ inner) = some (declaration, body)) :
    ∃ rest, declaration = suiteStart ++ rest ∧ inner = rest ++ bodyOpening ++ body := by
  have joined := split_first_join _ _ _ _ found
  have stop : declaration ++ bodyOpening ++ body = declaration ++ '\x7b' :: ('\n' :: body) := by
    rw [List.append_assoc]
    rfl
  have starts : suiteStart <+: declaration ++ '\x7b' :: ('\n' :: body) :=
    stop ▸ joined ▸ List.prefix_append suiteStart inner
  obtain ⟨rest, same⟩ := (prefix_before_stop _ _ _ _ (by decide)).mp starts
  refine ⟨rest, same.symm, ?_⟩
  rw [← same, List.append_assoc, List.append_assoc] at joined
  rw [List.append_cancel_left joined, List.append_assoc]

theorem opening_chars (rest : List Char) : rest ++ bodyOpening = rest ++ ['\x7b'] ++ ['\n'] := by
  rw [List.append_assoc]
  rfl

@[simp] theorem ends_separated_opening (separated : Bool) (rest : List Char) :
    endsSeparated separated (rest ++ bodyOpening) = true := by
  rw [opening_chars, ends_separated_last]
  rfl

theorem quiet_insert_block (indent hook rest body after : List Char) (separated : Bool) (name : HookName hook)
    (blank : ∀ c ∈ indent, isIndent c = true) (quiet : Quiet after separated (rest ++ bodyOpening ++ body)) :
    Quiet after separated (rest ++ bodyOpening ++ hookBlock indent hook ++ body) ∧
      endsSeparated separated (rest ++ bodyOpening ++ hookBlock indent hook ++ body) =
        endsSeparated separated (rest ++ bodyOpening ++ body) := by
  have ends := ends_separated_opening separated rest
  rw [quiet_append, ends] at quiet
  rw [quiet_append, quiet_append, ends_separated_append _ _ (hookBlock indent hook), ends_separated_block]
  refine ⟨⟨⟨?_, quiet_hook_block _ _ _ _ name blank⟩, quiet.2⟩, ?_⟩
  · rw [opening_chars] at quiet ⊢
    exact quiet_before_stop _ _ _ _ '\n' (by decide) quiet.1
  · rw [ends_separated_append, ends_separated_append _ _ (hookBlock indent hook), ends_separated_block,
      ends_separated_append, ends]

theorem hooked_pieces_cut (hook before : List Char) (separated : Bool) (pieces : List (List Char)) (name : HookName hook)
    (cut : Pieces separated pieces) : Pieces separated (hookedPieces hook before pieces) := by
  induction cut generalizing before with
  | nil => exact .nil _
  | cons inner later quiet more ih =>
      have tail := ih (before ++ (suiteStart ++ inner))
      have both : later = [] ↔ hookedPieces hook (before ++ (suiteStart ++ inner)) later = [] := by
        cases later <;> simp [hookedPieces]
      have quiet' := (quiet_before_pieces false _ inner later _ more tail both).mp quiet
      have kept : Pieces true ((suiteStart ++ inner) :: hookedPieces hook (before ++ (suiteStart ++ inner)) later) :=
        .cons inner _ quiet' tail
      simp only [hookedPieces, hookedPiece]
      split
      · exact kept
      · rename_i declaration body found
        split
        · exact kept
        · obtain ⟨rest, rfl, rfl⟩ := piece_opening inner declaration body found
          obtain ⟨inserted, ends⟩ := quiet_insert_block (lastIndent before) hook rest body _ false name
            (last_indent_blank before) quiet'
          have shape : suiteStart ++ rest ++ bodyOpening ++ hookBlock (lastIndent before) hook ++ body =
              suiteStart ++ (rest ++ bodyOpening ++ hookBlock (lastIndent before) hook ++ body) := by
            simp only [List.append_assoc]
          rw [shape]
          exact .cons _ _ inserted (ends ▸ tail)

theorem hook_pieces_ok_iff (hook before : List Char) (file : String) (separated : Bool) (pieces settled : List (List Char))
    (name : HookName hook) (cut : Pieces separated pieces) :
    hookPieces hook file before pieces = .ok settled ↔
      (∀ piece ∈ pieces, (splitFirst? bodyOpening piece).isSome) ∧ settled = hookedPieces hook before pieces := by
  induction cut generalizing before settled with
  | nil =>
      constructor
      · rintro ⟨⟩
        exact ⟨List.forall_mem_nil _, rfl⟩
      · rintro ⟨_, rfl⟩
        rfl
  | cons inner later quiet more ih =>
      have next := ih (before ++ (suiteStart ++ inner))
      have tail := hooked_pieces_cut hook (before ++ (suiteStart ++ inner)) _ later name more
      rw [hookPieces, hookedPieces, hookedPiece]
      cases run : hookPieces hook file (before ++ (suiteStart ++ inner)) later with
      | error e =>
          simp only [List.forall_mem_cons, reduceCtorEq, false_iff, not_and]
          intro opened _
          cases run.symm.trans ((next _).mpr ⟨opened.2, rfl⟩)
      | ok rest =>
          obtain ⟨opened, rfl⟩ := (next rest).mp run
          cases found : splitFirst? bodyOpening (suiteStart ++ inner) with
          | none => simp [found]
          | some place =>
              obtain ⟨declaration, body⟩ := place
              -- The search for the block sees all later pieces with their blocks, but the own body decides.
              have within : (hookBlock (lastIndent before) hook).isPrefixOf
                  (body ++ (hookedPieces hook (before ++ (suiteStart ++ inner)) later).flatten) =
                  (hookBlock (lastIndent before) hook).isPrefixOf body := by
                obtain ⟨rest, rfl, rfl⟩ := piece_opening inner declaration body found
                have flag : endsSeparated false (rest ++ bodyOpening ++ body) = endsSeparated true body := by
                  rw [ends_separated_append, ends_separated_opening]
                rw [Bool.eq_iff_iff, List.isPrefixOf_iff_prefix, List.isPrefixOf_iff_prefix]
                exact block_within_body _ _ _ _ name (last_indent_blank before) (flag ▸ tail)
              simp only [within, List.forall_mem_cons, found, Option.isSome_some, true_and]
              have same : ∀ pieces', Except.ok (ε := AdaptError) pieces' = .ok settled ↔
                  (∀ piece ∈ later, (splitFirst? bodyOpening piece).isSome) ∧ settled = pieces' := fun pieces' =>
                ⟨fun equal => ⟨opened, (Except.ok.inj equal).symm⟩, fun equal => congrArg _ equal.2.symm⟩
              split
              · exact same _
              · exact same _

theorem hook_suites_ok (hook text hooked : List Char) (file : String) (name : HookName hook)
    (run : hookSuites hook file text = .ok hooked) :
    ∃ lead pieces, text = lead ++ pieces.flatten ∧ Quiet pieces.flatten false lead ∧
      Pieces (endsSeparated false lead) pieces ∧ (∀ piece ∈ pieces, (splitFirst? bodyOpening piece).isSome) ∧
      hooked = lead ++ (hookedPieces hook lead pieces).flatten := by
  obtain ⟨quiet, cut⟩ := cut_suites_spec false text
  rw [hook_suites_pieces] at run
  cases hooking : hookPieces hook file (cutSuites false text).1 (cutSuites false text).2 with
  | error e =>
      rw [hooking] at run
      cases run
  | ok settled =>
      rw [hooking] at run
      cases run
      obtain ⟨opened, rfl⟩ := (hook_pieces_ok_iff _ _ _ _ _ _ name cut).mp hooking
      exact ⟨_, _, (cut_suites_join false text).symm, quiet, cut, opened, rfl⟩

theorem hook_suites_pieces_ok (hook lead : List Char) (file : String) (pieces : List (List Char)) (name : HookName hook)
    (quiet : Quiet pieces.flatten false lead) (cut : Pieces (endsSeparated false lead) pieces)
    (opened : ∀ piece ∈ pieces, (splitFirst? bodyOpening piece).isSome) :
    hookSuites hook file (lead ++ pieces.flatten) = .ok (lead ++ (hookedPieces hook lead pieces).flatten) := by
  have settled := (hook_pieces_ok_iff hook lead file _ pieces _ name cut).mpr ⟨opened, rfl⟩
  rw [hook_suites_pieces, cut_of_pieces false lead pieces quiet cut, settled]
  rfl

end SuiteSync.Adaptation
