import SuiteSync.Proofs.Adaptation.Hooks

set_option autoImplicit false

/- Insertions into a text. What is inserted is a function of the rest of the text that it stands before, so
no position shifts when more is inserted. The hook blocks are such an insertion. -/

namespace SuiteSync.Adaptation

open Text

-- A text with `extra rest` inserted before each rest of it that is shorter than the text.
def weave (extra : List Char → List Char) : List Char → List Char
  | [] => []
  | c :: rest => c :: (extra rest ++ weave extra rest)

def marked (extra : List Char → List Char) : List Char → List (Char × Bool)
  | [] => []
  | c :: rest => (c, false) :: ((extra rest).map (fun d => (d, true)) ++ marked extra rest)

theorem marked_weave (extra : List Char → List Char) (text : List Char) :
    (marked extra text).map Prod.fst = weave extra text := by
  induction text with
  | nil => rfl
  | cons c rest ih =>
      have plain : (extra rest).map (Prod.fst ∘ fun d => (d, true)) = extra rest := List.map_id _
      rw [marked, weave, List.map_cons, List.map_append, List.map_map, plain, ih]

theorem marked_kept (extra : List Char → List Char) (text : List Char) :
    ((marked extra text).filter fun c => !c.2).map Prod.fst = text := by
  induction text with
  | nil => rfl
  | cons c rest ih =>
      have none : ((extra rest).map fun d => (d, true)).filter (fun c => !c.2) = [] := by
        rw [List.filter_map]
        exact List.map_eq_nil_iff.mpr (List.filter_eq_nil_iff.mpr fun _ _ => Bool.false_ne_true)
      rw [marked, List.filter_cons_of_pos rfl, List.filter_append, none, List.nil_append, List.map_cons, ih]

theorem weave_append (extra : List Char → List Char) (front back : List Char) :
    weave extra (front ++ back) = weave (fun rest => extra (rest ++ back)) front ++ weave extra back := by
  induction front with
  | nil => rfl
  | cons c rest ih => rw [List.cons_append, weave, weave, ih, List.cons_append, List.append_assoc]

theorem weave_congr (extra extra' : List Char → List Char) (text : List Char)
    (same : ∀ rest, rest.length < text.length → rest <:+ text → extra rest = extra' rest) :
    weave extra text = weave extra' text := by
  induction text with
  | nil => rfl
  | cons c rest ih =>
      have here := same rest (Nat.lt_succ_self _) (List.suffix_cons c rest)
      have later := ih fun last shorter ending =>
        same last (Nat.lt_succ_of_lt shorter) (ending.trans (List.suffix_cons c rest))
      rw [weave, weave, here, later]

theorem weave_plain (extra : List Char → List Char) (text : List Char)
    (plain : ∀ rest, rest.length < text.length → rest <:+ text → extra rest = []) : weave extra text = text := by
  rw [weave_congr extra (fun _ => []) text plain]
  clear plain
  induction text with
  | nil => rfl
  | cons c rest ih => rw [weave, ih, List.nil_append]

theorem weave_front (extra : List Char → List Char) (front back : List Char) (filled : front ≠ [])
    (plain : ∀ rest, rest ≠ [] → rest.length < front.length → rest <:+ front → extra (rest ++ back) = []) :
    weave extra (front ++ back) = front ++ (extra back ++ weave extra back) := by
  rcases List.eq_nil_or_concat front with empty | ⟨shorter, last, rfl⟩
  · exact absurd empty filled
  · rw [List.concat_eq_append, List.append_assoc, weave_append, List.append_assoc]
    -- The last character is split off, because what is inserted before the back comes after it.
    have inside : weave (fun rest => extra (rest ++ ([last] ++ back))) shorter = shorter := by
      refine weave_plain _ _ fun rest short ending => ?_
      rw [← List.append_assoc]
      refine plain (rest ++ [last]) (by simp) (by simp [short]) ?_
      obtain ⟨earlier, rfl⟩ := ending
      exact ⟨earlier, by simp⟩
    rw [inside]
    rfl

structure Suite (text above below : List Char) : Prop where
  split : text = above ++ below
  declared : suiteStart <+: below
  separated : ∃ front mark, above = front ++ [mark] ∧ separatesSuite mark = true

theorem ends_separated_iff (text : List Char) :
    endsSeparated false text = true ↔ ∃ front mark, text = front ++ [mark] ∧ separatesSuite mark = true := by
  constructor
  · intro ends
    rcases List.eq_nil_or_concat text with rfl | ⟨front, mark, rfl⟩
    · cases ends
    · rw [List.concat_eq_append, ends_separated_last] at ends
      exact ⟨front, mark, List.concat_eq_append, ends⟩
  · rintro ⟨front, mark, rfl, separates⟩
    rw [ends_separated_last, separates]

def missingBlock (hook above body : List Char) : List Char :=
  if (hookBlock (lastIndent above) hook).isPrefixOf body then [] else hookBlock (lastIndent above) hook

def hooksOf (hook : List Char) : List Char → List (List Char) → List Char → List Char
  | _, [], _ => []
  | before, piece :: later, rest =>
      match splitFirst? bodyOpening piece with
      | none => hooksOf hook (before ++ piece) later rest
      | some (_, body) =>
          if rest = body ++ later.flatten then missingBlock hook before rest
          else hooksOf hook (before ++ piece) later rest

theorem hooks_of_long (hook before rest : List Char) (pieces : List (List Char))
    (long : pieces.flatten.length ≤ rest.length) : hooksOf hook before pieces rest = [] := by
  induction pieces generalizing before with
  | nil => rfl
  | cons piece later ih =>
      rw [List.flatten_cons, List.length_append] at long
      have tail := ih (before ++ piece) (by omega)
      rw [hooksOf]
      split
      · exact tail
      · rename_i declaration body found
        have other : rest ≠ body ++ later.flatten := by
          rintro rfl
          have joined := congrArg List.length (split_first_join _ _ _ _ found)
          have opening : bodyOpening.length = 2 := rfl
          simp only [List.length_append] at long joined
          omega
        rw [if_neg other, tail]

theorem missing_block_within (hook before body : List Char) (later : List (List Char)) (name : HookName hook)
    (cut : Pieces (endsSeparated true body) later) :
    missingBlock hook before (body ++ later.flatten) = missingBlock hook before body := by
  have within := block_within_body (lastIndent before) hook body later name (last_indent_blank before) cut
  rw [← List.isPrefixOf_iff_prefix, ← List.isPrefixOf_iff_prefix, ← Bool.eq_iff_iff] at within
  rw [missingBlock, missingBlock, within]

theorem hooks_of_body (hook before piece declaration body : List Char) (later : List (List Char))
    (found : splitFirst? bodyOpening piece = some (declaration, body)) :
    hooksOf hook before (piece :: later) (body ++ later.flatten) = missingBlock hook before (body ++ later.flatten) := by
  rw [hooksOf, found]
  exact if_pos rfl

theorem hooks_of_elsewhere (hook before piece declaration body rest : List Char) (later : List (List Char))
    (found : splitFirst? bodyOpening piece = some (declaration, body)) (other : rest ≠ body ++ later.flatten) :
    hooksOf hook before (piece :: later) rest = hooksOf hook (before ++ piece) later rest := by
  rw [hooksOf, found]
  exact if_neg other

theorem hooked_piece_parts (hook before piece declaration body : List Char)
    (found : splitFirst? bodyOpening piece = some (declaration, body)) :
    hookedPiece hook before piece = declaration ++ bodyOpening ++ (missingBlock hook before body ++ body) := by
  rw [hookedPiece, found, missingBlock]
  by_cases starts : (hookBlock (lastIndent before) hook).isPrefixOf body = true
  · simp only [if_pos starts, List.nil_append, split_first_join _ _ _ _ found]
  · simp only [if_neg starts, List.append_assoc]

theorem hooked_piece_weave (hook before piece declaration body : List Char) (later : List (List Char))
    (found : splitFirst? bodyOpening piece = some (declaration, body))
    (within : missingBlock hook before (body ++ later.flatten) = missingBlock hook before body)
    (tail : (hookedPieces hook (before ++ piece) later).flatten =
      weave (hooksOf hook (before ++ piece) later) later.flatten) :
    (hookedPieces hook before (piece :: later)).flatten =
      weave (hooksOf hook before (piece :: later)) (piece :: later).flatten := by
  have joined := split_first_join _ _ _ _ found
  have own := hooked_piece_parts hook before piece declaration body found
  have shorter : weave (hooksOf hook before (piece :: later)) later.flatten =
      weave (hooksOf hook (before ++ piece) later) later.flatten := by
    refine weave_congr _ _ _ fun last short _ => hooks_of_elsewhere _ _ _ _ _ _ _ found ?_
    rintro rfl
    rw [List.length_append] at short
    omega
  have beyond : ∀ last, last ≠ body ++ later.flatten → later.flatten.length ≤ last.length →
      hooksOf hook before (piece :: later) last = [] := fun last other long =>
    (hooks_of_elsewhere _ _ _ _ _ _ _ found other).trans (hooks_of_long _ _ _ _ long)
  have opening : declaration ++ bodyOpening ≠ [] := by simp [bodyOpening]
  have inside : weave (hooksOf hook before (piece :: later)) (body ++ later.flatten) =
      body ++ weave (hooksOf hook before (piece :: later)) later.flatten := by
    by_cases empty : body = []
    · rw [empty, List.nil_append, List.nil_append]
    · have ending := beyond later.flatten (fun same => empty (List.self_eq_append_left.mp same)) (Nat.le_refl _)
      rw [weave_front _ _ _ empty, ending, List.nil_append]
      intro rest _ short _
      refine beyond _ (fun same => ?_) (by simp)
      rw [List.append_cancel_right same] at short
      omega
  have whole : (piece :: later).flatten = (declaration ++ bodyOpening) ++ (body ++ later.flatten) := by
    rw [List.flatten_cons, joined, List.append_assoc]
  rw [hookedPieces, List.flatten_cons, whole, weave_front _ _ _ opening, hooks_of_body _ _ _ _ _ _ found, within, inside,
    own, tail, shorter]
  · simp only [List.append_assoc]
  · intro rest filled _ _
    refine beyond _ (fun same => filled (List.append_left_eq_self.mp same)) ?_
    simp only [List.length_append]
    omega

theorem hooked_pieces_weave (hook before : List Char) (separated : Bool) (pieces : List (List Char)) (name : HookName hook)
    (cut : Pieces separated pieces) (opened : ∀ piece ∈ pieces, (splitFirst? bodyOpening piece).isSome) :
    (hookedPieces hook before pieces).flatten = weave (hooksOf hook before pieces) pieces.flatten := by
  induction cut generalizing before with
  | nil => rfl
  | cons inner later quiet more ih =>
      rw [List.forall_mem_cons] at opened
      obtain ⟨⟨declaration, body⟩, found⟩ := Option.isSome_iff_exists.mp opened.1
      obtain ⟨rest, -, rfl⟩ := piece_opening inner declaration body found
      rw [ends_separated_append, ends_separated_opening] at more
      exact hooked_piece_weave _ _ _ _ _ _ found (missing_block_within hook before body later name more)
        (ih _ opened.2)

theorem quiet_suffix (after front back : List Char) (separated : Bool) (quiet : Quiet after separated (front ++ back))
    (filled : back ≠ []) (ends : endsSeparated separated front = true) : ¬ suiteStart <+: back ++ after := by
  rw [quiet_append, ends] at quiet
  cases back with
  | nil => exact absurd rfl filled
  | cons c rest => exact fun declared => quiet.2.1 ⟨rfl, declared⟩

theorem suite_after_lead (lead rest above below : List Char) (quiet : Quiet rest false lead)
    (suite : Suite (lead ++ rest) above below) : lead.length ≤ above.length := by
  refine Nat.le_of_not_lt fun early => ?_
  have whole := suite.split
  obtain ⟨back, rfl⟩ : above <+: lead := List.prefix_of_prefix_length_le
    (whole ▸ List.prefix_append above below) (List.prefix_append lead _) (Nat.le_of_lt early)
  rw [List.append_assoc] at whole
  have same := List.append_cancel_left whole
  have filled : back ≠ [] := by
    rintro rfl
    simp at early
  exact quiet_suffix _ _ _ _ quiet filled ((ends_separated_iff above).mpr suite.separated) (same ▸ suite.declared)

theorem suite_before_end (text above below : List Char) (suite : Suite text above below) :
    above.length < text.length := by
  have lengths := congrArg List.length suite.split
  have filled := suite.declared.length_le
  have word : suiteStart.length = 9 := by decide
  rw [List.length_append] at lengths
  omega

theorem suite_of_piece (before inner after above below : List Char) (quiet : Quiet after false inner)
    (start : endsSeparated false before = true)
    (suite : Suite (before ++ (suiteStart ++ inner ++ after)) above below) (late : before.length ≤ above.length) :
    (above = before ∧ below = suiteStart ++ inner ++ after) ∨
      ∃ between, above = before ++ (suiteStart ++ inner) ++ between ∧ after = between ++ below := by
  have ends := (ends_separated_iff above).mpr suite.separated
  have whole := suite.split
  obtain ⟨mid, rfl⟩ : before <+: above :=
    List.prefix_of_prefix_length_le (List.prefix_append before _) (whole ▸ List.prefix_append above below) late
  rw [List.append_assoc before mid] at whole
  have same := List.append_cancel_left whole
  rw [ends_separated_append, start] at ends
  cases mid with
  | nil => exact .inl ⟨List.append_nil before, same.symm⟩
  | cons c more =>
      obtain ⟨rfl, rest⟩ : 'd' = c ∧ suiteStart.tail ++ inner ++ after = more ++ below := List.cons.inj same
      rcases List.append_eq_append_iff.mp rest with ⟨between, whole, tail⟩ | ⟨back, whole, tail⟩
      · refine .inr ⟨between, ?_, tail⟩
        rw [whole, List.append_assoc before]
        rfl
      · cases back with
        | nil =>
            refine .inr ⟨[], ?_, tail.symm⟩
            rw [← List.append_nil more, ← whole, List.append_nil]
            rfl
        | cons d later =>
            have inside : Quiet after false (suiteStart.tail ++ inner) :=
              (quiet_append _ _ _ _).mpr ⟨quiet_suite_start _, quiet⟩
            rw [whole] at inside
            exact absurd (tail ▸ suite.declared) (quiet_suffix _ _ _ _ inside (List.cons_ne_nil d later) ends)

theorem hooks_of_suite (hook before above below : List Char) (separated : Bool) (pieces : List (List Char))
    (cut : Pieces separated pieces) (opened : ∀ piece ∈ pieces, (splitFirst? bodyOpening piece).isSome)
    (start : endsSeparated false before = separated) (suite : Suite (before ++ pieces.flatten) above below)
    (late : before.length ≤ above.length) :
    ∃ declaration body, splitFirst? bodyOpening below = some (declaration, body) ∧
      hooksOf hook before pieces body = missingBlock hook above body ∧
      ∀ above' below', Suite (before ++ pieces.flatten) above' below' → above.length < above'.length →
        below'.length ≤ body.length := by
  induction cut generalizing before with
  | nil =>
      rw [List.flatten_nil, List.append_nil] at suite
      exact absurd (suite_before_end before above below suite) (Nat.not_lt.mpr late)
  | cons inner later quiet more ih =>
      rw [List.forall_mem_cons] at opened
      rw [List.flatten_cons] at suite ⊢
      obtain ⟨⟨declaration, body⟩, found⟩ := Option.isSome_iff_exists.mp opened.1
      have next : endsSeparated false (before ++ (suiteStart ++ inner)) = endsSeparated false inner := by
        rw [ends_separated_append, ends_separated_append]
        rfl
      have joined := congrArg List.length (split_first_join _ _ _ _ found)
      -- The suite is that of the first piece, or the induction finds it in the later ones.
      rcases suite_of_piece before inner later.flatten above below quiet start suite late with ⟨rfl, rfl⟩ | ⟨between, rfl, same⟩
      · refine ⟨declaration, body ++ later.flatten, split_first_append _ _ _ _ _ found,
          hooks_of_body _ _ _ _ _ _ found, fun above' below' other longer => ?_⟩
        rcases suite_of_piece above inner later.flatten above' below' quiet start other (Nat.le_of_lt longer) with
          ⟨rfl, rfl⟩ | ⟨between, rfl, same⟩
        · exact absurd longer (Nat.lt_irrefl _)
        · rw [same, List.length_append, List.length_append]
          omega
      · rw [← List.append_assoc before (suiteStart ++ inner)] at suite ⊢
        obtain ⟨declaration', body', found', here, apart⟩ := ih _ opened.2 next suite (by simp)
        refine ⟨declaration', body', found', ?_, apart⟩
        rw [← here]
        -- The body of a later suite is shorter than the body of this one, so the two are not confused.
        refine hooks_of_elsewhere _ _ _ _ _ _ _ found ?_
        rintro rfl
        have shorter := congrArg List.length (split_first_join _ _ _ _ found')
        have whole := congrArg List.length same
        have opening : bodyOpening.length = 2 := rfl
        simp only [List.length_append] at shorter whole
        omega

theorem hooks_of_only (hook before rest : List Char) (separated : Bool) (pieces : List (List Char))
    (cut : Pieces separated pieces) (start : endsSeparated false before = separated)
    (inserted : hooksOf hook before pieces rest ≠ []) :
    ∃ above below declaration, Suite (before ++ pieces.flatten) above below ∧ before.length ≤ above.length ∧
      splitFirst? bodyOpening below = some (declaration, rest) := by
  induction cut generalizing before with
  | nil => exact absurd rfl inserted
  | cons inner later quiet more ih =>
      have next : endsSeparated false (before ++ (suiteStart ++ inner)) = endsSeparated false inner := by
        rw [ends_separated_append, ends_separated_append]
        rfl
      have tail : hooksOf hook (before ++ (suiteStart ++ inner)) later rest ≠ [] →
          ∃ above below declaration, Suite (before ++ ((suiteStart ++ inner) :: later).flatten) above below ∧
            before.length ≤ above.length ∧ splitFirst? bodyOpening below = some (declaration, rest) := by
        intro filled
        obtain ⟨above, below, declaration, suite, late, found⟩ := ih _ next filled
        rw [List.append_assoc, ← List.flatten_cons] at suite
        rw [List.length_append] at late
        exact ⟨above, below, declaration, suite, by omega, found⟩
      cases found : splitFirst? bodyOpening (suiteStart ++ inner) with
      | none =>
          rw [hooksOf, found] at inserted
          exact tail inserted
      | some place =>
          obtain ⟨declaration, body⟩ := place
          -- A rest that is not the body of this piece is hooked by a later one.
          by_cases here : rest = body ++ later.flatten
          · subst here
            refine ⟨before, suiteStart ++ inner ++ later.flatten, declaration, ⟨rfl, ?_, ?_⟩, Nat.le_refl _,
              split_first_append _ _ _ _ _ found⟩
            · exact List.append_assoc _ _ _ ▸ List.prefix_append _ _
            · exact (ends_separated_iff before).mp start
          · rw [hooks_of_elsewhere _ _ _ _ _ _ _ found here] at inserted
            exact tail inserted

structure HooksSuites (hook text : List Char) (extra : List Char → List Char) : Prop where
  suites : ∀ above below, Suite text above below →
    ∃ declaration body, splitFirst? bodyOpening below = some (declaration, body) ∧
      extra body = missingBlock hook above body ∧
      ∀ above' below', Suite text above' below' → above.length < above'.length → below'.length ≤ body.length
  only : ∀ rest, extra rest ≠ [] →
    ∃ above below declaration, Suite text above below ∧ splitFirst? bodyOpening below = some (declaration, rest)

theorem hooked_lead_weave (hook lead : List Char) (separated : Bool) (pieces : List (List Char)) (name : HookName hook)
    (cut : Pieces separated pieces) (opened : ∀ piece ∈ pieces, (splitFirst? bodyOpening piece).isSome) :
    lead ++ (hookedPieces hook lead pieces).flatten = weave (hooksOf hook lead pieces) (lead ++ pieces.flatten) := by
  rw [hooked_pieces_weave hook lead _ pieces name cut opened]
  cases lead with
  | nil => rfl
  | cons c rest =>
      rw [weave_front _ _ _ (List.cons_ne_nil c rest) fun more _ _ _ => hooks_of_long _ _ _ _ (by simp),
        hooks_of_long _ _ _ _ (Nat.le_refl _), List.nil_append]

theorem hooks_of_pieces (hook lead : List Char) (pieces : List (List Char)) (quiet : Quiet pieces.flatten false lead)
    (cut : Pieces (endsSeparated false lead) pieces) (opened : ∀ piece ∈ pieces, (splitFirst? bodyOpening piece).isSome) :
    HooksSuites hook (lead ++ pieces.flatten) (hooksOf hook lead pieces) := by
  constructor
  · intro above below suite
    exact hooks_of_suite hook lead above below _ pieces cut opened rfl suite
      (suite_after_lead lead pieces.flatten above below quiet suite)
  · intro rest inserted
    obtain ⟨above, below, declaration, suite, _, found⟩ := hooks_of_only hook lead rest _ pieces cut rfl inserted
    exact ⟨above, below, declaration, suite, found⟩

theorem hook_suites_weave (hook text hooked : List Char) (file : String) (name : HookName hook)
    (run : hookSuites hook file text = .ok hooked) :
    ∃ extra, hooked = weave extra text ∧ HooksSuites hook text extra := by
  obtain ⟨lead, pieces, rfl, quiet, cut, opened, rfl⟩ := hook_suites_ok hook text hooked file name run
  exact ⟨hooksOf hook lead pieces, hooked_lead_weave hook lead _ pieces name cut opened,
    hooks_of_pieces hook lead pieces quiet cut opened⟩

theorem inserted_block (hook text rest : List Char) (extra : List Char → List Char) (hooks : HooksSuites hook text extra)
    (inserted : extra rest ≠ []) :
    ∃ above below declaration, Suite text above below ∧ splitFirst? bodyOpening below = some (declaration, rest) ∧
      extra rest = hookBlock (lastIndent above) hook := by
  obtain ⟨above, below, declaration, suite, found⟩ := hooks.only rest inserted
  obtain ⟨declaration', body, found', here, _⟩ := hooks.suites above below suite
  rw [found] at found'
  cases found'
  refine ⟨above, below, declaration, suite, found, ?_⟩
  rw [here, missingBlock] at inserted ⊢
  split at inserted
  · exact absurd rfl inserted
  · rename_i other
    exact if_neg other

theorem block_below_opening (text above below declaration rest front : List Char) (suite : Suite text above below)
    (found : splitFirst? bodyOpening below = some (declaration, rest)) (split : text = front ++ rest) :
    front = above ++ declaration ++ bodyOpening := by
  have whole := split.symm.trans suite.split
  rw [split_first_join _ _ _ _ found, ← List.append_assoc, ← List.append_assoc] at whole
  exact List.append_cancel_right whole

theorem block_after_feed (hook text front rest : List Char) (last : Char) (extra : List Char → List Char)
    (hooks : HooksSuites hook text extra) (split : text = front ++ [last] ++ rest) (inserted : extra rest ≠ []) :
    last = '\n' ∧ ∃ above, extra rest = hookBlock (lastIndent above) hook := by
  obtain ⟨above, below, declaration, suite, found, block⟩ := inserted_block hook text rest extra hooks inserted
  have opening := block_below_opening text above below declaration rest _ suite found split
  rw [opening_chars] at opening
  exact ⟨(List.cons.inj (List.append_inj' opening rfl).2).1, above, block⟩

end SuiteSync.Adaptation
