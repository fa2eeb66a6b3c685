import SuiteSync.Proofs.Adaptation.Exclusions

set_option autoImplicit false

namespace SuiteSync.Adaptation

open Text

def Follows (stop : Char) (text : List Char) (extra : List Char → List Char) : Prop :=
  ∀ c rest, c :: rest <:+ text → extra rest ≠ [] → c = stop

theorem follows_front (stop : Char) (front back : List Char) (extra : List Char → List Char)
    (follows : Follows stop (front ++ back) extra) : Follows stop front fun rest => extra (rest ++ back) := by
  rintro c rest ⟨earlier, rfl⟩ inserted
  exact follows c (rest ++ back) ⟨earlier, by simp⟩ inserted

theorem follows_back (stop : Char) (front back : List Char) (extra : List Char → List Char)
    (follows : Follows stop (front ++ back) extra) : Follows stop back extra :=
  fun c rest ending => follows c rest (ending.trans (List.suffix_append front back))

theorem weave_starts_iff (stop : Char) (pattern text : List Char) (extra : List Char → List Char)
    (follows : Follows stop text extra) (foreign : stop ∉ pattern) :
    pattern <+: weave extra text ↔ pattern <+: text := by
  induction text generalizing pattern with
  | nil => rfl
  | cons c rest ih =>
      cases pattern with
      | nil => simp
      | cons p more =>
          rw [List.mem_cons, not_or] at foreign
          rw [weave, List.cons_prefix_cons, List.cons_prefix_cons, and_congr_right_iff]
          rintro rfl
          have plain : extra rest = [] := by
            by_contra inserted
            exact foreign.1 (follows p rest List.suffix_rfl inserted).symm
          rw [plain, List.nil_append]
          exact ih more (follows_back stop [p] rest extra follows) foreign.2

theorem weave_kept (stop : Char) (front back : List Char) (extra : List Char → List Char)
    (follows : Follows stop (front ++ back) extra) (foreign : stop ∉ front) :
    weave extra (front ++ back) = front ++ weave extra back := by
  induction front with
  | nil => rfl
  | cons c rest ih =>
      rw [List.mem_cons, not_or] at foreign
      have plain : extra (rest ++ back) = [] := by
        by_contra inserted
        exact foreign.1 (follows c (rest ++ back) List.suffix_rfl inserted).symm
      rw [List.cons_append, weave, plain, List.nil_append, ih (follows_back stop [c] _ extra follows) foreign.2,
        List.cons_append]

theorem split_first_skip (pattern front text : List Char) (filled : pattern ≠ [])
    (foreign : ∀ c ∈ front, pattern.head? ≠ some c) :
    splitFirst? pattern (front ++ text) = (splitFirst? pattern text).map fun (before, after) => (front ++ before, after) := by
  induction front with
  | nil => simp
  | cons c rest ih =>
      rw [List.forall_mem_cons] at foreign
      obtain ⟨p, more, rfl⟩ := List.exists_cons_of_ne_nil filled
      have other : ¬ p = c := fun same => foreign.1 (congrArg some same)
      rw [List.cons_append, splitFirst?, strip, if_neg other]
      simp only [ih foreign.2, Option.map_map]
      rfl

theorem split_first_weave (stop : Char) (pattern text before after : List Char) (extra : List Char → List Char)
    (filled : pattern ≠ []) (follows : Follows stop text extra) (foreign : stop ∉ pattern)
    (clear : ∀ rest, ∀ c ∈ extra rest, pattern.head? ≠ some c)
    (found : splitFirst? pattern text = some (before, after)) :
    splitFirst? pattern (weave extra text) =
      some (weave (fun rest => extra (rest ++ (pattern ++ after))) before, weave extra after) := by
  induction text generalizing before with
  | nil =>
      have joined := split_first_join _ _ _ _ found
      simp [filled] at joined
  | cons c text ih =>
      rw [splitFirst?] at found
      split at found
      · rename_i rest stripped
        cases found
        rw [(strip_eq_some_iff _ _ _).mp stripped] at follows ⊢
        rw [weave_kept stop pattern after extra follows foreign]
        exact split_first_at pattern [] _ fun _ _ _ => Nat.zero_le _
      · rename_i missing
        obtain ⟨⟨earlier, later⟩, split, same⟩ := Option.map_eq_some_iff.mp found
        cases same
        have still : strip pattern (weave extra (c :: text)) = none := by
          cases stripped : strip pattern (weave extra (c :: text)) with
          | none => rfl
          | some rest =>
              have starts := (weave_starts_iff stop pattern _ extra follows foreign).mp
                ⟨rest, ((strip_eq_some_iff _ _ _).mp stripped).symm⟩
              obtain ⟨rest', same⟩ := starts
              rw [← same, strip_append] at missing
              cases missing
        have whole := split_first_join _ _ _ _ split
        rw [weave] at still
        rw [weave, splitFirst?, still]
        simp only [split_first_skip pattern _ _ filled (clear text), ih earlier (follows_back stop [c] text extra follows) split,
          Option.map_some]
        rw [weave, whole, List.append_assoc]

structure Marking (text : List Char) (extra : List Char → List Char) : Prop where
  marks : ∀ rest, extra rest = [] ∨ extra rest = skipMark
  follows : Follows 't' text extra

theorem marking_front (front back : List Char) (extra : List Char → List Char) (marking : Marking (front ++ back) extra) :
    Marking front fun rest => extra (rest ++ back) :=
  ⟨fun rest => marking.marks (rest ++ back), follows_front _ _ _ _ marking.follows⟩

theorem marking_back (front back : List Char) (extra : List Char → List Char) (marking : Marking (front ++ back) extra) :
    Marking back extra :=
  ⟨marking.marks, follows_back _ _ _ _ marking.follows⟩

theorem starts_marking (text : List Char) (places : List (List Char)) (starts : Starts text places) :
    Marking text (skipsAt places) := by
  constructor
  · intro rest
    by_cases member : rest ∈ places
    · exact .inr (skips_at_place _ _ member)
    · exact .inl (skips_elsewhere _ _ member)
  · rintro c rest ⟨earlier, whole⟩ inserted
    by_cases member : rest ∈ places
    · obtain ⟨above, start⟩ := starts rest member
      exact (letter_before_start text above earlier rest c start (by simp [← whole])).2
    · exact absurd (skips_elsewhere _ _ member) inserted

theorem mark_free (text rest : List Char) (c : Char) (extra : List Char → List Char) (marking : Marking text extra)
    (foreign : c ∉ skipMark) : c ∉ extra rest := by
  rcases marking.marks rest with plain | mark
  · rw [plain]
    exact List.not_mem_nil
  · rwa [mark]

theorem marked_ends (front : List Char) (extra : List Char → List Char) (separated : Bool) (marking : Marking front extra) :
    endsSeparated separated (weave extra front) = endsSeparated separated front := by
  induction front generalizing separated with
  | nil => rfl
  | cons c rest ih =>
      have later := ih (separatesSuite c) (marking_back [c] rest extra marking)
      rw [weave, endsSeparated, endsSeparated, ends_separated_append]
      rcases marking.marks rest with plain | mark
      · rw [plain]
        exact later
      · obtain rfl := marking.follows c rest List.suffix_rfl (by rw [mark]; decide)
        rw [mark]
        exact later

theorem marked_quiet (front back : List Char) (extra : List Char → List Char) (separated : Bool)
    (marking : Marking (front ++ back) extra) (quiet : Quiet back separated front) :
    Quiet (weave extra back) separated (weave (fun rest => extra (rest ++ back)) front) := by
  induction front generalizing separated with
  | nil => trivial
  | cons c rest ih =>
      have later := ih (separatesSuite c) (marking_back [c] (rest ++ back) extra marking) quiet.2
      have whole : weave extra (c :: rest ++ back) =
          weave (fun rest => extra (rest ++ back)) (c :: rest) ++ weave extra back := weave_append _ _ _
      refine ⟨fun declared => quiet.1 ⟨declared.1, ?_⟩, ?_⟩
      · have starts : suiteStart <+: weave extra (c :: rest ++ back) := whole ▸ declared.2
        exact (weave_starts_iff 't' suiteStart _ extra marking.follows (by decide)).mp starts
      · rw [quiet_append]
        beta_reduce
        rcases marking.marks (rest ++ back) with plain | mark
        · rw [plain]
          exact ⟨trivial, later⟩
        · obtain rfl := marking.follows c (rest ++ back) List.suffix_rfl (by rw [mark]; decide)
          rw [mark]
          exact ⟨quiet_without_start _ _ _ (by decide), later⟩

def wovenPieces (extra : List Char → List Char) : List (List Char) → List (List Char)
  | [] => []
  | piece :: later => weave (fun rest => extra (rest ++ later.flatten)) piece :: wovenPieces extra later

theorem woven_flatten (extra : List Char → List Char) (pieces : List (List Char)) :
    (wovenPieces extra pieces).flatten = weave extra pieces.flatten := by
  induction pieces with
  | nil => rfl
  | cons piece later ih => rw [wovenPieces, List.flatten_cons, List.flatten_cons, ih, weave_append]

theorem marked_pieces (extra : List Char → List Char) (separated : Bool) (pieces : List (List Char))
    (cut : Pieces separated pieces) (marking : Marking pieces.flatten extra) :
    Pieces separated (wovenPieces extra pieces) := by
  induction cut with
  | nil => exact .nil _
  | cons inner later quiet more ih =>
      rw [List.flatten_cons] at marking
      have own := marking_front _ _ _ marking
      have body : Marking (inner ++ later.flatten) extra := by
        rw [List.append_assoc] at marking
        exact marking_back suiteStart _ extra marking
      have kept := weave_kept 't' suiteStart inner _ own.follows (by decide)
      have ends := marked_ends inner _ false (marking_back suiteStart inner _ own)
      have tail := ih (marking_back _ _ _ marking)
      rw [wovenPieces, kept]
      refine .cons _ _ ?_ (ends ▸ tail)
      rw [woven_flatten]
      exact marked_quiet inner later.flatten extra false body quiet

theorem marked_opening (piece declaration body : List Char) (extra : List Char → List Char) (marking : Marking piece extra)
    (found : splitFirst? bodyOpening piece = some (declaration, body)) :
    splitFirst? bodyOpening (weave extra piece) =
      some (weave (fun rest => extra (rest ++ (bodyOpening ++ body))) declaration, weave extra body) := by
  refine split_first_weave 't' bodyOpening piece declaration body extra (by decide) marking.follows (by decide) ?_ found
  rintro rest c member same
  cases Option.some.inj same
  exact mark_free piece rest '\x7b' extra marking (by decide) member

theorem marked_mem (text : List Char) (extra : List Char → List Char) (c : Char) (marking : Marking text extra)
    (foreign : c ∉ skipMark) : c ∈ weave extra text ↔ c ∈ text := by
  induction text with
  | nil => rfl
  | cons d rest ih =>
      have later := ih (marking_back [d] rest extra marking)
      simp [weave, later, mark_free _ rest c extra marking foreign]

theorem marked_indent (text : List Char) (extra : List Char → List Char) (marking : Marking text extra) :
    (weave extra text).takeWhile isIndent = text.takeWhile isIndent := by
  induction text with
  | nil => rfl
  | cons c rest ih =>
      have later := ih (marking_back [c] rest extra marking)
      by_cases indents : isIndent c = true
      · have plain : extra rest = [] := by
          by_contra inserted
          rw [marking.follows c rest List.suffix_rfl inserted] at indents
          exact absurd indents (by decide)
        rw [weave, List.takeWhile_cons_of_pos indents, List.takeWhile_cons_of_pos indents, plain, List.nil_append, later]
      · rw [weave, List.takeWhile_cons_of_neg indents, List.takeWhile_cons_of_neg indents]

theorem last_line_below (front rest : List Char) (feed : '\n' ∈ rest) : lastLine (front ++ rest) = lastLine rest := by
  obtain ⟨above, below, rfl⟩ := List.append_of_mem feed
  rw [← List.append_assoc, last_line_after_feed, last_line_after_feed]

theorem last_line_whole (line : List Char) (oneLine : '\n' ∉ line) : lastLine line = line := by
  have whole : ∀ c ∈ line.reverse, (c != '\n') = true := by
    intro c member
    exact bne_iff_ne.mpr fun same => oneLine (same ▸ List.mem_reverse.mp member)
  rw [lastLine, ← List.append_nil line.reverse, List.takeWhile_append_of_pos whole, List.takeWhile_nil, List.append_nil,
    List.reverse_reverse]

theorem marked_last_indent (front : List Char) (extra : List Char → List Char) (marking : Marking front extra) :
    lastIndent (weave extra front) = lastIndent front := by
  induction front with
  | nil => rfl
  | cons c rest ih =>
      have own := marking_back [c] rest extra marking
      have later := ih own
      by_cases feed : '\n' ∈ rest
      · have woven := (marked_mem rest extra '\n' own (by decide)).mpr feed
        rw [weave, ← List.cons_append, lastIndent, last_line_below _ _ woven, ← List.singleton_append, lastIndent,
          last_line_below [c] rest feed]
        exact later
      · by_cases here : c = '\n'
        · subst here
          have plain : extra rest = [] := by
            by_contra inserted
            exact absurd (marking.follows '\n' rest List.suffix_rfl inserted) (by decide)
          rw [weave, plain, List.nil_append, lastIndent, lastIndent, ← List.nil_append ('\n' :: _), last_line_after_feed,
            ← List.nil_append ('\n' :: rest), last_line_after_feed]
          exact later
        · have oneLine : '\n' ∉ c :: rest := by simp [feed, Ne.symm here]
          have woven : '\n' ∉ weave extra (c :: rest) := fun member =>
            oneLine ((marked_mem _ extra '\n' marking (by decide)).mp member)
          rw [lastIndent, lastIndent, last_line_whole _ oneLine, last_line_whole _ woven, marked_indent _ _ marking]

def BeforeCalls (extra : List Char → List Char) : Prop :=
  ∀ rest, extra rest ≠ [] → ∃ d more, rest = '(' :: d :: more ∧ leads d = true

theorem marked_nameless (block text : List Char) (extra : List Char → List Char) (marking : Marking text extra)
    (calls : BeforeCalls extra) (nameless : Nameless block) (free : '.' ∉ block) :
    block <+: weave extra text ↔ block <+: text := by
  induction text generalizing block with
  | nil => rfl
  | cons c rest ih =>
      cases block with
      | nil => simp
      | cons b more =>
          rw [List.mem_cons, not_or] at free
          rw [weave, List.cons_prefix_cons, List.cons_prefix_cons, and_congr_right_iff]
          rintro rfl
          rcases marking.marks rest with plain | mark
          · rw [plain, List.nil_append]
            exact ih more (marking_back [b] rest extra marking) nameless.2 free.2
          -- A block that goes on here would have to hold the mark, or a call with a name.
          · obtain ⟨d, after, rfl, leading⟩ := calls rest (by rw [mark]; decide)
            have letters : skipMark = '.' :: ['s', 'k', 'i', 'p'] := by decide
            rw [mark, letters, List.cons_append]
            cases more with
            | nil => simp
            | cons e more =>
                rw [List.cons_prefix_cons, List.cons_prefix_cons]
                constructor
                · rintro ⟨rfl, _⟩
                  exact absurd List.mem_cons_self free.2
                · rintro ⟨rfl, starts⟩
                  obtain ⟨e, later, rfl, other⟩ := nameless.2.1 rfl
                  rw [(List.cons_prefix_cons.mp starts).1, leading] at other
                  cases other

theorem block_dotless (indent hook : List Char) (name : HookName hook) (blank : ∀ c ∈ indent, isIndent c = true) :
    '.' ∉ hookBlock indent hook := by
  have inIndent := indent_free indent blank '.' (by decide)
  have inHook : '.' ∉ hook := fun member =>
    identifier_part_ne '.' '.' (name.parts _ member) (by decide) (by decide) rfl
  rw [hook_block_parts]
  simp [blockOpening, blockEnding, inIndent, inHook]

theorem marked_missing_block (hook before body : List Char) (extra extra' : List Char → List Char) (name : HookName hook)
    (above : Marking before extra') (below : Marking body extra) (calls : BeforeCalls extra) :
    missingBlock hook (weave extra' before) (weave extra body) = missingBlock hook before body := by
  have blank := last_indent_blank before
  have starts := marked_nameless (hookBlock (lastIndent before) hook) body extra below calls
    (nameless_block _ hook name blank) (block_dotless _ hook name blank)
  rw [← List.isPrefixOf_iff_prefix, ← List.isPrefixOf_iff_prefix, ← Bool.eq_iff_iff] at starts
  rw [missingBlock, missingBlock, marked_last_indent before extra' above, starts]

theorem weave_injective (extra : List Char → List Char) (text rest rest' : List Char) (ending : rest <:+ text)
    (ending' : rest' <:+ text) (same : weave extra rest = weave extra rest') : rest = rest' := by
  have long := weave_longer extra text rest rest' ending ending' (Nat.le_of_eq (congrArg List.length same.symm))
  have long' := weave_longer extra text rest' rest ending' ending (Nat.le_of_eq (congrArg List.length same))
  have suffix := List.suffix_of_suffix_length_le ending ending' long'
  exact suffix.eq_of_length (Nat.le_antisymm long' long)

theorem marked_hooks_of (hook before rest : List Char) (pieces : List (List Char)) (extra : List Char → List Char)
    (name : HookName hook) (marking : Marking (before ++ pieces.flatten) extra) (calls : BeforeCalls extra)
    (opened : ∀ piece ∈ pieces, (splitFirst? bodyOpening piece).isSome) (ending : rest <:+ before ++ pieces.flatten) :
    hooksOf hook (weave (fun last => extra (last ++ pieces.flatten)) before) (wovenPieces extra pieces)
      (weave extra rest) = hooksOf hook before pieces rest := by
  induction pieces generalizing before with
  | nil => rfl
  | cons piece later ih =>
      rw [List.forall_mem_cons] at opened
      obtain ⟨⟨declaration, body⟩, found⟩ := Option.isSome_iff_exists.mp opened.1
      have whole : before ++ (piece :: later).flatten = (before ++ piece) ++ later.flatten := by
        rw [List.flatten_cons, List.append_assoc]
      have inPiece := marking_front _ _ _ (marking_back before _ extra marking)
      have found' := marked_opening piece declaration body _ inPiece found
      have woven : weave (fun last => extra (last ++ later.flatten)) body ++ (wovenPieces extra later).flatten =
          weave extra (body ++ later.flatten) := by
        rw [woven_flatten, weave_append]
      by_cases here : rest = body ++ later.flatten
      · subst here
        have front := marking_front before _ extra marking
        have behind : Marking (body ++ later.flatten) extra := by
          obtain ⟨earlier, same⟩ := ending
          exact marking_back earlier _ extra (same ▸ marking)
        rw [hooks_of_body _ _ _ _ _ _ found, wovenPieces, ← woven, hooks_of_body _ _ _ _ _ _ found', woven]
        exact marked_missing_block hook before _ extra _ name front behind calls
      · have bodyEnding : body ++ later.flatten <:+ before ++ (piece :: later).flatten := by
          refine ⟨before ++ declaration ++ bodyOpening, ?_⟩
          rw [List.flatten_cons, split_first_join _ _ _ _ found]
          simp only [List.append_assoc]
        have other : weave extra rest ≠ weave (fun last => extra (last ++ later.flatten)) body ++
            (wovenPieces extra later).flatten := fun same =>
          here (weave_injective extra _ _ _ ending bodyEnding (same.trans woven))
        have next := ih (before ++ piece) (whole ▸ marking) opened.2 (whole ▸ ending)
        rw [weave_append] at next
        rw [hooks_of_elsewhere _ _ _ _ _ _ _ found here, wovenPieces, hooks_of_elsewhere _ _ _ _ _ _ _ found' other,
          ← next]
        simp only [List.flatten_cons, List.append_assoc]

end SuiteSync.Adaptation
