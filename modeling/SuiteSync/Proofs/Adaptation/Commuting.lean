import SuiteSync.Proofs.Adaptation.Marks
import SuiteSync.Proofs.Adaptation.Search
import SuiteSync.Proofs.Settings

set_option autoImplicit false

namespace SuiteSync.Adaptation

open Text

theorem block_closed (indent hook : List Char) : Closed (hookBlock indent hook) := by
  refine ⟨blockOpening indent ++ (hook ++ '(' :: (['t', 'h', 'i', 's', ')', ';', '\n'] ++ indent ++ [' ', ' ', '\x7d', ')'])),
    ';', ['\n'], ?_, by decide, by decide, by decide⟩
  rw [hook_block_parts, blockEnding]
  simp only [List.append_assoc, List.cons_append, List.nil_append]

theorem hooks_walled (hook text : List Char) (extra : List Char → List Char) (name : HookName hook)
    (hooks : HooksSuites hook text extra) : Walled text extra := by
  intro front rest split _ inserted
  obtain ⟨above, below, declaration, suite, found, block⟩ := inserted_block hook text rest extra hooks inserted
  have opening := block_below_opening text above below declaration rest front suite found split
  rw [block]
  exact ⟨⟨_, opening.symm⟩, block_closed _ _, nameless_block _ _ name (last_indent_blank above)⟩

theorem no_block_below (hook text front rest : List Char) (last : Char) (extra : List Char → List Char)
    (hooks : HooksSuites hook text extra) (split : text = front ++ [last] ++ rest) (other : last ≠ '\n') :
    extra rest = [] := by
  by_contra inserted
  exact other (block_after_feed hook text front rest last extra hooks split inserted).1

theorem weave_weave (first second both : List Char → List Char) (text : List Char)
    (plain : ∀ rest, rest <:+ text → first rest = [] → second (weave first rest) = both rest)
    (inserted : ∀ rest, rest <:+ text → first rest ≠ [] →
      both rest = first rest ∧ ∀ more, more <:+ first rest → second (more ++ weave first rest) = []) :
    weave second (weave first text) = weave both text := by
  induction text with
  | nil => rfl
  | cons c rest ih =>
      have later := ih (fun last ending => plain last (ending.trans (List.suffix_cons c rest)))
        fun last ending => inserted last (ending.trans (List.suffix_cons c rest))
      rw [weave, weave, weave]
      by_cases empty : first rest = []
      · rw [empty, List.nil_append, plain rest (List.suffix_cons c rest) empty, later]
      · obtain ⟨same, none⟩ := inserted rest (List.suffix_cons c rest) empty
        have inside := weave_front second (first rest) (weave first rest) empty fun more _ _ ending => none more ending
        have last : second (weave first rest) = [] := none [] (List.nil_suffix)
        rw [inside, none _ List.suffix_rfl, last, List.nil_append, List.nil_append, later, same]

theorem skip_at_other (place rest : List Char) (differs : rest.length ≠ place.length) : skipsAt [place] rest = [] :=
  skips_elsewhere _ _ fun member => differs (congrArg List.length (List.mem_singleton.mp member))

theorem no_mark_within (place : List Char) : weave (skipsAt [place]) place = place :=
  weave_plain _ _ fun rest short _ => skip_at_other place rest (Nat.ne_of_lt short)

theorem mark_inserted (front place : List Char) (filled : front ≠ []) :
    weave (skipsAt [place]) (front ++ place) = front ++ (skipMark ++ place) := by
  rw [weave_front _ _ _ filled, skips_at_place _ _ List.mem_cons_self, no_mark_within]
  intro rest some _ _
  exact skip_at_other place _ (by simp [some])

theorem skip_at_only (place rest : List Char) (inserted : skipsAt [place] rest ≠ []) : rest = place := by
  by_contra other
  exact inserted (skips_elsewhere _ _ fun member => other (List.mem_singleton.mp member))

theorem woven_opened (extra : List Char → List Char) (pieces : List (List Char)) (marking : Marking pieces.flatten extra)
    (opened : ∀ piece ∈ pieces, (splitFirst? bodyOpening piece).isSome) :
    ∀ piece ∈ wovenPieces extra pieces, (splitFirst? bodyOpening piece).isSome := by
  induction pieces with
  | nil => exact opened
  | cons piece later ih =>
      rw [List.forall_mem_cons] at opened
      rw [List.flatten_cons] at marking
      obtain ⟨⟨declaration, body⟩, found⟩ := Option.isSome_iff_exists.mp opened.1
      have found' := marked_opening piece declaration body _ (marking_front _ _ _ marking) found
      rw [wovenPieces, List.forall_mem_cons]
      exact ⟨by rw [found']; rfl, ih (marking_back _ _ _ marking) opened.2⟩

-- A text of suites with marks is hooked like the text itself, each block where it would stand there.
theorem hook_suites_marked (hook lead : List Char) (file : String) (pieces : List (List Char))
    (extra : List Char → List Char) (name : HookName hook) (quiet : Quiet pieces.flatten false lead)
    (cut : Pieces (endsSeparated false lead) pieces) (opened : ∀ piece ∈ pieces, (splitFirst? bodyOpening piece).isSome)
    (marking : Marking (lead ++ pieces.flatten) extra) (calls : BeforeCalls extra) :
    ∃ hooks, HooksSuites hook (weave extra (lead ++ pieces.flatten)) hooks ∧
      (∀ rest, rest <:+ lead ++ pieces.flatten → hooks (weave extra rest) = hooksOf hook lead pieces rest) ∧
      hookSuites hook file (weave extra (lead ++ pieces.flatten)) =
        .ok (weave hooks (weave extra (lead ++ pieces.flatten))) := by
  have inLead := marking_front _ _ _ marking
  have inPieces := marking_back _ _ _ marking
  have whole := weave_append extra lead pieces.flatten
  have quiet' := marked_quiet lead pieces.flatten extra false marking quiet
  have cut' := marked_pieces extra _ pieces cut inPieces
  have opened' := woven_opened extra pieces inPieces opened
  rw [← marked_ends lead _ false inLead] at cut'
  rw [← woven_flatten] at whole quiet'
  rw [whole]
  refine ⟨_, hooks_of_pieces hook _ _ quiet' cut' opened', ?_, ?_⟩
  · exact fun rest ending => marked_hooks_of hook lead rest pieces extra name marking calls opened ending
  · rw [hook_suites_pieces_ok hook _ file _ name quiet' cut' opened', hooked_lead_weave hook _ _ _ name cut' opened']

theorem no_block_in_mark (hook front place more : List Char) (extra : List Char → List Char)
    (hooks : HooksSuites hook (front ++ testKeyword ++ (skipMark ++ place)) extra) (ending : more <:+ skipMark) :
    extra (more ++ place) = [] := by
  obtain ⟨early, same⟩ := ending
  have letters : ∀ c ∈ testKeyword ++ skipMark, c ≠ '\n' := by simp [testKeyword, skipMark]
  obtain ⟨inner, last, shape⟩ : ∃ inner last, testKeyword ++ early = inner ++ [last] := by
    rcases List.eq_nil_or_concat early with rfl | ⟨inner, last, rfl⟩
    · exact ⟨['i'], 't', rfl⟩
    · exact ⟨testKeyword ++ inner, last, by rw [List.concat_eq_append, List.append_assoc]⟩
  refine no_block_below hook _ (front ++ inner) (more ++ place) last extra hooks ?_ (letters last ?_)
  · rw [List.append_assoc front inner, ← shape, ← same]
    simp only [List.append_assoc]
  · rw [← same, ← List.append_assoc, shape]
    simp

theorem skip_test_first (file test : String) (text edited : List Char) :
    skipTest file test text = .ok edited ↔
      ∃ place, firstRest? test.toList text = some place ∧ weave (skipsAt [place]) text = edited := by
  have skipped : ∀ place ∈ occurrences test.toList text, skipAt? test.toList place =
      (declaredRest? test.toList place).map fun rest => weave (skipsAt [rest]) text := by
    intro place member
    have whole := occurrences_from_join _ _ _ _ _ member
    rw [skipAt?, declaredRest?, Option.map_map]
    refine Option.map_congr fun found declared => ?_
    obtain ⟨above, gap⟩ := found
    obtain ⟨front, _⟩ := (declaration_iff _ _ _).mp declared
    have split : above.reverse ++ testKeyword ++ ('(' :: gap ++ test.toList ++ place.after) = text := by
      simpa [front] using whole.symm
    rw [Function.comp_apply, ← split, mark_inserted _ _ (by simp [testKeyword])]
    simp only [List.append_assoc]
  have same : (occurrences test.toList text).findSome? (skipAt? test.toList) =
      (firstRest? test.toList text).map fun rest => weave (skipsAt [rest]) text := by
    rw [firstRest?, List.map_findSome?, ← List.head?_filterMap, ← List.head?_filterMap, List.filterMap_congr skipped]
    rfl
  rw [skip_test_ok_iff, same, Option.map_eq_some_iff]

-- Skipping a test of a hooked text gives the text with the hooks and, at the test itself, the mark.
theorem skip_hooked (hook text : List Char) (file test : String) (hooks : List Char → List Char) (edited : List Char)
    (name : HookName hook) (inserts : HooksSuites hook text hooks) (filled : test.toList ≠ []) (oneLine : '\n' ∉ test.toList) :
    skipTest file test (weave hooks text) = .ok edited ↔
      ∃ place, firstRest? test.toList text = some place ∧ weave (withSkips [place] hooks) text = edited := by
  have marked : ∀ place, firstRest? test.toList text = some place →
      weave (skipsAt [weave hooks place]) (weave hooks text) = weave (withSkips [place] hooks) text := by
    intro place found
    obtain ⟨above, _, _, start, _⟩ := first_rest_test _ _ _ found
    have split := start.split
    rw [keyword_letters] at split
    have plain := no_block_below hook text (above ++ ['i']) place 't' hooks inserts split (by decide)
    have before : weave (fun rest => hooks (rest ++ place)) (above ++ ['i'] ++ ['t']) ≠ [] := by simp [weave_append, weave]
    rw [split, weave_with_skip _ _ _ _ plain, weave_append, mark_inserted _ _ before, ← List.append_assoc]
  rw [skip_test_first, first_rest_weave _ text hooks filled oneLine (hooks_walled hook text hooks name inserts)]
  simp only [Option.map_eq_some_iff]
  constructor
  · rintro ⟨_, ⟨place, found, rfl⟩, rfl⟩
    exact ⟨place, found, (marked place found).symm⟩
  · rintro ⟨place, found, rfl⟩
    exact ⟨_, ⟨place, found, rfl⟩, marked place found⟩

theorem hook_suites_skipped (hook lead above more : List Char) (d : Char) (file : String) (pieces : List (List Char))
    (name : HookName hook) (quiet : Quiet pieces.flatten false lead) (cut : Pieces (endsSeparated false lead) pieces)
    (opened : ∀ piece ∈ pieces, (splitFirst? bodyOpening piece).isSome)
    (start : TestStart (lead ++ pieces.flatten) above ('(' :: d :: more)) (leading : leads d = true) :
    hookSuites hook file (weave (skipsAt ['(' :: d :: more]) (lead ++ pieces.flatten)) =
      .ok (weave (withSkips ['(' :: d :: more] (hooksOf hook lead pieces)) (lead ++ pieces.flatten)) := by
  have calls : BeforeCalls (skipsAt ['(' :: d :: more]) := fun rest inserted =>
    ⟨d, more, skip_at_only _ rest inserted, leading⟩
  have marking := starts_marking _ ['(' :: d :: more] (List.forall_mem_singleton.mpr ⟨above, start⟩)
  obtain ⟨hooks, inserts, same, run⟩ :=
    hook_suites_marked hook lead file pieces _ name quiet cut opened marking calls
  rw [run, weave_weave]
  · intro rest ending plain
    have other : rest ∉ ['(' :: d :: more] := fun member => by
      rw [skips_at_place _ _ member] at plain
      cases plain
    exact (same rest ending).trans (if_neg other).symm
  · intro rest _ inserted
    obtain rfl := skip_at_only _ rest inserted
    have mark := skips_at_place ['(' :: d :: more] _ List.mem_cons_self
    refine ⟨(if_pos List.mem_cons_self).trans mark.symm, fun part ending => ?_⟩
    rw [start.split, mark_inserted _ _ (by simp [testKeyword])] at inserts
    rw [mark] at ending
    rw [no_mark_within]
    exact no_block_in_mark hook above _ part hooks inserts ending

theorem hook_skip_commute (hook text hooked : List Char) (file test : String) (name : HookName hook)
    (filled : test.toList ≠ []) (oneLine : '\n' ∉ test.toList) (run : hookSuites hook file text = .ok hooked) :
    ((∃ edited, skipTest file test hooked = .ok edited) ↔ ∃ skipped, skipTest file test text = .ok skipped) ∧
    ∀ skipped, skipTest file test text = .ok skipped →
      ∃ edited, skipTest file test hooked = .ok edited ∧ hookSuites hook file skipped = .ok edited := by
  obtain ⟨lead, pieces, rfl, quiet, cut, opened, rfl⟩ := hook_suites_ok hook text hooked file name run
  have inserts := hooks_of_pieces hook lead pieces quiet cut opened
  rw [hooked_lead_weave hook lead _ pieces name cut opened]
  simp only [skip_hooked hook _ file test _ _ name inserts filled oneLine, skip_test_first]
  refine ⟨⟨?_, ?_⟩, ?_⟩
  · rintro ⟨_, place, found, _⟩
    exact ⟨_, place, found, rfl⟩
  · rintro ⟨_, place, found, _⟩
    exact ⟨_, place, found, rfl⟩
  · rintro _ ⟨place, found, rfl⟩
    obtain ⟨above, d, more, start, rfl, leading⟩ := first_rest_test _ _ _ found
    exact ⟨_, ⟨_, found, rfl⟩, hook_suites_skipped hook lead above more d file pieces name quiet cut opened start leading⟩

theorem hooks_and_skips_commute (hook text hooked : List Char) (file : String) (tests : List String) (name : HookName hook)
    (plain : ∀ test ∈ tests, allBlank test = false ∧ '\n' ∉ test.toList) (run : hookSuites hook file text = .ok hooked) :
    ((∃ edited, skipTests file tests hooked = .ok edited) ↔ ∃ skipped, skipTests file tests text = .ok skipped) ∧
    ∀ skipped, skipTests file tests text = .ok skipped →
      ∃ edited, skipTests file tests hooked = .ok edited ∧ hookSuites hook file skipped = .ok edited := by
  induction tests generalizing text hooked with
  | nil =>
      refine ⟨⟨fun _ => ⟨text, rfl⟩, fun _ => ⟨hooked, rfl⟩⟩, ?_⟩
      rintro _ ⟨⟩
      exact ⟨hooked, rfl, run⟩
  | cons test later ih =>
      rw [List.forall_mem_cons] at plain
      have filled : test.toList ≠ [] := by
        intro empty
        simp [allBlank, empty] at plain
      obtain ⟨both, same⟩ := hook_skip_commute hook text hooked file test name filled plain.1.2 run
      rw [skipTests, skipTests]
      cases first : skipTest file test text with
      | ok skipped =>
          obtain ⟨edited, next, run'⟩ := same skipped first
          simp only [next]
          exact ih skipped edited plain.2 run'
      | error e =>
          cases next : skipTest file test hooked with
          | ok edited =>
              obtain ⟨skipped, ok⟩ := both.mp ⟨edited, next⟩
              cases first.symm.trans ok
          | error e' => simp

theorem sample_hooks_skips : HookName "h".toList ∧
    (∀ test ∈ ["b", "a"], allBlank test = false ∧ '\n' ∉ test.toList) ∧
    hookSuites "h".toList "a.ts" " describe(s\x7b\n it('a'); it('b')".toList =
      .ok (" describe(s\x7b\n   beforeEach(function () \x7b\n     h(this);\n   \x7d);\n\n" ++
        " it('a'); it('b')").toList ∧
    skipTests "a.ts" ["b", "a"] " describe(s\x7b\n it('a'); it('b')".toList =
      .ok " describe(s\x7b\n it.skip('a'); it.skip('b')".toList ∧
    skipTests "a.ts" ["b", "a"] (" describe(s\x7b\n   beforeEach(function () \x7b\n     h(this);\n   \x7d);\n\n" ++
        " it('a'); it('b')").toList =
      .ok (" describe(s\x7b\n   beforeEach(function () \x7b\n     h(this);\n   \x7d);\n\n" ++
        " it.skip('a'); it.skip('b')").toList ∧
    hookSuites "h".toList "a.ts" " describe(s\x7b\n it.skip('a'); it.skip('b')".toList =
      .ok (" describe(s\x7b\n   beforeEach(function () \x7b\n     h(this);\n   \x7d);\n\n" ++
        " it.skip('a'); it.skip('b')").toList := by
  have name : HookName "h".toList := ⟨by decide, List.all_eq_true.mp (by decide), by decide⟩
  have plain : ∀ test ∈ ["b", "a"], allBlank test = false ∧ '\n' ∉ test.toList := by decide
  have hook : (hookSuites "h".toList "a.ts" " describe(s\x7b\n it('a'); it('b')".toList).toOption =
      some (" describe(s\x7b\n   beforeEach(function () \x7b\n     h(this);\n   \x7d);\n\n" ++
        " it('a'); it('b')").toList := by decide +kernel
  have skip : (skipTests "a.ts" ["b", "a"] " describe(s\x7b\n it('a'); it('b')".toList).toOption =
      some " describe(s\x7b\n it.skip('a'); it.skip('b')".toList := by decide +kernel
  have both : (skipTests "a.ts" ["b", "a"] (" describe(s\x7b\n   beforeEach(function () \x7b\n     h(this);\n" ++
      "   \x7d);\n\n it('a'); it('b')").toList).toOption =
      some (" describe(s\x7b\n   beforeEach(function () \x7b\n     h(this);\n   \x7d);\n\n" ++
        " it.skip('a'); it.skip('b')").toList := by decide +kernel
  have hooking := except_of_option _ _ hook
  have skipping := except_of_option _ _ skip
  have editing := except_of_option _ _ both
  obtain ⟨_, same⟩ := hooks_and_skips_commute _ _ _ "a.ts" ["b", "a"] name plain hooking
  obtain ⟨edited, first, second⟩ := same _ skipping
  cases editing.symm.trans first
  exact ⟨name, plain, hooking, skipping, first, second⟩

end SuiteSync.Adaptation
