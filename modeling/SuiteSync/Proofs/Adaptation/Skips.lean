import SuiteSync.Proofs.Adaptation.Hits
import SuiteSync.Proofs.Adaptation.Insertions

set_option autoImplicit false

namespace SuiteSync.Adaptation

open Text

theorem keyword_letters (above : List Char) : above ++ testKeyword = above ++ ['i'] ++ ['t'] := by
  rw [List.append_assoc]
  rfl

theorem letter_before_start (text above front rest : List Char) (c : Char) (start : TestStart text above rest)
    (split : text = front ++ [c] ++ rest) : front = above ++ ['i'] ∧ c = 't' := by
  have fronts := start.split.symm.trans split
  rw [keyword_letters] at fronts
  obtain ⟨word, last⟩ := List.append_inj' (List.append_cancel_right fronts) rfl
  exact ⟨word.symm, (List.cons.inj last).1.symm⟩

def Nameless : List Char → Prop
  | [] => True
  | c :: rest => (c = '(' → ∃ d more, rest = d :: more ∧ leads d = false) ∧ Nameless rest

def Calm (text : List Char) (extra : List Char → List Char) : Prop :=
  ∀ rest, extra rest = [] ∨ (extra rest = skipMark ∧ rest.head? = some '(') ∨
    (Nameless (extra rest) ∧ (∃ more, extra rest = more ++ ['\n']) ∧ ∃ front, text = front ++ '\n' :: rest)

theorem skip_test_spec (file test : String) (text edited : List Char) (run : skipTest file test text = .ok edited) :
    ∃ above d after, text = above ++ testKeyword ++ '(' :: d :: after ∧ standsAlone above.reverse = true ∧
      leads d = true ∧ edited = above ++ testKeyword ++ skipMark ++ '(' :: d :: after := by
  obtain ⟨above, gap, after, hit⟩ := skip_test_hit file test text edited run
  obtain ⟨d, more, rfl⟩ := List.exists_cons_of_ne_nil hit.filled
  refine ⟨above, d, more ++ test.toList ++ after, ?_, hit.start.alone, hit.leading d List.mem_cons_self, ?_⟩
  · simpa using hit.start.split
  · simpa using hit.marked

theorem weave_split (extra : List Char → List Char) (text before after : List Char) (c : Char)
    (woven : weave extra text = before ++ c :: after) :
    (∃ front back, text = front ++ c :: back ∧ before = weave (fun rest => extra (rest ++ c :: back)) front ∧
      after = extra back ++ weave extra back) ∨
    ∃ back more less, extra back = more ++ c :: less ∧ after = less ++ weave extra back := by
  induction text generalizing before with
  | nil => exact absurd woven.symm (List.append_ne_nil_of_right_ne_nil before (List.cons_ne_nil c after))
  | cons d rest ih =>
      cases before with
      | nil =>
          obtain ⟨rfl, rfl⟩ := List.cons.inj woven
          exact .inl ⟨[], rest, rfl, rfl, rfl⟩
      | cons e later =>
          obtain ⟨rfl, tail⟩ := List.cons.inj woven
          have here : ∀ first, later = extra rest ++ first → weave extra rest = first ++ c :: after →
              (∃ front back, d :: rest = front ++ c :: back ∧
                d :: later = weave (fun rest => extra (rest ++ c :: back)) front ∧ after = extra back ++ weave extra back) ∨
              ∃ back more less, extra back = more ++ c :: less ∧ after = less ++ weave extra back := by
            intro first same inner
            rcases ih first inner with ⟨front, back, rfl, rfl, ending⟩ | inserted
            · exact .inl ⟨d :: front, back, rfl, by rw [same, weave], ending⟩
            · exact .inr inserted
          rcases List.append_eq_append_iff.mp tail with ⟨first, same, inner⟩ | ⟨less, same, inner⟩
          · exact here first same inner
          · cases less with
            | nil => exact here [] (by rw [same, List.append_nil, List.append_nil]) inner.symm
            | cons c' less =>
                obtain ⟨rfl, ending⟩ := List.cons.inj inner
                exact .inr ⟨rest, later, less, same, ending⟩

theorem weave_last (extra : List Char → List Char) (front before : List Char) (c : Char)
    (woven : weave extra front = before ++ [c]) :
    (extra [] = [] ∧ ∃ shorter, front = shorter ++ [c] ∧ before = weave (fun rest => extra (rest ++ [c])) shorter) ∨
      ∃ more, extra [] = more ++ [c] := by
  rcases List.eq_nil_or_concat front with rfl | ⟨shorter, d, rfl⟩
  · exact absurd woven.symm (List.append_ne_nil_of_right_ne_nil before (List.cons_ne_nil c []))
  · rw [List.concat_eq_append] at woven ⊢
    rw [weave_append, weave, weave, List.append_nil] at woven
    rcases List.eq_nil_or_concat (extra []) with empty | ⟨more, e, same⟩
    · rw [empty] at woven
      obtain ⟨same, last⟩ := List.append_inj' woven rfl
      cases last
      exact .inl ⟨empty, shorter, rfl, same.symm⟩
    · rw [same, List.concat_eq_append, ← List.cons_append, ← List.append_assoc] at woven
      exact .inr ⟨more, by rw [same, List.concat_eq_append, (List.append_inj' woven rfl).2]⟩

theorem nameless_after (text more less : List Char) (nameless : Nameless text) (split : text = more ++ '(' :: less) :
    ∃ d after, less = d :: after ∧ leads d = false := by
  induction more generalizing text with
  | nil =>
      rw [split] at nameless
      exact nameless.1 rfl
  | cons c rest ih =>
      rw [split] at nameless
      exact ih _ nameless.2 rfl

theorem nameless_skip (front back : List Char) (free : '(' ∉ front) (nameless : Nameless back) :
    Nameless (front ++ back) := by
  induction front with
  | nil => exact nameless
  | cons c rest ih =>
      refine ⟨fun bracket => absurd (bracket ▸ List.mem_cons_self) free, ih fun member => ?_⟩
      exact free (List.mem_cons_of_mem c member)

theorem nameless_call (d : Char) (rest : List Char) (other : leads d = false) (nameless : Nameless (d :: rest)) :
    Nameless ('(' :: d :: rest) :=
  ⟨fun _ => ⟨d, rest, rfl, other⟩, nameless⟩

theorem nameless_block (indent hook : List Char) (name : HookName hook) (blank : ∀ c ∈ indent, isIndent c = true) :
    Nameless (hookBlock indent hook) := by
  have free := indent_free indent blank '(' (by decide)
  have noBracket : '(' ∉ hook := fun member =>
    identifier_part_ne '(' '(' (name.parts _ member) (by decide) (by decide) rfl
  have ending : Nameless (blockEnding indent) := by
    have same : blockEnding indent = (['t', 'h', 'i', 's', ')', ';', '\n'] ++ indent ++
        [' ', ' ', '\x7d', ')', ';', '\n', '\n']) ++ [] := by simp [blockEnding]
    rw [same]
    exact nameless_skip _ _ (by simp [free]) trivial
  have call : Nameless (hook ++ '(' :: blockEnding indent) :=
    nameless_skip _ _ noBracket (nameless_call 't' _ (by decide) ending)
  have opening : hookBlock indent hook = (indent ++ [' ', ' ', 'b', 'e', 'f', 'o', 'r', 'e', 'E', 'a', 'c', 'h']) ++
      '(' :: 'f' :: (['u', 'n', 'c', 't', 'i', 'o', 'n', ' '] ++ '(' :: ')' :: (([' ', '\x7b', '\n'] ++ indent ++
      [' ', ' ', ' ', ' ']) ++ (hook ++ '(' :: blockEnding indent))) := by
    rw [hook_block_parts]
    simp only [blockOpening, List.append_assoc, List.cons_append, List.nil_append]
  rw [opening]
  refine nameless_skip _ _ (by simp [free]) (nameless_call 'f' _ (by decide) ?_)
  rw [← List.cons_append]
  refine nameless_skip _ _ (by decide) (nameless_call ')' _ (by decide) ?_)
  rw [← List.cons_append]
  exact nameless_skip _ _ (by simp [free]) call

theorem calm_hooks (hook text : List Char) (extra : List Char → List Char) (name : HookName hook)
    (hooks : HooksSuites hook text extra) : Calm text extra := by
  intro rest
  by_cases plain : extra rest = []
  · exact .inl plain
  · obtain ⟨above, below, declaration, suite, found, filled⟩ := inserted_block hook text rest extra hooks plain
    refine .inr (.inr ⟨?_, ⟨_, filled.trans (hook_block_lines _ _)⟩, above ++ declaration ++ ['\x7b'], ?_⟩)
    · exact filled ▸ nameless_block _ _ name (last_indent_blank above)
    · have opening : bodyOpening = ['\x7b', '\n'] := by decide
      rw [suite.split, split_first_join _ _ _ _ found, opening]
      simp only [List.append_assoc, List.cons_append, List.nil_append]

theorem calm_last (text : List Char) (extra : List Char → List Char) (calm : Calm text extra) (rest more : List Char)
    (last : Char) (ends : extra rest = more ++ [last]) :
    (last = 'p' ∧ rest.head? = some '(') ∨ (last = '\n' ∧ ∃ front, text = front ++ '\n' :: rest) := by
  rcases calm rest with plain | ⟨skip, bracket⟩ | ⟨_, ⟨lines, same⟩, front, split⟩
  · rw [plain] at ends
    exact absurd ends.symm (List.append_ne_nil_of_right_ne_nil more (List.cons_ne_nil last []))
  · have mark : skipMark = ['.', 's', 'k', 'i'] ++ ['p'] := by decide
    rw [skip, mark] at ends
    exact .inl ⟨(List.cons.inj (List.append_inj' ends rfl).2).1.symm, bracket⟩
  · rw [same] at ends
    exact .inr ⟨(List.cons.inj (List.append_inj' ends rfl).2).1.symm, front, split⟩

theorem weave_before (text front back before : List Char) (extra : List Char → List Char) (calm : Calm text extra)
    (c : Char) (noMark : c ≠ 'p') (noLine : c ≠ '\n')
    (woven : weave (fun rest => extra (rest ++ back)) front = before ++ [c]) :
    extra back = [] ∧ ∃ shorter, front = shorter ++ [c] ∧
      before = weave (fun rest => extra (rest ++ c :: back)) shorter := by
  rcases weave_last _ _ _ _ woven with ⟨plain, shorter, same, ending⟩ | ⟨more, ends⟩
  · simp only [List.append_assoc, List.singleton_append] at ending
    exact ⟨plain, shorter, same, ending⟩
  · rcases calm_last text extra calm _ more c ends with ⟨mark, _⟩ | ⟨line, _⟩
    · exact absurd mark noMark
    · exact absurd line noLine

theorem alone_of_woven (text front back : List Char) (extra : List Char → List Char) (calm : Calm text extra)
    (split : text = front ++ 'i' :: back)
    (alone : standsAlone (weave (fun rest => extra (rest ++ 'i' :: back)) front).reverse = true) :
    standsAlone front.reverse = true := by
  rcases List.eq_nil_or_concat front with rfl | ⟨shorter, c, rfl⟩
  · rfl
  · rw [List.concat_eq_append] at alone split ⊢
    rw [List.reverse_append, List.reverse_singleton, List.singleton_append, standsAlone]
    rw [weave_append, weave, weave, List.append_nil] at alone
    rcases List.eq_nil_or_concat (extra ('i' :: back)) with plain | ⟨more, last, ends⟩
    · rw [List.nil_append, plain] at alone
      rwa [List.reverse_append, List.reverse_singleton, List.singleton_append, standsAlone] at alone
    · rw [List.concat_eq_append] at ends
      rcases calm_last text extra calm _ more last ends with ⟨_, bracket⟩ | ⟨_, earlier, same⟩
      · exact absurd (Option.some.inj bracket) (by decide)
      · rw [split, List.append_cons earlier] at same
        obtain ⟨_, feed⟩ := List.append_inj' (List.append_cancel_right same) rfl
        cases feed
        rfl

theorem start_of_kept (text above early back : List Char) (extra : List Char → List Char) (calm : Calm text extra)
    (split : text = early ++ '(' :: back)
    (woven : above ++ testKeyword = weave (fun rest => extra (rest ++ '(' :: back)) early)
    (alone : standsAlone above.reverse = true) :
    ∃ front, TestStart text front ('(' :: back) ∧ extra ('(' :: back) = [] ∧
      above ++ testKeyword = weave (fun last => extra (last ++ '(' :: back)) (front ++ testKeyword) := by
  have start := woven
  rw [keyword_letters] at start
  obtain ⟨plain, early', rfl, start'⟩ := weave_before text _ _ _ extra calm 't' (by decide) (by decide) start.symm
  obtain ⟨_, front, rfl, start''⟩ := weave_before text _ _ _ extra calm 'i' (by decide) (by decide) start'.symm
  have whole : text = front ++ 'i' :: 't' :: '(' :: back := by
    rw [split, List.append_assoc, List.append_assoc]
    rfl
  rw [start''] at alone
  refine ⟨front, ⟨?_, rfl, alone_of_woven text front _ extra calm whole alone⟩, plain, ?_⟩
  · rw [split, keyword_letters]
  · rw [keyword_letters front, woven]

theorem start_of_woven (text above after : List Char) (d : Char) (extra : List Char → List Char) (calm : Calm text extra)
    (woven : weave extra text = above ++ testKeyword ++ '(' :: d :: after)
    (alone : standsAlone above.reverse = true) (named : leads d = true) :
    ∃ front rest, TestStart text front rest ∧ extra rest = [] ∧
      above ++ testKeyword = weave (fun last => extra (last ++ rest)) (front ++ testKeyword) ∧
      '(' :: d :: after = weave extra rest := by
  rcases weave_split _ _ _ _ _ woven with ⟨early, back, split, start, ending⟩ | ⟨back, more, less, inside, ending⟩
  · obtain ⟨front, first, plain, before⟩ := start_of_kept text above early back extra calm split start alone
    exact ⟨front, '(' :: back, first, plain, before, by rw [weave, ending]⟩
  · rcases calm back with plain | ⟨skip, _⟩ | ⟨nameless, _, _⟩
    · rw [plain] at inside
      exact absurd inside.symm (List.append_ne_nil_of_right_ne_nil more (List.cons_ne_nil _ less))
    · have foreign : '(' ∉ skipMark := by decide
      exact absurd (skip ▸ inside ▸ List.mem_append_right more List.mem_cons_self) foreign
    · obtain ⟨e, later, rfl, other⟩ := nameless_after _ more less nameless inside
      cases (List.cons.inj ending).1
      rw [named] at other
      cases other

def withSkips (places : List (List Char)) (extra : List Char → List Char) (rest : List Char) : List Char :=
  if rest ∈ places then skipMark else extra rest

theorem with_skips_cons (place : List Char) (places : List (List Char)) (extra : List Char → List Char) :
    withSkips (place :: places) extra = withSkips places (withSkips [place] extra) := by
  funext rest
  by_cases later : rest ∈ places
  · simp [withSkips, later]
  · simp [withSkips, later]

theorem calm_with_skip (text place : List Char) (extra : List Char → List Char) (calm : Calm text extra)
    (bracket : place.head? = some '(') : Calm text (withSkips [place] extra) := by
  intro rest
  by_cases here : rest = place
  · subst here
    exact .inr (.inl ⟨if_pos List.mem_cons_self, bracket⟩)
  · have other : withSkips [place] extra rest = extra rest := if_neg fun member => here (List.mem_singleton.mp member)
    rw [other]
    exact calm rest

theorem weave_with_skip (extra : List Char → List Char) (front back : List Char) (c : Char) (plain : extra back = []) :
    weave (withSkips [back] extra) (front ++ [c] ++ back) =
      weave (fun rest => extra (rest ++ back)) (front ++ [c]) ++ skipMark ++ weave extra back := by
  have other : ∀ rest, rest.length ≠ back.length → withSkips [back] extra rest = extra rest := fun rest differs =>
    if_neg fun member => differs (congrArg List.length (List.mem_singleton.mp member))
  have here : withSkips [back] extra back = skipMark := if_pos List.mem_cons_self
  have later : weave (withSkips [back] extra) back = weave extra back :=
    weave_congr _ _ _ fun rest short _ => other rest (by omega)
  have earlier : weave (fun rest => withSkips [back] extra (rest ++ ([c] ++ back))) front =
      weave (fun rest => extra (rest ++ ([c] ++ back))) front :=
    weave_congr _ _ _ fun rest _ _ => other _ (by simp only [List.length_append, List.length_singleton]; omega)
  rw [weave_append, weave_append, weave_append, later]
  simp only [List.append_assoc, earlier, weave, List.nil_append, here, plain, List.append_nil]
  rfl

theorem skip_test_weave (file test : String) (text edited : List Char) (extra : List Char → List Char)
    (calm : Calm text extra) (run : skipTest file test (weave extra text) = .ok edited) :
    ∃ above place, TestStart text above place ∧ extra place = [] ∧ edited = weave (withSkips [place] extra) text := by
  obtain ⟨above, d, after, woven, alone, named, rfl⟩ := skip_test_spec file test _ _ run
  obtain ⟨front, place, start, plain, before, ending⟩ := start_of_woven text above after d extra calm woven alone named
  refine ⟨front, place, start, plain, ?_⟩
  rw [before, ending, keyword_letters, ← weave_with_skip extra _ place 't' plain, ← keyword_letters, ← start.split]

theorem skip_tests_weave (file : String) (tests : List String) (text edited : List Char)
    (extra : List Char → List Char) (calm : Calm text extra) (run : skipTests file tests (weave extra text) = .ok edited) :
    ∃ places : List (List Char), places.Nodup ∧ places.length = tests.length ∧
      (∀ place ∈ places, extra place = [] ∧ ∃ above, TestStart text above place) ∧
      edited = weave (withSkips places extra) text := by
  induction tests generalizing extra with
  | nil =>
      cases run
      exact ⟨[], List.nodup_nil, rfl, List.forall_mem_nil _, rfl⟩
  | cons test later ih =>
      rw [skipTests] at run
      split at run
      · cases run
      · rename_i skipped first
        obtain ⟨above, place, start, plain, rfl⟩ := skip_test_weave file test text skipped extra calm first
        obtain ⟨places, distinct, count, starts, final⟩ := ih _ (calm_with_skip text place extra calm start.bracket) run
        have mark : withSkips [place] extra place = skipMark := if_pos List.mem_cons_self
        -- A start that already has its mark is not found again.
        have fresh : place ∉ places := fun member => nomatch mark.symm.trans (starts place member).1
        refine ⟨place :: places, List.nodup_cons.mpr ⟨fresh, distinct⟩, congrArg (· + 1) count, ?_, ?_⟩
        · rw [List.forall_mem_cons]
          refine ⟨⟨plain, above, start⟩, fun other member => ⟨?_, (starts other member).2⟩⟩
          have different : other ∉ [place] := fun same => fresh (List.mem_singleton.mp same ▸ member)
          exact (if_neg different).symm.trans (starts other member).1
        · rw [with_skips_cons]
          exact final

end SuiteSync.Adaptation
