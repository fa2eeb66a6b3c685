import Mathlib.Data.List.Forall2
import Mathlib.Data.List.Infix
import SuiteSync.Proofs.Adaptation.Conventional
import SuiteSync.Proofs.Adaptation.Skips

set_option autoImplicit false

namespace SuiteSync.Adaptation

open Text

def Starts (text : List Char) (places : List (List Char)) : Prop :=
  ∀ place ∈ places, ∃ above, TestStart text above place

def skipsAt (places : List (List Char)) : List Char → List Char := withSkips places fun _ => []

theorem skips_at_place (places : List (List Char)) (rest : List Char) (member : rest ∈ places) :
    skipsAt places rest = skipMark := if_pos member

theorem skips_elsewhere (places : List (List Char)) (rest : List Char) (other : rest ∉ places) :
    skipsAt places rest = [] := if_neg other

theorem skips_at_cons (place : List Char) (places : List (List Char)) :
    withSkips [place] (skipsAt places) = skipsAt (place :: places) := by
  funext rest
  by_cases same : rest = place
  · simp [withSkips, skipsAt, same]
  · simp [withSkips, skipsAt, same]

theorem skips_at_congr (places places' : List (List Char)) (same : ∀ place, place ∈ places ↔ place ∈ places') :
    skipsAt places = skipsAt places' := by
  funext rest
  simp only [skipsAt, withSkips, same]

theorem weave_no_skips (text : List Char) : weave (skipsAt []) text = text :=
  weave_plain _ text fun rest _ _ => skips_elsewhere [] rest List.not_mem_nil

theorem calm_skips (text : List Char) (places : List (List Char)) (starts : Starts text places) :
    Calm text (skipsAt places) := by
  intro rest
  by_cases member : rest ∈ places
  · obtain ⟨above, start⟩ := starts rest member
    exact .inr (.inl ⟨skips_at_place _ _ member, start.bracket⟩)
  · exact .inl (skips_elsewhere _ _ member)

theorem skips_before_letter (text rest : List Char) (c : Char) (places : List (List Char)) (starts : Starts text places)
    (letter : c ≠ '(') : skipsAt places (c :: rest) = [] := by
  refine skips_elsewhere _ _ fun member => ?_
  obtain ⟨above, start⟩ := starts _ member
  exact letter (Option.some.inj start.bracket)

theorem start_of_skipped (text above rest : List Char) (places : List (List Char)) (starts : Starts text places)
    (start : TestStart (weave (skipsAt places) text) above rest) :
    ∃ front back, TestStart text front back ∧ back ∉ places ∧
      above ++ testKeyword = weave (fun last => skipsAt places (last ++ back)) (front ++ testKeyword) ∧
      rest = weave (skipsAt places) back := by
  obtain ⟨after, rfl⟩ := List.head?_eq_some_iff.mp start.bracket
  rcases weave_split _ _ _ _ _ start.split with ⟨early, back, split, before, ending⟩ | ⟨back, more, less, inside, _⟩
  · obtain ⟨front, first, plain, woven⟩ :=
      start_of_kept text above early back _ (calm_skips text places starts) split before start.alone
    refine ⟨front, '(' :: back, first, fun member => ?_, woven, by rw [weave, ending]⟩
    rw [skips_at_place _ _ member] at plain
    cases plain
  · by_cases member : back ∈ places
    · have foreign : '(' ∉ skipMark := by decide
      rw [skips_at_place _ _ member] at inside
      exact absurd (inside ▸ List.mem_append_right more List.mem_cons_self) foreign
    · rw [skips_elsewhere _ _ member] at inside
      exact absurd inside.symm (List.append_ne_nil_of_right_ne_nil more (List.cons_ne_nil _ less))

theorem skipped_start (text above rest : List Char) (places : List (List Char)) (starts : Starts text places)
    (start : TestStart text above rest) (unskipped : rest ∉ places) :
    TestStart (weave (skipsAt places) text) (weave (fun last => skipsAt places (last ++ (testKeyword ++ rest))) above)
      (weave (skipsAt places) rest) := by
  obtain ⟨after, rfl⟩ := List.head?_eq_some_iff.mp start.bracket
  have beforeWord : skipsAt places (testKeyword ++ '(' :: after) = [] :=
    skips_before_letter text _ 'i' places starts (by decide)
  have inWord : skipsAt places ('t' :: '(' :: after) = [] := skips_before_letter text _ 't' places starts (by decide)
  have word : weave (skipsAt places) (testKeyword ++ '(' :: after) =
      testKeyword ++ weave (skipsAt places) ('(' :: after) := by
    have letters : testKeyword = ['i', 't'] := rfl
    simp only [letters, List.cons_append, List.nil_append, weave, inWord, skips_elsewhere _ _ unskipped]
  refine ⟨?_, rfl, ?_⟩
  · rw [start.split, List.append_assoc, weave_append, word, List.append_assoc]
  · rcases List.eq_nil_or_concat above with rfl | ⟨shorter, c, rfl⟩
    · rfl
    · have alone := start.alone
      rw [List.concat_eq_append, weave_append, weave, weave, List.nil_append, beforeWord, List.append_nil]
      rw [List.concat_eq_append, List.reverse_append] at alone
      rwa [List.reverse_append]

theorem no_start_within (text above above' front last back : List Char)
    (start : TestStart text above ('(' :: (front ++ last) ++ back)) (start' : TestStart text above' (last ++ back))
    (filled : last ≠ []) : testCall <:+: front ++ last := by
  have whole : (above ++ testKeyword ++ '(' :: front) ++ (last ++ back) = (above' ++ testKeyword) ++ (last ++ back) := by
    simpa using start.split.symm.trans start'.split
  have ending : testKeyword <:+ front :=
    suffix_after_stop testKeyword (above ++ testKeyword) front '(' (by decide)
      ⟨above', (List.append_cancel_right whole).symm⟩
  obtain ⟨earlier, rfl⟩ := ending
  cases last with
  | nil => exact absurd rfl filled
  | cons c more =>
      cases Option.some.inj start'.bracket
      exact ⟨earlier, more, by simp [testCall]⟩

theorem skipped_front (text above front back : List Char) (places : List (List Char)) (starts : Starts text places)
    (start : TestStart text above ('(' :: front ++ back)) (free : ¬ testCall <:+: front) :
    weave (skipsAt places) ('(' :: front ++ back) =
      '(' :: front ++ (skipsAt places back ++ weave (skipsAt places) back) := by
  refine weave_front _ ('(' :: front) back (List.cons_ne_nil _ _) fun rest filled short ending => ?_
  refine skips_elsewhere _ _ fun member => ?_
  obtain ⟨above', start'⟩ := starts _ member
  rcases List.suffix_cons_iff.mp ending with rfl | ⟨earlier, rfl⟩
  · exact Nat.lt_irrefl _ short
  · exact free (no_start_within _ _ _ earlier rest back start start' filled)

theorem front_of_skipped (text front after : List Char) (places : List (List Char)) (stop : Char)
    (brackets : ∀ place ∈ places, place.head? = some '(') (foreign : stop ∉ skipCall) (free : ¬ skipCall <:+: front)
    (woven : weave (skipsAt places) text = front ++ stop :: after) : ∃ back, text = front ++ stop :: back := by
  induction front generalizing text with
  | nil =>
      cases text with
      | nil => cases woven
      | cons c rest => exact ⟨rest, congrArg (· :: rest) (List.cons.inj woven).1⟩
  | cons d more ih =>
      cases text with
      | nil => cases woven
      | cons c rest =>
          cases (List.cons.inj woven).1
          have tail : skipsAt places rest ++ weave (skipsAt places) rest = more ++ stop :: after := (List.cons.inj woven).2
          by_cases member : rest ∈ places
          · obtain ⟨less, rfl⟩ := List.head?_eq_some_iff.mp (brackets _ member)
            have starts : skipCall <+: more ++ stop :: after := by
              rw [← tail, skips_at_place _ _ member, weave]
              exact ⟨_, by rw [skipCall, List.append_assoc, List.singleton_append]⟩
            have inside := ((prefix_before_stop _ _ _ _ foreign).mp starts).isInfix
            exact absurd (List.infix_cons inside) free
          · rw [skips_elsewhere _ _ member] at tail
            obtain ⟨back, rfl⟩ := ih rest (fun inside => free (List.infix_cons inside)) tail
            exact ⟨back, rfl⟩

theorem quoted_free (pattern blanks name : List Char) (quote c : Char) (starts : pattern.head? = some c)
    (visible : isBlank c = false) (foreign : quote ∉ pattern) (free : ¬ pattern <:+: name)
    (blank : ∀ d ∈ blanks, isBlank d = true) : ¬ pattern <:+: blanks ++ quote :: name := by
  intro inside
  rcases infix_around_stop pattern blanks name quote foreign inside with before | within
  · obtain ⟨more, rfl⟩ := List.head?_eq_some_iff.mp starts
    rw [blank c (before.subset List.mem_cons_self)] at visible
    cases visible
  · exact free within

theorem quote_cases (c : Char) (quote : isQuote c = true) : c = '\x27' ∨ c = '\x22' ∨ c = '\x60' := by
  simpa [isQuote, or_assoc] using quote

theorem quote_foreign (quote : Char) (isQuote : isQuote quote = true) : quote ∉ testCall ∧ quote ∉ skipCall := by
  rcases quote_cases quote isQuote with rfl | rfl | rfl <;> decide

theorem skipped_declares_iff (text above rest name : List Char) (places : List (List Char)) (starts : Starts text places)
    (start : TestStart text above rest) (plain : PlainName name) :
    Declares name (weave (skipsAt places) rest) ↔ Declares name rest := by
  constructor
  · rintro ⟨blanks, quote, after, woven, blank, isQuote⟩
    have foreign := (quote_foreign quote isQuote).2
    have brackets : ∀ place ∈ places, place.head? = some '(' := fun place member =>
      (starts place member).elim fun _ start => start.bracket
    have free : ¬ skipCall <:+: '(' :: blanks ++ quote :: name := by
      intro inside
      rcases List.infix_cons_iff.mp inside with ⟨_, first⟩ | within
      · exact absurd (List.cons.inj first).1 (by decide)
      · exact quoted_free skipCall blanks name quote '.' rfl (by decide) foreign plain.skipless blank within
    obtain ⟨back, same⟩ := front_of_skipped rest _ after places quote brackets foreign free woven
    exact ⟨blanks, quote, back, same, blank, isQuote⟩
  · rintro ⟨blanks, quote, after, same, blank, isQuote⟩
    have foreign := (quote_foreign quote isQuote).1
    have whole : rest = '(' :: (blanks ++ quote :: (name ++ [quote])) ++ after := by simp [same]
    have closed : ¬ testCall <:+: name ++ [quote] := by
      intro inside
      rcases infix_around_stop testCall name [] quote foreign inside with within | empty
      · exact plain.callless within
      · exact absurd (List.infix_nil.mp empty) (by decide)
    have free := quoted_free testCall blanks (name ++ [quote]) quote 'i' rfl (by decide) foreign closed blank
    rw [whole] at start
    rw [whole, skipped_front text above _ after places starts start free]
    exact ⟨blanks, quote, skipsAt places after ++ weave (skipsAt places) after, by simp, blank, isQuote⟩

theorem skipped_conventional (text : List Char) (places : List (List Char)) (starts : Starts text places)
    (conventional : Conventional text) : Conventional (weave (skipsAt places) text) := by
  intro above rest start
  obtain ⟨front, back, start', _, _, rfl⟩ := start_of_skipped text above rest places starts start
  obtain ⟨gap, c, after, same, opens, visible⟩ := conventional front back start'
  have whole : back = '(' :: (gap ++ [c]) ++ after := by simp [same]
  have free : ¬ testCall <:+: gap ++ [c] := by
    rintro ⟨earlier, later, joined⟩
    have lengths := congrArg List.length joined
    have call : testCall.length = 3 := rfl
    simp only [List.length_append, List.length_singleton, call] at lengths
    have member : 'i' ∈ gap := char_within [] gap [c] earlier ('t' :: '(' :: later) 'i'
      (by simpa [testCall, testKeyword] using joined.symm) (Nat.zero_le _) (by simp; omega)
    exact absurd (opens_leading gap opens 'i' member) (by decide)
  rw [whole] at start'
  rw [whole, skipped_front text front _ after places starts start' free]
  exact ⟨gap, c, skipsAt places after ++ weave (skipsAt places) after, by simp, opens, visible⟩

theorem weave_length (extra : List Char → List Char) (text : List Char) : text.length ≤ (weave extra text).length := by
  induction text generalizing extra with
  | nil => exact Nat.le_refl _
  | cons c rest ih =>
      have shorter := ih extra
      simp only [weave, List.length_cons, List.length_append]
      omega

theorem weave_longer (extra : List Char → List Char) (text rest rest' : List Char) (ending : rest <:+ text)
    (ending' : rest' <:+ text) (long : (weave extra rest').length ≤ (weave extra rest).length) :
    rest'.length ≤ rest.length := by
  refine Nat.le_of_not_lt fun shorter => ?_
  obtain ⟨front, rfl⟩ := List.suffix_of_suffix_length_le ending ending' (Nat.le_of_lt shorter)
  have woven := weave_length (fun last => extra (last ++ rest)) front
  rw [weave_append, List.length_append] at long
  rw [List.length_append] at shorter
  omega

theorem start_suffix (text above rest : List Char) (start : TestStart text above rest) : rest <:+ text :=
  ⟨above ++ testKeyword, start.split.symm⟩

theorem skip_next (file test : String) (text edited : List Char) (places : List (List Char))
    (conventional : Conventional text) (starts : Starts text places) (plain : PlainName test.toList)
    (apart : ∀ place ∈ places, ¬ Declares test.toList place)
    (run : skipTest file test (weave (skipsAt places) text) = .ok edited) :
    ∃ above place, FirstDeclaration text test.toList above place ∧ edited = weave (skipsAt (place :: places)) text := by
  obtain ⟨above, rest, found, rfl⟩ :=
    skip_finds_first file test _ edited (skipped_conventional text places starts conventional) plain run
  obtain ⟨front, place, start, unskipped, woven, rfl⟩ := start_of_skipped text above rest places starts found.start
  have declares := (skipped_declares_iff text front place _ places starts start plain).mp found.declares
  refine ⟨front, place, ⟨start, declares, fun above' rest' start' declares' => ?_⟩, ?_⟩
  · have unskipped' : rest' ∉ places := fun member => apart rest' member declares'
    have found' := (skipped_declares_iff text above' rest' _ places starts start' plain).mpr declares'
    exact weave_longer _ text place rest' (start_suffix _ _ _ start) (start_suffix _ _ _ start')
      (found.first _ _ (skipped_start text above' rest' places starts start' unskipped') found')
  · rw [woven, keyword_letters, ← weave_with_skip (skipsAt places) _ place 't' (skips_elsewhere _ _ unskipped),
      ← keyword_letters, ← start.split, skips_at_cons]

theorem skip_next_succeeds (file test : String) (text : List Char) (places : List (List Char)) (starts : Starts text places)
    (plain : PlainName test.toList) (apart : ∀ place ∈ places, ¬ Declares test.toList place)
    (declared : Declared text test.toList) : ∃ edited, skipTest file test (weave (skipsAt places) text) = .ok edited := by
  obtain ⟨above, rest, start, declares⟩ := declared
  have unskipped : rest ∉ places := fun member => apart rest member declares
  exact skip_succeeds file test _ plain ⟨_, _, skipped_start text above rest places starts start unskipped,
    (skipped_declares_iff text above rest _ places starts start plain).mpr declares⟩

theorem quote_visible (c : Char) (quote : isQuote c = true) : isBlank c = false := by
  rcases quote_cases c quote with rfl | rfl | rfl <;> decide

theorem declares_unique (name name' rest : List Char) (plain : PlainName name) (plain' : PlainName name')
    (declares : Declares name rest) (declares' : Declares name' rest) : name = name' := by
  obtain ⟨blanks, quote, after, rfl, blank, isQuote⟩ := declares
  obtain ⟨blanks', quote', after', same, blank', isQuote'⟩ := declares'
  have aligned : blanks ++ quote :: (name ++ quote :: after) = blanks' ++ quote' :: (name' ++ quote' :: after') := by
    simpa using same
  obtain ⟨_, titles⟩ := front_unique isBlank _ _ _ _ _ _ blank blank' (quote_visible quote isQuote)
    (quote_visible quote' isQuote') aligned
  have bare : ∀ name, PlainName name → ∀ c ∈ name, (!Adaptation.isQuote c) = true := fun name plain c member => by
    rw [plain.unquoted c member]
    rfl
  exact (front_unique (fun c => !Adaptation.isQuote c) name name' after after' quote quote' (bare name plain)
    (bare name' plain') (by simp [isQuote]) (by simp [isQuote']) (List.cons.inj titles).2).1

theorem first_declaration_unique (text name above above' rest rest' : List Char)
    (first : FirstDeclaration text name above rest) (first' : FirstDeclaration text name above' rest') : rest = rest' := by
  have equal := Nat.le_antisymm (first'.first _ _ first.start first.declares) (first.first _ _ first'.start first'.declares)
  have whole := first.start.split.symm.trans first'.start.split
  exact (List.append_inj' whole equal).2

def FirstPlaces (text : List Char) (tests : List String) (places : List (List Char)) : Prop :=
  List.Forall₂ (fun test place => ∃ above, FirstDeclaration text test.toList above place) tests places

theorem first_places_mem (text : List Char) (tests : List String) (places : List (List Char))
    (firsts : FirstPlaces text tests places) (place : List Char) :
    place ∈ places ↔ ∃ test ∈ tests, ∃ above, FirstDeclaration text test.toList above place := by
  induction firsts with
  | nil => simp
  | cons first more ih =>
      obtain ⟨above, first⟩ := first
      rw [List.mem_cons, ih]
      constructor
      · rintro (rfl | ⟨test, member, found⟩)
        · exact ⟨_, List.mem_cons_self, above, first⟩
        · exact ⟨test, List.mem_cons_of_mem _ member, found⟩
      · rintro ⟨test, member, above', found⟩
        rcases List.mem_cons.mp member with rfl | later
        · exact .inl (first_declaration_unique _ _ _ _ _ _ found first)
        · exact .inr ⟨test, later, above', found⟩

theorem first_places_declared (text : List Char) (tests : List String) (places : List (List Char))
    (firsts : FirstPlaces text tests places) : ∀ test ∈ tests, Declared text test.toList := by
  induction firsts with
  | nil => exact List.forall_mem_nil _
  | cons first more ih =>
      obtain ⟨above, first⟩ := first
      exact List.forall_mem_cons.mpr ⟨⟨above, _, first.start, first.declares⟩, ih⟩

structure StopsAt (text : List Char) (file : String) (excluded earlier later : List String) (test : String)
    (error : AdaptError) : Prop where
  split : excluded = earlier ++ test :: later
  declared : ∀ name ∈ earlier, Declared text name.toList
  missing : ¬ Declared text test.toList
  named : error = .testNotFound test file ∨ error = .testStartNotFound test file

theorem skip_tests_outcome (file : String) (excluded : List String) (text : List Char) (places : List (List Char))
    (conventional : Conventional text) (starts : Starts text places) (plain : ∀ test ∈ excluded, PlainName test.toList)
    (distinct : excluded.Nodup) (apart : ∀ test ∈ excluded, ∀ place ∈ places, ¬ Declares test.toList place) :
    (∃ firsts, FirstPlaces text excluded firsts ∧
      skipTests file excluded (weave (skipsAt places) text) = .ok (weave (skipsAt (firsts.reverse ++ places)) text)) ∨
    ∃ earlier test later error, StopsAt text file excluded earlier later test error ∧
      skipTests file excluded (weave (skipsAt places) text) = .error error := by
  induction excluded generalizing places with
  | nil => exact .inl ⟨[], .nil, rfl⟩
  | cons test more ih =>
      rw [List.forall_mem_cons] at plain apart
      rw [List.nodup_cons] at distinct
      by_cases declared : Declared text test.toList
      · obtain ⟨edited, run⟩ := skip_next_succeeds file test text places starts plain.1 apart.1 declared
        obtain ⟨above, place, first, rfl⟩ := skip_next file test text edited places conventional starts plain.1 apart.1 run
        -- A later name is another one, so the place just marked does not declare it.
        have apart' : ∀ other ∈ more, ∀ rest ∈ place :: places, ¬ Declares other.toList rest := by
          intro other member
          refine List.forall_mem_cons.mpr ⟨fun declares => ?_, apart.2 other member⟩
          have same := declares_unique _ _ _ plain.1 (plain.2 other member) first.declares declares
          exact distinct.1 (String.toList_inj.mp same ▸ member)
        have starts' : Starts text (place :: places) := List.forall_mem_cons.mpr ⟨⟨above, first.start⟩, starts⟩
        rcases ih (place :: places) starts' plain.2 distinct.2 apart' with
          ⟨firsts, found, rest⟩ | ⟨earlier, other, later, error, stops, rest⟩
        · refine .inl ⟨place :: firsts, .cons ⟨above, first⟩ found, ?_⟩
          rw [skipTests, run, List.reverse_cons, List.append_assoc, List.singleton_append]
          exact rest
        · refine .inr ⟨test :: earlier, other, later, error, ⟨?_, ?_, stops.missing, stops.named⟩, ?_⟩
          · rw [stops.split, List.cons_append]
          · exact List.forall_mem_cons.mpr ⟨declared, stops.declared⟩
          · rw [skipTests, run]
            exact rest
      · cases run : skipTest file test (weave (skipsAt places) text) with
        | ok edited =>
            obtain ⟨above, place, first, _⟩ := skip_next file test text edited places conventional starts plain.1 apart.1 run
            exact absurd ⟨above, place, first.start, first.declares⟩ declared
        | error e =>
            refine .inr ⟨[], test, more, e, ⟨rfl, List.forall_mem_nil _, declared, skip_test_error _ _ _ _ run⟩, ?_⟩
            rw [skipTests, run]

theorem skip_tests_ends (file : String) (excluded : List String) (text : List Char) (conventional : Conventional text)
    (plain : ∀ test ∈ excluded, PlainName test.toList) (distinct : excluded.Nodup) :
    (∃ places, FirstPlaces text excluded places ∧ skipTests file excluded text = .ok (weave (skipsAt places) text)) ∨
    ∃ earlier test later error, StopsAt text file excluded earlier later test error ∧
      skipTests file excluded text = .error error := by
  have outcome := skip_tests_outcome file excluded text [] conventional (List.forall_mem_nil _) plain distinct
    fun _ _ => List.forall_mem_nil _
  rw [weave_no_skips] at outcome
  refine outcome.imp_left ?_
  rintro ⟨firsts, found, run⟩
  rw [List.append_nil, skips_at_congr firsts.reverse firsts fun _ => List.mem_reverse] at run
  exact ⟨firsts, found, run⟩

/-- In a conventional text, exclusions of plain names succeed when every name is declared, mark the first declaration of
each name and nothing else, in whatever order they come, and else fail at the first name that is not declared. -/
theorem exclusions_mark_first_declarations (file : String) (excluded : List String) (text : List Char)
    (conventional : Conventional text) (plain : ∀ test ∈ excluded, PlainName test.toList) (distinct : excluded.Nodup) :
    ((∃ edited, skipTests file excluded text = .ok edited) ↔ ∀ test ∈ excluded, Declared text test.toList) ∧
    (∀ edited, skipTests file excluded text = .ok edited →
      ∃ places, FirstPlaces text excluded places ∧ edited = weave (skipsAt places) text) ∧
    (∀ edited others, skipTests file excluded text = .ok edited → excluded.Perm others →
      skipTests file others text = .ok edited) ∧
    ∀ error, skipTests file excluded text = .error error →
      ∃ earlier test later, StopsAt text file excluded earlier later test error := by
  rcases skip_tests_ends file excluded text conventional plain distinct with
    ⟨places, firsts, run⟩ | ⟨earlier, test, later, error, stops, run⟩
  · have declared := first_places_declared text excluded places firsts
    refine ⟨⟨fun _ => declared, fun _ => ⟨_, run⟩⟩, fun edited ok => ⟨places, firsts, ?_⟩, fun edited others ok same => ?_,
      fun error failed => ?_⟩
    · exact Except.ok.inj (ok.symm.trans run)
    · have plain' : ∀ test ∈ others, PlainName test.toList := fun test member => plain test (same.mem_iff.mpr member)
      rcases skip_tests_ends file others text conventional plain' (same.nodup_iff.mp distinct) with
        ⟨places', firsts', run'⟩ | ⟨earlier, test, later, error, stops, _⟩
      · have equal : ∀ place, place ∈ places ↔ place ∈ places' := fun place => by
          rw [first_places_mem text excluded places firsts, first_places_mem text others places' firsts']
          simp only [same.mem_iff]
        rw [run', ← skips_at_congr places places' equal, ← run, ok]
      · have member : test ∈ others := stops.split ▸ List.mem_append_right earlier List.mem_cons_self
        exact absurd (declared test (same.mem_iff.mpr member)) stops.missing
    · cases run.symm.trans failed
  · have member : test ∈ excluded := stops.split ▸ List.mem_append_right earlier List.mem_cons_self
    refine ⟨⟨?_, fun declared => absurd (declared test member) stops.missing⟩, ?_, ?_, fun error' failed => ?_⟩
    · rintro ⟨edited, ok⟩
      cases run.symm.trans ok
    · intro edited ok
      cases run.symm.trans ok
    · intro edited others ok
      cases run.symm.trans ok
    · cases run.symm.trans failed
      exact ⟨earlier, test, later, stops⟩

def titled : List Char → Bool
  | '(' :: rest =>
      match rest.dropWhile isBlank with
      | quote :: first :: _ => isQuote quote && !leads first
      | _ => false
  | _ => true

theorem conventional_of_titled (text : List Char) (all : text.tails.all titled = true) : Conventional text := by
  intro above rest start
  obtain ⟨more, rfl⟩ := List.head?_eq_some_iff.mp start.bracket
  have here := List.all_eq_true.mp all _ ((List.mem_tails _ _).mpr (start_suffix _ _ _ start))
  have whole := List.takeWhile_append_dropWhile (p := isBlank) (l := more)
  rw [titled] at here
  split at here
  · rename_i quote first after shape
    rw [Bool.and_eq_true, Bool.not_eq_true'] at here
    have blank : ∀ c ∈ more.takeWhile isBlank, isBlank c = true := List.all_eq_true.mp List.all_takeWhile
    refine ⟨more.takeWhile isBlank ++ [quote], first, after, ?_, ⟨_, quote, rfl, blank, here.1⟩, here.2⟩
    rw [shape] at whole
    simpa using whole.symm
  · cases here

theorem sample_exclusions : ∃ edited places, skipTests "a.ts" ["b", "a"] "it('a', f); it( \"b\", f)".toList = .ok edited ∧
    FirstPlaces "it('a', f); it( \"b\", f)".toList ["b", "a"] places ∧
    edited = weave (skipsAt places) "it('a', f); it( \"b\", f)".toList ∧
    edited = "it.skip('a', f); it.skip( \"b\", f)".toList := by
  have conventional : Conventional "it('a', f); it( \"b\", f)".toList := conventional_of_titled _ (by decide)
  have first : PlainName "b".toList := ⟨⟨'b', by decide⟩, by simp [isQuote], by decide, by decide⟩
  have second : PlainName "a".toList := ⟨⟨'a', by decide⟩, by simp [isQuote], by decide, by decide⟩
  have plain : ∀ test ∈ ["b", "a"], PlainName test.toList :=
    List.forall_mem_cons.mpr ⟨first, List.forall_mem_singleton.mpr second⟩
  have run : skipTests "a.ts" ["b", "a"] "it('a', f); it( \"b\", f)".toList =
      .ok "it.skip('a', f); it.skip( \"b\", f)".toList := rfl
  obtain ⟨_, marked, _⟩ := exclusions_mark_first_declarations "a.ts" ["b", "a"] _ conventional plain (by decide)
  obtain ⟨places, firsts, same⟩ := marked _ run
  exact ⟨_, places, run, firsts, same, rfl⟩

end SuiteSync.Adaptation
