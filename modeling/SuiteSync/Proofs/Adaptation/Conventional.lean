import SuiteSync.Proofs.Adaptation.Cuts
import SuiteSync.Proofs.Adaptation.Declarations

set_option autoImplicit false

namespace SuiteSync.Adaptation

open Text

def testCall : List Char := testKeyword ++ ['(']

def skipCall : List Char := skipMark ++ ['(']

-- Every test that stands alone goes on with blanks, a quote and a character that is neither.
def Conventional (text : List Char) : Prop :=
  ∀ above rest, TestStart text above rest → ∃ gap first after, rest = '(' :: gap ++ first :: after ∧ Opens gap ∧
    leads first = false

structure PlainName (name : List Char) : Prop where
  visible : ∃ c ∈ name, isBlank c = false
  unquoted : ∀ c ∈ name, isQuote c = false
  callless : ¬ testCall <:+: name
  skipless : ¬ skipCall <:+: name

def Declared (text name : List Char) : Prop := ∃ above rest, TestStart text above rest ∧ Declares name rest

structure FirstDeclaration (text name above rest : List Char) : Prop where
  start : TestStart text above rest
  declares : Declares name rest
  first : ∀ above' rest', TestStart text above' rest' → Declares name rest' → rest'.length ≤ rest.length

theorem declares_iff (name rest : List Char) :
    Declares name rest ↔ ∃ gap after, rest = '(' :: gap ++ name ++ after ∧ Opens gap ∧ closesName gap after = true := by
  constructor
  · rintro ⟨blanks, quote, after, rfl, blank, isQuote⟩
    refine ⟨blanks ++ [quote], quote :: after, by simp, ⟨blanks, quote, rfl, blank, isQuote⟩, ?_⟩
    exact (closed_by_quote _ _ _ isQuote).mpr ⟨after, rfl⟩
  · rintro ⟨gap, after, rfl, opens, closed⟩
    exact declares_of_opens name gap after opens closed

theorem name_shows (name : List Char) (plain : PlainName name) :
    ∃ front c back, name = front ++ c :: back ∧ (∀ d ∈ front, leads d = true) ∧ leads c = false := by
  obtain ⟨c, member, shown⟩ := plain.visible
  have other : (!leads c) = true := by simp [leads, shown, plain.unquoted c member]
  have shows : (name.find? fun d => !leads d).isSome = true := List.find?_isSome.mpr ⟨c, member, other⟩
  obtain ⟨first, found⟩ := Option.isSome_iff_exists.mp shows
  obtain ⟨visible, front, back, same, leading⟩ := List.find?_eq_some_iff_append.mp found
  exact ⟨front, first, back, same, fun d inFront => by simpa using leading d inFront, by simpa using visible⟩

theorem opens_of_hit (name text edited above gap after : List Char) (conventional : Conventional text)
    (plain : PlainName name) (hit : SkipHit name text edited above gap after) : Opens gap := by
  obtain ⟨gap', first, rest, same, opens, visible⟩ := conventional above _ hit.start
  obtain ⟨front, c, back, shape, leading, shown⟩ := name_shows name plain
  have long : ∀ d ∈ gap ++ front, leads d = true := by
    intro d member
    rcases List.mem_append.mp member with inGap | inFront
    · exact hit.leading d inGap
    · exact leading d inFront
  have aligned : (gap ++ front) ++ c :: (back ++ after) = gap' ++ first :: rest := by
    simpa [shape] using same
  have whole := (front_unique leads _ _ _ _ _ _ long (opens_leading gap' opens) shown visible aligned).1
  rcases List.eq_nil_or_concat front with rfl | ⟨more, last, rfl⟩
  · rw [List.append_nil] at whole
    exact whole ▸ opens
  · obtain ⟨blanks, quote, rfl, _, isQuote⟩ := opens
    rw [List.concat_eq_append, ← List.append_assoc] at whole
    cases (List.append_inj' whole rfl).2
    have unquoted := plain.unquoted last (shape ▸ by simp)
    rw [isQuote] at unquoted
    cases unquoted

theorem declared_unlapped (name front back : List Char) (quote : Char) (unquoted : quote ∉ name) :
    Unlapped name (front ++ quote :: back) (front.length + 1) := by
  intro front' back' same less
  refine Nat.le_of_not_lt fun beyond => unquoted ?_
  exact char_within front' name back' front back quote same.symm (by omega) (by omega)

theorem declaration_found (name text above rest : List Char) (start : TestStart text above rest)
    (declares : Declares name rest) (plain : PlainName name) :
    ∃ gap after, Opens gap ∧ rest = '(' :: gap ++ name ++ after ∧
      ⟨(above ++ testKeyword ++ '(' :: gap).reverse, after⟩ ∈ occurrences name text ∧
      declaration? ⟨(above ++ testKeyword ++ '(' :: gap).reverse, after⟩ = some (above.reverse, gap) := by
  obtain ⟨gap, after, rfl, opens, closed⟩ := (declares_iff _ _).mp declares
  obtain ⟨blanks, quote, rfl, _, isQuote⟩ := id opens
  have filled : name ≠ [] := by
    rintro rfl
    obtain ⟨c, member, _⟩ := plain.visible
    cases member
  have unquoted : quote ∉ name := fun member => by
    have other := plain.unquoted quote member
    rw [isQuote] at other
    cases other
  have whole : text = (above ++ testKeyword ++ '(' :: blanks) ++ quote :: (name ++ after) := by
    rw [start.split]
    simp
  have unlapped := declared_unlapped name (above ++ testKeyword ++ '(' :: blanks) (name ++ after) quote unquoted
  refine ⟨blanks ++ [quote], after, opens, rfl, ?_, ?_⟩
  · have found := occurrences_from_found name [] text (above ++ testKeyword ++ '(' :: (blanks ++ [quote])) after 0 filled
      (by simp [whole]) (Nat.zero_le _)
    rw [List.append_nil] at found
    refine found ?_
    rw [whole]
    simpa [Nat.add_assoc] using unlapped
  · refine (declaration_iff _ _ _).mpr ⟨by simp, start.alone, by simp, opens_leading _ opens, closed⟩

theorem later_place_later_start (text above above' gap gap' after after' : List Char)
    (first : text = above ++ testKeyword ++ '(' :: gap ++ after) (second : text = above' ++ testKeyword ++ '(' :: gap' ++ after')
    (leading : ∀ c ∈ gap', leads c = true)
    (ordered : (above ++ testKeyword ++ '(' :: gap).length ≤ (above' ++ testKeyword ++ '(' :: gap').length) :
    above.length ≤ above'.length := by
  refine Nat.le_of_not_lt fun below => ?_
  have inside : 'i' ∈ 't' :: '(' :: gap' := by
    refine char_within (above' ++ ['i']) ('t' :: '(' :: gap') after' above ('t' :: '(' :: gap ++ after) 'i' ?_ ?_ ?_
    · simpa [testKeyword] using second.symm.trans first
    · rw [List.length_append, List.length_singleton]
      exact below
    · have keyword : testKeyword.length = 2 := rfl
      simp only [List.length_append, List.length_cons, keyword] at ordered ⊢
      omega
  have member : 'i' ∈ gap' := by simpa using inside
  exact absurd (leading 'i' member) (by decide)

theorem start_length (text above rest : List Char) (start : TestStart text above rest) :
    text.length = above.length + 2 + rest.length := by
  have lengths := congrArg List.length start.split
  rw [List.length_append, List.length_append] at lengths
  exact lengths

theorem skip_finds_first (file test : String) (text edited : List Char) (conventional : Conventional text)
    (plain : PlainName test.toList) (run : skipTest file test text = .ok edited) :
    ∃ above rest, FirstDeclaration text test.toList above rest ∧
      edited = above ++ testKeyword ++ skipMark ++ rest := by
  obtain ⟨earlier, place, later, split, skipped, passed⟩ :=
    List.findSome?_eq_some_iff.mp ((skip_test_ok_iff _ _ _ _).mp run)
  have member : place ∈ occurrences test.toList text := split ▸ List.mem_append_right earlier List.mem_cons_self
  obtain ⟨above, gap, declared, hit⟩ := skip_at_hit _ _ _ place member skipped
  have opens := opens_of_hit _ _ _ _ _ _ conventional plain hit
  refine ⟨above, _, ⟨hit.start, declares_of_opens _ _ _ opens hit.closed, fun above' rest' start' declares' => ?_⟩,
    hit.marked⟩
  obtain ⟨gap', after', opens', rfl, member', declared'⟩ := declaration_found _ _ _ _ start' declares' plain
  have ascending := occurrences_from_ascending test.toList [] text 0
  rw [← occurrences, split, List.pairwise_append, List.pairwise_cons] at ascending
  have ordered : place.before.length ≤ (above' ++ testKeyword ++ '(' :: gap').reverse.length := by
    rw [split] at member'
    rcases List.mem_append.mp member' with before | here
    · have refused := passed _ before
      rw [skipAt?, declared'] at refused
      cases refused
    · rcases List.mem_cons.mp here with same | after
      · exact Nat.le_of_eq (congrArg (·.before.length) same.symm)
      · exact Nat.le_of_lt (ascending.2.1.1 _ after)
  have front := ((declaration_iff _ _ _).mp declared).1
  rw [List.reverse_reverse] at front
  rw [List.length_reverse, ← List.length_reverse, front] at ordered
  have start := later_place_later_start text above above' gap gap' (test.toList ++ place.after) (test.toList ++ after')
    (by simpa using hit.start.split) (by simpa using start'.split) (opens_leading _ opens') ordered
  have long := start_length _ _ _ hit.start
  have long' := start_length _ _ _ start'
  omega

theorem skip_succeeds (file test : String) (text : List Char) (plain : PlainName test.toList)
    (declared : Declared text test.toList) : ∃ edited, skipTest file test text = .ok edited := by
  obtain ⟨above, rest, start, declares⟩ := declared
  obtain ⟨gap, after, _, _, member, found⟩ := declaration_found _ _ _ _ start declares plain
  cases run : (occurrences test.toList text).findSome? (skipAt? test.toList) with
  | some edited => exact ⟨edited, (skip_test_ok_iff _ _ _ _).mpr run⟩
  | none =>
      have refused := List.findSome?_eq_none_iff.mp run _ member
      rw [skipAt?, found] at refused
      cases refused

end SuiteSync.Adaptation
