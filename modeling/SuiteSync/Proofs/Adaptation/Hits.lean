import SuiteSync.Adaptation.Exclusions

set_option autoImplicit false

namespace SuiteSync.Adaptation

open Text

structure TestStart (text above rest : List Char) : Prop where
  split : text = above ++ testKeyword ++ rest
  bracket : rest.head? = some '('
  alone : standsAlone above.reverse = true

def leads (c : Char) : Bool := isBlank c || isQuote c

structure SkipHit (name text edited above gap after : List Char) : Prop where
  start : TestStart text above ('(' :: gap ++ name ++ after)
  marked : edited = above ++ testKeyword ++ skipMark ++ ('(' :: gap ++ name ++ after)
  filled : gap ≠ []
  leading : ∀ c ∈ gap, leads c = true
  closed : closesName gap after = true

theorem nearest_test_spec (before gap above between : List Char) (found : nearestTest? before gap = some (above, between)) :
    before.reverse ++ gap = above.reverse ++ testKeyword ++ '(' :: between ∧ standsAlone above = true := by
  fun_induction nearestTest? before gap with
  | case1 => cases found
  | case2 above' gap alone =>
      cases found
      have keyword : testKeyword = ['i', 't'] := rfl
      simp [keyword, alone]
  | case3 above' gap joined ih => simpa using ih found
  | case4 c above' gap other ih => simpa using ih found

theorem nearest_test_found (back above acc : List Char) (leading : ∀ c ∈ back, leads c = true)
    (alone : standsAlone above = true) :
    nearestTest? (back ++ '(' :: 't' :: 'i' :: above) acc = some (above, back.reverse ++ acc) := by
  induction back generalizing acc with
  | nil => simp [nearestTest?, alone]
  | cons c more ih =>
      have other : c ≠ '(' := by
        rintro rfl
        exact absurd (leading '(' List.mem_cons_self) (by decide)
      have further := ih (c :: acc) fun d member => leading d (List.mem_cons_of_mem c member)
      rw [List.cons_append, nearestTest?, further, List.reverse_cons, List.append_assoc, List.singleton_append]
      exact fun _ same _ => other same

theorem leads_to_name_iff (gap : List Char) : leadsToName gap = true ↔ gap ≠ [] ∧ ∀ c ∈ gap, leads c = true := by
  simp [leadsToName, leads]

theorem declaration_iff (place : Occurrence) (above gap : List Char) :
    declaration? place = some (above, gap) ↔
      place.before.reverse = above.reverse ++ testKeyword ++ '(' :: gap ∧ standsAlone above = true ∧ gap ≠ [] ∧
        (∀ c ∈ gap, leads c = true) ∧ closesName gap place.after = true := by
  constructor
  · intro declared
    rw [declaration?] at declared
    split at declared
    · cases declared
    · rename_i above' gap' nearest
      split at declared
      · rename_i fits
        cases declared
        rw [Bool.and_eq_true] at fits
        obtain ⟨whole, alone⟩ := nearest_test_spec _ _ _ _ nearest
        rw [List.append_nil] at whole
        obtain ⟨filled, leading⟩ := (leads_to_name_iff _).mp fits.1
        exact ⟨whole, alone, filled, leading, fits.2⟩
      · cases declared
  · rintro ⟨whole, alone, filled, leading, closed⟩
    have before : place.before = gap.reverse ++ '(' :: 't' :: 'i' :: above := by
      rw [← List.reverse_reverse place.before, whole]
      simp [testKeyword]
    have nearest := nearest_test_found gap.reverse above [] (by simpa using leading) alone
    rw [List.reverse_reverse, List.append_nil] at nearest
    rw [declaration?, before, nearest]
    exact if_pos (Bool.and_eq_true _ _ ▸ ⟨(leads_to_name_iff gap).mpr ⟨filled, leading⟩, closed⟩)

theorem skip_test_ok_iff (file test : String) (text edited : List Char) :
    skipTest file test text = .ok edited ↔
      (occurrences test.toList text).findSome? (skipAt? test.toList) = some edited := by
  rw [skipTest]
  cases occurrences test.toList text with
  | nil => simp
  | cons place more =>
      simp only
      cases (place :: more).findSome? (skipAt? test.toList) <;> simp

theorem skip_at_hit (name text edited : List Char) (place : Occurrence) (member : place ∈ occurrences name text)
    (skipped : skipAt? name place = some edited) :
    ∃ above gap, declaration? place = some (above.reverse, gap) ∧ SkipHit name text edited above gap place.after := by
  obtain ⟨⟨above, gap⟩, declared, same⟩ := Option.map_eq_some_iff.mp skipped
  obtain ⟨whole, alone, filled, leading, closed⟩ := (declaration_iff _ _ _).mp declared
  have joined := occurrences_from_join _ _ _ _ _ member
  rw [List.reverse_nil, List.nil_append, whole] at joined
  refine ⟨above.reverse, gap, by rw [List.reverse_reverse, declared], ⟨?_, rfl, ?_⟩, ?_, filled, leading, closed⟩
  · rw [joined]
    simp only [List.append_assoc, List.cons_append]
  · rw [List.reverse_reverse, alone]
  · rw [← same]
    simp only [List.append_assoc, List.cons_append]

theorem skip_test_hit (file test : String) (text edited : List Char) (run : skipTest file test text = .ok edited) :
    ∃ above gap after, SkipHit test.toList text edited above gap after := by
  have found := (skip_test_ok_iff _ _ _ _).mp run
  obtain ⟨place, member, skipped⟩ := List.exists_of_findSome?_eq_some found
  obtain ⟨above, gap, _, hit⟩ := skip_at_hit _ _ _ place member skipped
  exact ⟨above, gap, place.after, hit⟩

end SuiteSync.Adaptation
