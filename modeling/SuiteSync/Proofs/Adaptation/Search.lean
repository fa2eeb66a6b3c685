import SuiteSync.Proofs.Adaptation.Skips

set_option autoImplicit false

namespace SuiteSync.Adaptation

open Text

def seenIn (above below : List Char) (place : Occurrence) : Occurrence :=
  ⟨place.before ++ above, place.after ++ below⟩

theorem occurrences_from_above (pattern inner above : List Char) (n : Nat) (text : List Char) :
    occurrencesFrom pattern (inner ++ above) n text = (occurrencesFrom pattern inner n text).map (seenIn above []) := by
  fun_induction occurrencesFrom pattern inner n text with
  | case1 inner => cases found : strip pattern [] <;> simp [occurrencesFrom, found, seenIn]
  | case2 => rfl
  | case3 inner n c cs ih => exact ih
  | case4 inner c cs after stripped ih => simp [occurrencesFrom, stripped, ← ih, seenIn]
  | case5 inner c cs missing ih => simp [occurrencesFrom, missing, ← ih]

theorem occurrences_from_line (pattern before line back : List Char) (n : Nat) (filled : pattern ≠ [])
    (oneLine : '\n' ∉ pattern) (passed : n ≤ line.length) :
    occurrencesFrom pattern before n (line ++ '\n' :: back) =
      (occurrencesFrom pattern before n line).map (seenIn [] ('\n' :: back)) ++
        occurrencesFrom pattern ('\n' :: (line.reverse ++ before)) 0 back := by
  fun_induction occurrencesFrom pattern before n line with
  | case1 before =>
      cases pattern with
      | nil => exact absurd rfl filled
      | cons p ps =>
          have other : p ≠ '\n' := fun same => oneLine (same ▸ List.mem_cons_self)
          simp [occurrencesFrom, strip, other]
  | case2 => cases passed
  | case3 before n c cs ih => simpa [occurrencesFrom] using ih (Nat.le_of_succ_le_succ passed)
  | case4 before c cs after stripped ih =>
      have whole := (strip_eq_some_iff _ _ _).mp stripped
      have longer : strip pattern (c :: (cs ++ '\n' :: back)) = some (after ++ '\n' :: back) :=
        (strip_eq_some_iff _ _ _).mpr (by rw [← List.cons_append, whole, List.append_assoc])
      have lengths := congrArg List.length whole
      simp only [List.length_cons, List.length_append] at lengths
      simp [occurrencesFrom, longer, ih (by omega), seenIn]
  | case5 before c cs missing ih =>
      have still : strip pattern (c :: (cs ++ '\n' :: back)) = none := by
        cases found : strip pattern (c :: (cs ++ '\n' :: back)) with
        | none => rfl
        | some rest =>
            have starts : pattern <+: (c :: cs) ++ '\n' :: back := ⟨rest, ((strip_eq_some_iff _ _ _).mp found).symm⟩
            obtain ⟨after, same⟩ := (prefix_before_stop _ _ _ _ oneLine).mp starts
            rw [← same, strip_append] at missing
            cases missing
      simpa [occurrencesFrom, still] using ih (Nat.zero_le _)

theorem occurrences_line (pattern line back : List Char) (filled : pattern ≠ []) (oneLine : '\n' ∉ pattern) :
    occurrences pattern (line ++ '\n' :: back) =
      (occurrences pattern line).map (seenIn [] ('\n' :: back)) ++
        (occurrences pattern back).map (seenIn (line ++ ['\n']).reverse []) := by
  have below := occurrences_from_above pattern [] (line ++ ['\n']).reverse 0 back
  rw [occurrences, occurrences_from_line _ _ _ _ _ filled oneLine (Nat.zero_le _), occurrences, occurrences, ← below]
  simp

def declaredRest? (name : List Char) (place : Occurrence) : Option (List Char) :=
  (declaration? place).map fun (_, gap) => '(' :: gap ++ name ++ place.after

def firstRest? (name text : List Char) : Option (List Char) := (occurrences name text).findSome? (declaredRest? name)

def Closed (text : List Char) : Prop :=
  ∃ front stop between, text = front ++ stop :: (between ++ ['\n']) ∧ leads stop = false ∧ stop ≠ '(' ∧ '(' ∉ between

theorem declared_rest_iff (name rest : List Char) (place : Occurrence) :
    declaredRest? name place = some rest ↔ ∃ above gap, place.before.reverse = above ++ testKeyword ++ '(' :: gap ∧
      standsAlone above.reverse = true ∧ gap ≠ [] ∧ (∀ c ∈ gap, leads c = true) ∧
      closesName gap place.after = true ∧ rest = '(' :: gap ++ name ++ place.after := by
  rw [declaredRest?, Option.map_eq_some_iff]
  constructor
  · rintro ⟨⟨above, gap⟩, declared, rfl⟩
    obtain ⟨whole, alone, filled, leading, closed⟩ := (declaration_iff _ _ _).mp declared
    exact ⟨above.reverse, gap, whole, by rwa [List.reverse_reverse], filled, leading, closed, rfl⟩
  · rintro ⟨above, gap, whole, alone, filled, leading, closed, rfl⟩
    refine ⟨(above.reverse, gap), (declaration_iff _ _ _).mpr ⟨?_, alone, filled, leading, closed⟩, rfl⟩
    rwa [List.reverse_reverse]

theorem bracket_below_closed (text part above gap : List Char) (closed : Closed text)
    (split : text ++ part = above ++ testKeyword ++ '(' :: gap) (leading : ∀ c ∈ gap, leads c = true) :
    ∃ inner, above = text ++ inner ∧ part = inner ++ testKeyword ++ '(' :: gap := by
  obtain ⟨front, stop, between, rfl, other, noBracket, free⟩ := closed
  rcases List.append_eq_append_iff.mp split with ⟨more, same, rfl⟩ | ⟨more, same, ending⟩
  · have word : testKeyword <:+ front ++ stop :: between ++ '\n' :: more :=
      ⟨above, by simpa using same⟩
    obtain ⟨inner, rfl⟩ := suffix_after_stop testKeyword _ _ '\n' (by decide) word
    have above : above ++ testKeyword = front ++ stop :: (between ++ ['\n']) ++ inner ++ testKeyword := by simpa using same
    exact ⟨inner, List.append_cancel_right above, rfl⟩
  · cases more with
    | nil =>
        have word : testKeyword <:+ front ++ stop :: between ++ '\n' :: [] := ⟨above, by simpa using same.symm⟩
        exact absurd (suffix_after_stop testKeyword _ _ '\n' (by decide) word).length_le (by decide)
    | cons d more =>
        obtain ⟨rfl, rfl⟩ := List.cons.inj ending
        -- A bracket of the text has the stop after it, and what leads to a name does not hold that.
        rcases List.append_eq_append_iff.mp same with ⟨rest, _, tail⟩ | ⟨rest, _, tail⟩
        · have bracket : '(' ∈ stop :: (between ++ ['\n']) := tail ▸ List.mem_append_right rest List.mem_cons_self
          simp [noBracket.symm, free] at bracket
        · cases rest with
          | nil => exact absurd (List.cons.inj tail).1.symm noBracket
          | cons e rest =>
              obtain ⟨rfl, rfl⟩ := List.cons.inj tail
              have within := leading stop (by simp)
              rw [other] at within
              cases within

theorem alone_below_feed (above inner : List Char) :
    standsAlone (above ++ '\n' :: inner).reverse = standsAlone inner.reverse := by
  rcases List.eq_nil_or_concat inner with rfl | ⟨more, last, rfl⟩
  · rw [List.reverse_append]
    rfl
  · simp

theorem declared_rest_above (name above : List Char) (place : Occurrence) (closed : Closed above) :
    declaredRest? name (seenIn above.reverse [] place) = declaredRest? name place := by
  have feed : ∀ inner, standsAlone (above ++ inner).reverse = standsAlone inner.reverse := by
    obtain ⟨front, stop, between, rfl, _⟩ := closed
    intro inner
    rw [← List.cons_append, ← List.append_assoc, List.append_assoc _ ['\n'], List.singleton_append, alone_below_feed]
  refine Option.ext fun rest => ?_
  simp only [declared_rest_iff, seenIn, List.reverse_append, List.reverse_reverse, List.append_nil]
  constructor
  · rintro ⟨front, gap, whole, alone, filled, leading, same⟩
    obtain ⟨inner, rfl, part⟩ := bracket_below_closed _ _ _ _ closed whole leading
    exact ⟨inner, gap, part, feed inner ▸ alone, filled, leading, same⟩
  · rintro ⟨inner, gap, part, alone, filled, leading, same⟩
    refine ⟨above ++ inner, gap, ?_, (feed inner).trans alone, filled, leading, same⟩
    rw [part]
    simp only [List.append_assoc]

theorem declared_rest_goes_on (name below : List Char) (c : Char) (place : Occurrence) :
    declaredRest? name (seenIn [] (c :: below) place) =
      (declaredRest? name (seenIn [] [c] place)).map (· ++ below) := by
  have same : declaration? (seenIn [] (c :: below) place) = declaration? (seenIn [] [c] place) := by
    refine Option.ext fun found => ?_
    obtain ⟨above, gap⟩ := found
    have closes : closesName gap (place.after ++ c :: below) = closesName gap (place.after ++ [c]) := by
      cases place.after <;> rfl
    simp only [declaration_iff, seenIn, closes]
  rw [declaredRest?, declaredRest?, same, Option.map_map]
  simp [seenIn, Function.comp_def]

theorem first_rest_closed (name front back : List Char) (filled : name ≠ []) (oneLine : '\n' ∉ name)
    (closed : Closed front) :
    firstRest? name (front ++ back) = ((firstRest? name front).map (· ++ back)).or (firstRest? name back) := by
  have ⟨start, stop, between, same, _⟩ := closed
  have whole : front = (start ++ stop :: between) ++ ['\n'] := by simp [same]
  generalize start ++ stop :: between = line at whole
  have empty : occurrences name [] = [] := by
    cases name with
    | nil => exact absurd rfl filled
    | cons c more => rfl
  have inner := occurrences_line name line [] filled oneLine
  rw [empty, List.map_nil, List.append_nil, ← whole] at inner
  have outer := occurrences_line name line back filled oneLine
  rw [List.append_cons, ← whole] at outer
  have first : declaredRest? name ∘ seenIn [] ('\n' :: back) =
      Option.map (· ++ back) ∘ declaredRest? name ∘ seenIn [] ['\n'] :=
    funext (declared_rest_goes_on name back '\n')
  have second : declaredRest? name ∘ seenIn front.reverse [] = declaredRest? name :=
    funext fun place => declared_rest_above name front place closed
  rw [firstRest?, firstRest?, firstRest?, outer, inner, List.findSome?_append, List.findSome?_map, List.findSome?_map,
    List.findSome?_map, first, second, List.map_findSome?]

theorem first_rest_nameless (name text : List Char) (nameless : Nameless text) : firstRest? name text = none := by
  refine List.findSome?_eq_none_iff.mpr fun place member => Option.eq_none_iff_forall_not_mem.mpr fun rest declared => ?_
  obtain ⟨above, gap, front, _, filled, leading, _⟩ := (declared_rest_iff _ _ _).mp declared
  obtain ⟨c, more, rfl⟩ := List.exists_cons_of_ne_nil filled
  have whole := occurrences_from_join _ _ _ _ _ member
  rw [List.reverse_nil, List.nil_append, front] at whole
  obtain ⟨d, after, same, other⟩ := nameless_after text (above ++ testKeyword) (c :: more ++ name ++ place.after) nameless
    (by simpa using whole)
  cases (List.cons.inj same).1
  rw [leading c List.mem_cons_self] at other
  cases other

theorem first_rest_test (name text rest : List Char) (found : firstRest? name text = some rest) :
    ∃ above d more, TestStart text above rest ∧ rest = '(' :: d :: more ∧ leads d = true := by
  obtain ⟨place, member, declared⟩ := List.exists_of_findSome?_eq_some found
  obtain ⟨above, gap, front, alone, filled, leading, _, rfl⟩ := (declared_rest_iff _ _ _).mp declared
  obtain ⟨d, more, rfl⟩ := List.exists_cons_of_ne_nil filled
  have whole := occurrences_from_join _ _ _ _ _ member
  rw [List.reverse_nil, List.nil_append, front] at whole
  exact ⟨above, d, _, ⟨by simpa using whole, rfl, alone⟩, rfl, leading d List.mem_cons_self⟩

def Walled (text : List Char) (extra : List Char → List Char) : Prop :=
  ∀ front rest, text = front ++ rest → front ≠ [] → extra rest ≠ [] →
    bodyOpening <:+ front ∧ Closed (extra rest) ∧ Nameless (extra rest)

theorem first_insertion (extra : List Char → List Char) (text : List Char) :
    (∀ rest, rest.length < text.length → rest <:+ text → extra rest = []) ∨
    ∃ front rest, text = front ++ rest ∧ front ≠ [] ∧ extra rest ≠ [] ∧
      ∀ more, more ≠ [] → more.length < front.length → more <:+ front → extra (more ++ rest) = [] := by
  induction text with
  | nil => exact .inl fun rest short _ => absurd short (Nat.not_lt_zero _)
  | cons c text ih =>
      by_cases here : extra text = []
      · rcases ih with plain | ⟨front, rest, rfl, filled, inserted, plain⟩
        · refine .inl fun rest short ending => ?_
          rcases List.suffix_cons_iff.mp ending with rfl | ending
          · exact absurd short (Nat.lt_irrefl _)
          · rcases Nat.lt_or_ge rest.length text.length with shorter | long
            · exact plain rest shorter ending
            · rw [ending.eq_of_length (Nat.le_antisymm ending.length_le long), here]
        · refine .inr ⟨c :: front, rest, rfl, List.cons_ne_nil _ _, inserted, fun more some short ending => ?_⟩
          rcases List.suffix_cons_iff.mp ending with rfl | ending
          · exact absurd short (Nat.lt_irrefl _)
          · rcases Nat.lt_or_ge more.length front.length with shorter | long
            · exact plain more some shorter ending
            · rw [ending.eq_of_length (Nat.le_antisymm ending.length_le long), here]
      · refine .inr ⟨[c], text, rfl, List.cons_ne_nil _ _, here, fun more some short _ => ?_⟩
        exact absurd (List.length_eq_zero_iff.mp (Nat.lt_one_iff.mp short)) some

theorem walled_rest (front rest : List Char) (extra : List Char → List Char) (walled : Walled (front ++ rest) extra)
    (opening : bodyOpening <:+ front) : Walled rest extra := by
  intro middle last split filled inserted
  obtain ⟨ending, sound⟩ := walled (front ++ middle) last (by rw [split, List.append_assoc]) (by simp [filled]) inserted
  refine ⟨?_, sound⟩
  rcases Nat.lt_or_ge middle.length bodyOpening.length with short | long
  · obtain ⟨c, rfl⟩ := List.length_eq_one_iff.mp (Nat.le_antisymm (Nat.le_of_lt_succ short) (List.length_pos_iff.mpr filled))
    obtain ⟨above, rfl⟩ := opening
    obtain ⟨above', same⟩ := ending
    rw [opening_chars, opening_chars] at same
    have brace := (List.append_inj' (List.append_inj' same rfl).1 rfl).2
    exact absurd brace (by decide)
  · exact List.suffix_of_suffix_length_le ending (List.suffix_append front middle) long

theorem opening_closed (front : List Char) (opening : bodyOpening <:+ front) : Closed front := by
  obtain ⟨above, rfl⟩ := opening
  exact ⟨above, '\x7b', [], rfl, by decide, by decide, List.not_mem_nil⟩

theorem first_rest_suffix (name text rest : List Char) (found : firstRest? name text = some rest) :
    rest <:+ text ∧ rest.length < text.length ∧ rest ≠ [] := by
  obtain ⟨above, d, more, start, rfl, _⟩ := first_rest_test name text rest found
  have lengths := congrArg List.length start.split
  have word : testKeyword.length = 2 := rfl
  rw [List.length_append, List.length_append] at lengths
  exact ⟨⟨above ++ testKeyword, start.split.symm⟩, by omega, List.cons_ne_nil _ _⟩

theorem first_rest_weave (name text : List Char) (extra : List Char → List Char) (filled : name ≠ [])
    (oneLine : '\n' ∉ name) (walled : Walled text extra) :
    firstRest? name (weave extra text) = (firstRest? name text).map (weave extra) := by
  rcases first_insertion extra text with plain | ⟨front, rest, rfl, some, inserted, plain⟩
  · rw [weave_plain extra text plain]
    cases found : firstRest? name text with
    | none => rfl
    | some rest =>
        obtain ⟨ending, _, _⟩ := first_rest_suffix name text rest found
        have same := weave_plain extra rest fun more short within =>
          plain more (Nat.lt_of_lt_of_le short ending.length_le) (within.trans ending)
        rw [Option.map_some, same]
  · obtain ⟨opening, closed, nameless⟩ := walled front rest rfl some inserted
    have above := opening_closed front opening
    have shorter : rest.length < (front ++ rest).length := by
      have := List.length_pos_iff.mpr some
      rw [List.length_append]
      omega
    have later := first_rest_weave name rest extra filled oneLine (walled_rest front rest extra walled opening)
    rw [weave_front extra front rest some plain, first_rest_closed name front _ filled oneLine above,
      first_rest_closed name front rest filled oneLine above, first_rest_closed name _ _ filled oneLine closed,
      first_rest_nameless name _ nameless, Option.map_none, Option.none_or, later, Option.map_or, Option.map_map]
    cases found : firstRest? name front with
    | none => rfl
    | some inner =>
        obtain ⟨ending, _, named⟩ := first_rest_suffix name front inner found
        have same := weave_front extra inner rest named fun more some short within =>
          plain more some (Nat.lt_of_lt_of_le short ending.length_le) (within.trans ending)
        rw [Option.map_some, Option.map_some, Function.comp_apply, same]
termination_by text.length

end SuiteSync.Adaptation
