import SuiteSync.Proofs.Adaptation.Imports
import SuiteSync.Proofs.Text.Replace

set_option autoImplicit false

namespace SuiteSync

open Text Adaptation

namespace Adaptation

theorem normalize_apart (package front back : List Char)
    (own : ∀ rest, rest ≠ [] → rest <:+ front → parentClause? (rest ++ back) = parentClause? rest) :
    normalizeImports package (front ++ back) = normalizeImports package front ++ normalizeImports package back := by
  refine substitute_apart _ 0 front back (Nat.zero_le _) rfl (fun rest filled ending => ?_) fun rest new size found => ?_
  · rw [own rest filled ending]
  · obtain ⟨⟨mark, length⟩, read, made⟩ := Option.map_eq_some_iff.mp found
    cases made
    obtain ⟨_, path, after, _, rfl, rfl⟩ := parent_clause_found rest mark size read
    exact ⟨by simp, by simp⟩

theorem normalize_plain (package front back : List Char)
    (plain : ∀ rest, rest ≠ [] → rest <:+ front → parentClause? (rest ++ back) = none) :
    normalizeImports package (front ++ back) = front ++ normalizeImports package back := by
  refine substitute_plain _ front back fun rest filled ending => ?_
  rw [plain rest filled ending]
  rfl

theorem parent_clause_before_letter (front back : List Char) (filled : front ≠ []) :
    parentClause? (front ++ 'f' :: back) = parentClause? front := by
  refine Option.ext fun (mark, size) => ⟨fun found => ?_, fun found => ?_⟩
  · obtain ⟨marks, path, after, parent, same, rfl⟩ := parent_clause_found _ mark size found
    obtain ⟨c, more, rfl⟩ := List.exists_cons_of_ne_nil filled
    rw [clause_letters] at same
    -- The letter of the text is not the first one of the clause, so the clause ends before it.
    obtain ⟨rfl, rest⟩ := List.cons.inj same
    obtain ⟨after, rfl⟩ := (prefix_before_stop _ _ _ _ (parent_clause_letter mark path marks parent)).mp ⟨after, rest.symm⟩
    rw [← List.cons_append, ← clause_letters, parent_clause_read mark path after marks parent]
  · obtain ⟨marks, path, after, parent, rfl, rfl⟩ := parent_clause_found _ mark size found
    rw [List.append_assoc, parent_clause_read mark path _ marks parent]

theorem keyword_unmarked : Unmarked fromKeyword := by decide

theorem unmarked_up_to (front front' back back' : List Char) (mark mark' : Char) (clear : Unmarked front)
    (clear' : Unmarked front') (marks : isSpecifierMark mark = true) (marks' : isSpecifierMark mark' = true)
    (same : front ++ mark :: back = front' ++ mark' :: back') : front = front' ∧ mark :: back = mark' :: back' :=
  front_unique (fun c => !isSpecifierMark c) front front' back back' mark mark' (by simpa [Unmarked] using clear)
    (by simpa [Unmarked] using clear') (by simp [marks]) (by simp [marks']) same

theorem suffix_of_clause (mark : Char) (specifier rest : List Char) (ending : rest <:+ fromKeyword ++ mark :: specifier) :
    rest = fromKeyword ++ mark :: specifier ∨
      (∃ c more, rest = c :: more ∧ c ∈ ['r', 'o', 'm', ' ', mark]) ∨ rest <:+ specifier := by
  have letters : fromKeyword = 'f' :: ['r', 'o', 'm', ' '] := by decide
  rw [letters] at ending ⊢
  obtain ⟨front, split⟩ := ending
  cases front with
  | nil => exact .inl split
  | cons c front =>
      rw [List.append_cons ['f', 'r', 'o', 'm', ' '], List.cons_append, List.cons_append] at split
      rcases List.append_eq_append_iff.mp (List.cons.inj split).2 with ⟨more, same, tail⟩ | ⟨more, same, tail⟩
      · cases more with
        | nil => exact .inr (.inr (tail ▸ List.suffix_rfl))
        | cons d more =>
            refine .inr (.inl ⟨d, more ++ specifier, tail, ?_⟩)
            have member : d ∈ front ++ d :: more := List.mem_append_right front List.mem_cons_self
            simpa [← same] using member
      · exact .inr (.inr ⟨more, tail.symm⟩)

theorem parent_clause_within (mark : Char) (specifier back rest : List Char) (marks : isSpecifierMark mark = true)
    (clear : Unmarked specifier) (other : ∀ path, (∀ c ∈ path, isParentPath c = true) → specifier ≠ '.' :: '.' :: path)
    (ending : rest <:+ fromKeyword ++ mark :: specifier) (found : parentClause? (rest ++ mark :: back) ≠ none) :
    rest = fromKeyword ∧ rest <:+ specifier := by
  obtain ⟨⟨mark', size⟩, read⟩ := Option.ne_none_iff_exists'.mp found
  obtain ⟨marks', path, after, parent, same, rfl⟩ := parent_clause_found _ _ _ read
  have path' := parent_path_unmarked path parent
  have whole : rest ++ mark :: back = fromKeyword ++ mark' :: ('.' :: '.' :: path ++ mark' :: after) := by
    simpa [clause] using same
  rcases suffix_of_clause mark specifier rest ending with rfl | ⟨c, more, rfl, first⟩ | inside
  · rw [List.append_assoc, List.cons_append] at whole
    obtain ⟨rfl, specifiers⟩ := List.cons.inj (List.append_cancel_left whole)
    exact absurd (unmarked_up_to _ _ _ _ mark mark clear path' marks marks specifiers).1 (other path parent)
  · have letters : fromKeyword = 'f' :: ['r', 'o', 'm', ' '] := by decide
    rw [letters] at whole
    obtain ⟨rfl, _⟩ := List.cons.inj whole
    simp at first
    subst first
    exact absurd marks (by decide)
  · have within : Unmarked rest := fun c member => clear c (inside.subset member)
    exact ⟨(unmarked_up_to _ _ _ _ mark mark' within keyword_unmarked marks marks' whole).1, inside⟩

theorem parent_normalized (package path after : List Char) (mark : Char) (marks : isSpecifierMark mark = true)
    (parent : ∀ c ∈ path, isParentPath c = true) :
    normalizeImports package (clause mark ('.' :: '.' :: path) ++ after) =
      clause mark package ++ normalizeImports package after := by
  refine substitute_found _ _ after (clause mark package) (by simp [clause]) ?_
  rw [parent_clause_read mark path after marks parent]
  rfl

theorem clause_before_parent (package inner back : List Char) (mark : Char) (marks : isSpecifierMark mark = true)
    (clear : Unmarked (inner ++ fromKeyword))
    (other : ∀ path, (∀ c ∈ path, isParentPath c = true) → inner ++ fromKeyword ≠ '.' :: '.' :: path)
    (found : parentClause? (fromKeyword ++ mark :: back) ≠ none) :
    ∃ tail, normalizeImports package (clause mark (inner ++ fromKeyword) ++ back) =
      clause mark (inner ++ fromKeyword) ++ tail := by
  obtain ⟨⟨mark', size⟩, read⟩ := Option.ne_none_iff_exists'.mp found
  obtain ⟨_, path, after, parent, same, _⟩ := parent_clause_found _ _ _ read
  obtain rfl : mark = mark' := by
    rw [clause, List.append_assoc, List.append_assoc] at same
    exact (List.cons.inj (List.append_cancel_left same)).1
  have plain : ∀ rest, rest ≠ [] → rest <:+ fromKeyword ++ mark :: inner →
      parentClause? (rest ++ (fromKeyword ++ mark :: back)) = none := by
    rintro rest filled ⟨earlier, shape⟩
    refine Classical.byContradiction fun nested => ?_
    rw [← List.append_assoc] at nested
    have longer : rest ++ fromKeyword <:+ fromKeyword ++ mark :: (inner ++ fromKeyword) :=
      ⟨earlier, by rw [← List.append_assoc, shape, List.append_assoc, List.cons_append]⟩
    obtain ⟨whole, _⟩ := parent_clause_within mark _ back _ marks clear other longer nested
    exact filled (List.append_left_eq_self.mp whole)
  have whole : ∀ tail, clause mark (inner ++ fromKeyword) ++ tail =
      (fromKeyword ++ mark :: inner) ++ (fromKeyword ++ mark :: tail) := by
    simp [clause]
  refine ⟨package ++ mark :: normalizeImports package after, ?_⟩
  rw [whole, whole, normalize_plain package _ _ plain, same, parent_normalized package path after mark marks parent, clause]
  simp only [List.append_assoc, List.cons_append, List.nil_append]

theorem clause_normalized (package specifier back : List Char) (mark : Char) (marks : isSpecifierMark mark = true)
    (clear : Unmarked specifier) (other : ∀ path, (∀ c ∈ path, isParentPath c = true) → specifier ≠ '.' :: '.' :: path) :
    ∃ tail, normalizeImports package (clause mark specifier ++ back) = clause mark specifier ++ tail := by
  by_cases nested : ∃ rest, rest <:+ fromKeyword ++ mark :: specifier ∧ parentClause? (rest ++ mark :: back) ≠ none
  · obtain ⟨rest, ending, found⟩ := nested
    obtain ⟨rfl, inner, rfl⟩ := parent_clause_within mark specifier back rest marks clear other ending found
    exact clause_before_parent package inner back mark marks clear other found
  · have none : ∀ rest, rest <:+ fromKeyword ++ mark :: specifier → parentClause? (rest ++ mark :: back) = none :=
      fun rest ending => Classical.byContradiction fun found => nested ⟨rest, ending, found⟩
    have whole : ∀ tail, clause mark specifier ++ tail = (fromKeyword ++ mark :: specifier) ++ mark :: tail := by
      simp [clause]
    have last : normalizeImports package (mark :: back) = mark :: normalizeImports package back :=
      normalize_plain package [mark] back fun rest filled ending => by
        obtain rfl := (List.suffix_cons_iff.mp ending).resolve_right fun empty => filled (List.suffix_nil.mp empty)
        exact none [] List.nil_suffix
    refine ⟨normalizeImports package back, ?_⟩
    rw [whole, whole, normalize_plain package _ _ fun rest _ ending => none rest ending, last]

theorem unmarked_ending (package text part : List Char) (clear : Unmarked part)
    (ending : part <:+ normalizeImports package text) : part <:+ text := by
  refine substitute_ending _ 0 text part (fun c => !isSpecifierMark c) (fun rest new size found => ?_)
    (by simpa [Unmarked] using clear) ending
  obtain ⟨⟨mark, length⟩, read, made⟩ := Option.map_eq_some_iff.mp found
  cases made
  exact ⟨fromKeyword ++ mark :: package, mark, rfl, by simp [(parent_clause_found rest mark size read).1]⟩

theorem suffix_of_front (part front front' back : List Char) (ending : part <:+ front ++ back)
    (kept : ∀ more, more <+: part → more <:+ front → more <:+ front') : part <:+ front' ++ back := by
  rcases Nat.le_total part.length back.length with short | long
  · have inside := List.suffix_of_suffix_length_le ending (List.suffix_append front back) short
    exact inside.trans (List.suffix_append front' back)
  · obtain ⟨more, rfl⟩ := List.suffix_of_suffix_length_le (List.suffix_append front back) ending long
    obtain ⟨earlier, split⟩ := ending
    rw [← List.append_assoc] at split
    obtain ⟨first, same⟩ := kept more (List.prefix_append more back) ⟨earlier, List.append_cancel_right split⟩
    exact ⟨first, by rw [← List.append_assoc, same]⟩

theorem place_before_specifier (package module front more above rest back : List Char) (filled : module ≠ [])
    (clear : Unmarked module) (untouched : Untouched module front (fromKeyword ++ more) back)
    (place : normalizeImports package front ++ fromKeyword = above ++ module ++ rest) :
    fromKeyword.length ≤ rest.length := by
  refine Nat.le_of_not_lt fun short => ?_
  obtain ⟨letters, split⟩ :=
    List.suffix_of_suffix_length_le ⟨_, place.symm⟩ (List.suffix_append _ fromKeyword) (Nat.le_of_lt short)
  rw [← split, ← List.append_assoc] at place
  obtain ⟨earlier, same⟩ : module <:+ front ++ letters := by
    refine suffix_of_front module _ front letters ⟨above, (List.append_cancel_right place).symm⟩ fun part ending inside => ?_
    exact unmarked_ending package front part (fun c member => clear c (ending.subset member)) inside
  have lengths := congrArg List.length split
  have ends := congrArg List.length same
  simp only [List.length_append] at lengths ends
  have whole : front ++ (fromKeyword ++ more ++ back) = earlier ++ (module ++ (rest ++ more ++ back)) := by
    rw [← split, ← List.append_assoc earlier, same]
    simp only [List.append_assoc]
  have positive := List.length_pos_iff.mpr filled
  rcases untouched _ _ whole with before | after
  · rw [List.length_append] at before
    omega
  · simp only [List.length_append] at after
    omega

theorem specifier_untouched (module front specifier back : List Char) (mark : Char)
    (untouched : Untouched module front (clause mark specifier) back) : ¬ module <:+: specifier := by
  rintro ⟨above, below, rfl⟩
  have whole : front ++ (clause mark (above ++ module ++ below) ++ back) =
      (front ++ fromKeyword ++ mark :: above) ++ (module ++ (below ++ mark :: back)) := by
    simp [clause]
  rcases untouched _ _ whole with before | after
  · simp only [List.length_append, List.length_cons] at before
    omega
  · simp only [List.length_append, List.length_cons] at after
    omega

theorem normalized_untouched (package module front specifier back tail : List Char) (mark : Char)
    (marks : isSpecifierMark mark = true) (filled : module ≠ []) (clear : Unmarked module)
    (untouched : Untouched module front (clause mark specifier) back) :
    Untouched module (normalizeImports package front) (clause mark specifier) tail := by
  intro above below same
  have free : mark ∉ module := fun member => by
    rw [clear mark member] at marks
    cases marks
  have lengths := congrArg List.length same
  simp only [List.length_append, clause_length] at lengths ⊢
  have first := char_within above module below (normalizeImports package front ++ fromKeyword) (specifier ++ mark :: tail) mark
    (by simpa [clause] using same.symm)
  have second := char_within above module below (normalizeImports package front ++ fromKeyword ++ mark :: specifier) tail mark
    (by simpa [clause] using same.symm)
  simp only [List.length_append, List.length_cons] at first second
  -- Neither mark is part of a place, so it lies before the specifier, in it or behind it.
  by_cases early : above.length ≤ (normalizeImports package front).length + fromKeyword.length
  · have short : above.length + module.length ≤ (normalizeImports package front).length + fromKeyword.length :=
      Nat.le_of_not_lt fun long => free (first early long)
    obtain ⟨rest, place⟩ : above ++ module <+: normalizeImports package front ++ fromKeyword := by
      refine List.prefix_of_prefix_length_le ⟨below, ?_⟩ (List.prefix_append _ (mark :: specifier ++ [mark] ++ tail))
        (by simpa using short)
      rw [List.append_assoc, ← same, clause]
      simp only [List.append_assoc, List.cons_append]
    rw [clause, List.append_assoc] at untouched
    have long := place_before_specifier package module front _ above rest back filled clear untouched place.symm
    have ends := congrArg List.length place
    simp only [List.length_append] at ends
    exact .inl (by omega)
  · by_cases inside : above.length ≤ (normalizeImports package front).length + fromKeyword.length + 1 + specifier.length
    · have short : above.length + module.length ≤
          (normalizeImports package front).length + fromKeyword.length + 1 + specifier.length :=
        Nat.le_of_not_lt fun long => free (second (by omega) (by omega))
      have split : normalizeImports package front ++ (clause mark specifier ++ tail) =
          (normalizeImports package front ++ fromKeyword ++ [mark]) ++ (specifier ++ mark :: tail) := by
        simp [clause]
      obtain ⟨start, rfl⟩ : normalizeImports package front ++ fromKeyword ++ [mark] <+: above :=
        List.prefix_of_prefix_length_le ⟨_, split.symm.trans same⟩ (List.prefix_append above _) (by
          simp only [List.length_append, List.length_singleton]
          omega)
      rw [split, List.append_assoc _ start] at same
      have rest := List.append_cancel_left same
      have within : start ++ module <+: specifier :=
        List.prefix_of_prefix_length_le ⟨below, by rw [List.append_assoc, rest]⟩
          (List.prefix_append specifier (mark :: tail)) (by
            simp only [List.length_append, List.length_singleton] at short ⊢
            omega)
      exact absurd ((List.suffix_append start module).isInfix.trans within.isInfix)
        (specifier_untouched module front specifier back mark untouched)
    · exact .inr (by omega)

theorem other_clauses_kept (config : Config) (front specifier back : List Char) (mark : Char)
    (marks : isSpecifierMark mark = true) (clear : Unmarked specifier)
    (other : ∀ path, (∀ c ∈ path, isParentPath c = true) → specifier ≠ '.' :: '.' :: path)
    (module : Unmarked config.origin.setupModule.toList)
    (untouched : Untouched config.origin.setupModule.toList front (clause mark specifier) back) :
    ∃ tail, redirected config (front ++ (clause mark specifier ++ back)) =
      redirected config front ++ (clause mark specifier ++ tail) := by
  have filled : config.origin.setupModule.toList ≠ [] := by
    intro empty
    have word : fromKeyword.length = 5 := by decide
    rcases untouched (front ++ fromKeyword) (mark :: specifier ++ [mark] ++ back) (by simp [empty, clause]) with before | after
    · simp only [empty, List.append_nil, List.length_append] at before
      omega
    · simp only [empty, List.nil_append, List.length_append, List.length_singleton] at after
      omega
  have normalized : ∀ tail, normalizeImports config.origin.package.toList (clause mark specifier ++ back) =
      clause mark specifier ++ tail →
      normalizeImports config.origin.package.toList (front ++ (clause mark specifier ++ back)) =
        normalizeImports config.origin.package.toList front ++ (clause mark specifier ++ tail) := by
    intro tail same
    rw [← same]
    refine normalize_apart _ front _ fun rest some _ => ?_
    rw [clause_letters]
    exact parent_clause_before_letter rest _ some
  obtain ⟨tail, same⟩ := clause_normalized config.origin.package.toList specifier back mark marks clear other
  have apart := normalized_untouched config.origin.package.toList _ front specifier back tail mark marks filled module untouched
  refine ⟨replaceAll config.origin.setupModule.toList config.setupModule.toList tail, ?_⟩
  rw [redirected, normalized tail same, replace_untouched _ _ _ _ _ filled apart, redirected]

theorem not_parent (letters path : List Char) (c : Char) (member : c ∈ letters) (foreign : isParentPath c = false)
    (parent : ∀ d ∈ path, isParentPath d = true) : '.' :: '.' :: letters ≠ '.' :: '.' :: path := by
  intro same
  have inside := parent c ((List.cons.inj (List.cons.inj same).2).2 ▸ member)
  rw [foreign] at inside
  cases inside

theorem sample_clause_kept : isSpecifierMark '\x27' = true ∧ Unmarked "../lib/a.js".toList ∧
    (∀ path, (∀ c ∈ path, isParentPath c = true) → "../lib/a.js".toList ≠ '.' :: '.' :: path) ∧
    Unmarked Config.sample.origin.setupModule.toList ∧
    Untouched Config.sample.origin.setupModule.toList "import s from './test-setup.js'\nimport p from '..'\nimport a ".toList
      (clause '\x27' "../lib/a.js".toList) [] ∧
    ∃ tail, redirected Config.sample ("import s from './test-setup.js'\nimport p from '..'\nimport a ".toList ++
        (clause '\x27' "../lib/a.js".toList ++ [])) =
      "import s from './s.js'\nimport p from 'p'\nimport a ".toList ++ (clause '\x27' "../lib/a.js".toList ++ tail) := by
  have clear : Unmarked "../lib/a.js".toList := by decide
  have module : Unmarked Config.sample.origin.setupModule.toList := by decide
  have other : ∀ path, (∀ c ∈ path, isParentPath c = true) → "../lib/a.js".toList ≠ '.' :: '.' :: path :=
    fun path parent => not_parent "/lib/a.js".toList path 'l' (by decide) (by decide) parent
  have untouched : Untouched Config.sample.origin.setupModule.toList
      "import s from './test-setup.js'\nimport p from '..'\nimport a ".toList (clause '\x27' "../lib/a.js".toList) [] := by
    decide +kernel
  have front : redirected Config.sample "import s from './test-setup.js'\nimport p from '..'\nimport a ".toList =
      "import s from './s.js'\nimport p from 'p'\nimport a ".toList := by decide +kernel
  refine ⟨by decide, clear, other, module, untouched, ?_⟩
  rw [← front]
  exact other_clauses_kept _ _ _ _ _ (by decide) clear other module untouched

theorem setup_module_in_specifier : Config.sample.Accepted ∧ Unmarked Config.sample.origin.package.toList ∧
    Unmarked Config.sample.origin.setupModule.toList ∧ Unmarked Config.sample.setupModule.toList ∧
    isSpecifierMark '\x27' = true ∧ Unmarked "../test-setup.js".toList ∧
    (∀ path, (∀ c ∈ path, isParentPath c = true) → "../test-setup.js".toList ≠ '.' :: '.' :: path) ∧
    "../test-setup.js" ≠ Config.sample.origin.setupModule ∧
    ¬ clause '\x27' "../test-setup.js".toList <:+:
      redirected Config.sample ("import a ".toList ++ clause '\x27' "../test-setup.js".toList) := by
  refine ⟨Config.sample_accepted, ?_, ?_, ?_, by decide, ?_, ?_, by decide, by decide +kernel⟩
  · decide
  · decide
  · decide
  · decide
  · exact fun path parent => not_parent "/test-setup.js".toList path 't' (by decide) (by decide) parent

end Adaptation

end SuiteSync
