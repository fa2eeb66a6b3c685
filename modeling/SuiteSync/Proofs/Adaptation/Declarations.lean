import SuiteSync.Proofs.Adaptation.Hits
import SuiteSync.Proofs.Text.Search

set_option autoImplicit false

namespace SuiteSync.Adaptation

open Text

def Declares (name rest : List Char) : Prop :=
  ∃ blanks quote after, rest = '(' :: blanks ++ quote :: name ++ quote :: after ∧
    (∀ c ∈ blanks, isBlank c = true) ∧ isQuote quote = true

def Opens (gap : List Char) : Prop :=
  ∃ blanks quote, gap = blanks ++ [quote] ∧ (∀ c ∈ blanks, isBlank c = true) ∧ isQuote quote = true

theorem leads_blank (c : Char) (blank : isBlank c = true) : leads c = true := by
  rw [leads, blank, Bool.true_or]

theorem leads_quote (c : Char) (quote : isQuote c = true) : leads c = true := by
  rw [leads, quote, Bool.or_true]

theorem opens_leading (gap : List Char) (opens : Opens gap) : ∀ c ∈ gap, leads c = true := by
  obtain ⟨blanks, quote, rfl, blank, isQuote⟩ := opens
  intro c member
  rcases List.mem_append.mp member with before | last
  · exact leads_blank c (blank c before)
  · exact List.mem_singleton.mp last ▸ leads_quote quote isQuote

theorem closed_by_quote (blanks after : List Char) (quote : Char) (isQuote : isQuote quote = true) :
    closesName (blanks ++ [quote]) after = true ↔ ∃ rest, after = quote :: rest := by
  rw [closesName, List.reverse_append, List.reverse_singleton, List.singleton_append, List.find?_cons_of_pos isQuote]
  cases after with
  | nil => simp
  | cons c rest => simp

theorem declares_of_opens (name gap after : List Char) (opens : Opens gap) (closed : closesName gap after = true) :
    Declares name ('(' :: gap ++ name ++ after) := by
  obtain ⟨blanks, quote, rfl, blank, isQuote⟩ := opens
  obtain ⟨rest, rfl⟩ := (closed_by_quote blanks after quote isQuote).mp closed
  exact ⟨blanks, quote, rest, by simp, blank, isQuote⟩

theorem opens_of_declares (name gap after : List Char) (c : Char) (starts : name.head? = some c)
    (visible : leads c = false) (leading : ∀ d ∈ gap, leads d = true)
    (declares : Declares name ('(' :: gap ++ name ++ after)) : Opens gap := by
  obtain ⟨blanks, quote, rest, same, blank, isQuote⟩ := declares
  obtain ⟨more, rfl⟩ := List.head?_eq_some_iff.mp starts
  have opens : Opens (blanks ++ [quote]) := ⟨blanks, quote, rfl, blank, isQuote⟩
  have aligned : gap ++ c :: (more ++ after) = (blanks ++ [quote]) ++ c :: (more ++ quote :: rest) := by
    simpa using same
  exact (front_unique leads _ _ _ _ _ _ leading (opens_leading _ opens) visible visible aligned).1 ▸ opens

/-- A skip that is made for a name marks one test that stands alone, with nothing but blanks and quotes between its
bracket and the name. The test declares the name when they open it. For a name that starts with neither a blank nor a
quote it declares it in no other case. -/
theorem skip_hits_declaration_iff (file test : String) (text edited : List Char) (named : allBlank test = false)
    (run : skipTests file [test] text = .ok edited) :
    ∃ above gap after, SkipHit test.toList text edited above gap after ∧
      (Opens gap → Declares test.toList ('(' :: gap ++ test.toList ++ after)) ∧
      ((∀ c, test.toList.head? = some c → leads c = false) →
        Declares test.toList ('(' :: gap ++ test.toList ++ after) → Opens gap) := by
  have once : skipTest file test text = .ok edited := by
    rw [skipTests] at run
    split at run
    · cases run
    · rename_i result ok
      rwa [ok]
  obtain ⟨above, gap, after, hit⟩ := skip_test_hit file test text edited once
  refine ⟨above, gap, after, hit, fun opens => declares_of_opens _ _ _ opens hit.closed, fun visible declares => ?_⟩
  cases shape : test.toList with
  | nil => simp [allBlank, shape] at named
  | cons c more =>
      have starts : test.toList.head? = some c := congrArg List.head? shape
      exact opens_of_declares _ _ _ c starts (visible c starts) hit.leading declares

theorem sample_exclusion_declared : allBlank "b" = false ∧
    skipTests "a.ts" ["b"] "it(\"a\"); it( 'b')".toList = .ok "it(\"a\"); it.skip( 'b')".toList ∧
    ∃ above gap after, SkipHit "b".toList "it(\"a\"); it( 'b')".toList "it(\"a\"); it.skip( 'b')".toList above gap after ∧
      (Opens gap → Declares "b".toList ('(' :: gap ++ "b".toList ++ after)) := by
  have run : skipTests "a.ts" ["b"] "it(\"a\"); it( 'b')".toList = .ok "it(\"a\"); it.skip( 'b')".toList := rfl
  obtain ⟨above, gap, after, hit, opened, _⟩ := skip_hits_declaration_iff "a.ts" "b" _ _ (by decide) run
  exact ⟨by decide, run, above, gap, after, hit, opened⟩

theorem declares_quoted (name rest : List Char) (declares : Declares name rest) :
    ∃ quote, quote :: name ++ [quote] <:+: rest := by
  obtain ⟨blanks, quote, after, rfl, _, _⟩ := declares
  exact ⟨quote, '(' :: blanks, after, by simp⟩

theorem other_titles_skipped : allBlank "foo" = false ∧
    skipTests "a.ts" ["foo"] "it(' foo')".toList = .ok "it.skip(' foo')".toList ∧
    skipTests "a.ts" ["foo"] "it( foo)".toList = .ok "it.skip( foo)".toList ∧
    ∀ rest, rest <:+ "it(' foo')".toList ∨ rest <:+ "it( foo)".toList → ¬ Declares "foo".toList rest := by
  have longer : ∀ quote, ¬ quote :: "foo".toList ++ [quote] <:+: "it(' foo')".toList := by
    simp [List.infix_cons_iff, List.cons_prefix_cons]
  have bare : ∀ quote, ¬ quote :: "foo".toList ++ [quote] <:+: "it( foo)".toList := by
    simp [List.infix_cons_iff, List.cons_prefix_cons]
  refine ⟨by decide, rfl, rfl, fun rest ending declares => ?_⟩
  obtain ⟨quote, inside⟩ := declares_quoted _ _ declares
  rcases ending with first | second
  · exact longer quote (inside.trans first.isInfix)
  · exact bare quote (inside.trans second.isInfix)

end SuiteSync.Adaptation
