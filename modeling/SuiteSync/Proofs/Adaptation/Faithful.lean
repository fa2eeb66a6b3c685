import SuiteSync.Adaptation.Basic
import SuiteSync.Proofs.Adaptation.Skips
import SuiteSync.Proofs.Settings

set_option autoImplicit false

namespace SuiteSync

open Text Adaptation

-- The edits that adapting makes in a text: `extra rest` is inserted before `rest`, and `places` are the rests that
-- a skip mark stands before.
structure FaithfulEdits (hook text : List Char) (excluded : Nat) (places : List (List Char))
    (extra : List Char → List Char) : Prop where
  suites : ∀ above below, Suite text above below →
    ∃ declaration body, splitFirst? bodyOpening below = some (declaration, body) ∧
      extra body = missingBlock hook above body ∧
      ∀ above' below', Suite text above' below' → above.length < above'.length → below'.length ≤ body.length
  skips : ∀ place ∈ places, extra place = skipMark ∧ ∃ above, TestStart text above place
  distinct : places.Nodup
  count : places.length = excluded
  only : ∀ rest, extra rest ≠ [] → rest ∈ places ∨
    ∃ above below declaration, Suite text above below ∧ splitFirst? bodyOpening below = some (declaration, rest)

theorem body_not_start (text above below declaration body front : List Char) (suite : Suite text above below)
    (found : splitFirst? bodyOpening below = some (declaration, body)) : ¬ TestStart text front body := by
  intro start
  have split : text = above ++ declaration ++ ['\x7b'] ++ ['\n'] ++ body := by
    rw [suite.split, split_first_join _ _ _ _ found, ← opening_chars]
    simp only [List.append_assoc]
  exact absurd (letter_before_start text front _ body '\n' start split).2 (by decide)

theorem with_skips_faithful (hook text : List Char) (places : List (List Char)) (extra : List Char → List Char)
    (hooks : HooksSuites hook text extra) (distinct : places.Nodup)
    (starts : ∀ place ∈ places, extra place = [] ∧ ∃ above, TestStart text above place) :
    FaithfulEdits hook text places.length places (withSkips places extra) := by
  refine ⟨fun above below suite => ?_, fun place member => ⟨if_pos member, (starts place member).2⟩, distinct, rfl,
    fun rest inserted => ?_⟩
  · obtain ⟨declaration, body, found, here, apart⟩ := hooks.suites above below suite
    have other : body ∉ places := fun member => by
      obtain ⟨front, start⟩ := (starts body member).2
      exact body_not_start text above below declaration body front suite found start
    exact ⟨declaration, body, found, (if_neg other).trans here, apart⟩
  · by_cases member : rest ∈ places
    · exact .inl member
    · rw [withSkips, if_neg member] at inserted
      exact .inr (hooks.only rest inserted)

theorem body_weave (config : Config) (file : String) (source edited : List Char) (excluded : List String)
    (name : HookName config.harness.hookFunction.toList) (run : body config file source excluded = .ok edited) :
    ∃ places hooks, edited = weave (withSkips places hooks) (imported config source) ∧
      HooksSuites config.harness.hookFunction.toList (imported config source) hooks ∧ places.Nodup ∧
      places.length = excluded.length ∧
      ∀ place ∈ places, hooks place = [] ∧ ∃ above, TestStart (imported config source) above place := by
  rw [body] at run
  split at run
  · cases run
  · rename_i hooked hooking
    obtain ⟨hooks, rfl, inserts⟩ := hook_suites_weave _ _ _ _ name hooking
    obtain ⟨places, distinct, count, starts, final⟩ :=
      skip_tests_weave file excluded _ edited hooks (calm_hooks _ _ _ name inserts) run
    exact ⟨places, hooks, final, inserts, distinct, count, starts⟩

theorem body_edits (config : Config) (file : String) (source edited : List Char) (excluded : List String)
    (name : HookName config.harness.hookFunction.toList) (run : body config file source excluded = .ok edited) :
    ∃ places extra, edited = weave extra (imported config source) ∧
      FaithfulEdits config.harness.hookFunction.toList (imported config source) excluded.length places extra := by
  obtain ⟨places, hooks, final, inserts, distinct, count, starts⟩ := body_weave config file source edited excluded name run
  exact ⟨places, withSkips places hooks, final, count ▸ with_skips_faithful _ _ places hooks inserts distinct starts⟩

theorem adapt_inserts_only (config : Config) (url file source out : String) (excluded : List String)
    (name : HookName config.harness.hookFunction.toList) (adapted : adapt config url file source excluded = .ok out) :
    ∃ head places extra, header config url file = .ok head ∧
      out = head ++ String.ofList ((marked extra (imported config source.toList)).map Prod.fst) ∧
      ((marked extra (imported config source.toList)).filter fun c => !c.2).map Prod.fst =
        imported config source.toList ∧
      FaithfulEdits config.harness.hookFunction.toList (imported config source.toList) excluded.length places extra := by
  rw [adapt] at adapted
  split at adapted
  · cases adapted
  · rename_i head headed
    split at adapted
    · cases adapted
    · rename_i edited run
      cases adapted
      obtain ⟨places, extra, rfl, edits⟩ := body_edits config file source.toList edited excluded name run
      exact ⟨head, places, extra, headed, by rw [marked_weave], marked_kept _ _, edits⟩

theorem sample_inserts_only : HookName Config.sample.harness.hookFunction.toList ∧
    adapt Config.sample "http://h/1/t/a.ts" "a.ts" "\ndescribe('s', () => \x7b\n  it('b', f)\n" ["b"] =
      .ok ("// H\n// http://r/1/t/a.ts\n\n\ndescribe('s', () => \x7b\n  beforeEach(function () \x7b\n" ++
        "    hook(this);\n  \x7d);\n\n  it.skip('b', f)\n") ∧
    ∃ places extra, FaithfulEdits "hook".toList
      (imported Config.sample "\ndescribe('s', () => \x7b\n  it('b', f)\n".toList) 1 places extra := by
  have name : HookName Config.sample.harness.hookFunction.toList := ⟨by decide, List.all_eq_true.mp (by decide), by decide⟩
  have adapted : (adapt Config.sample "http://h/1/t/a.ts" "a.ts" "\ndescribe('s', () => \x7b\n  it('b', f)\n"
      ["b"]).toOption = some ("// H\n// http://r/1/t/a.ts\n\n\ndescribe('s', () => \x7b\n" ++
        "  beforeEach(function () \x7b\n    hook(this);\n  \x7d);\n\n  it.skip('b', f)\n") := by decide +kernel
  have run := except_of_option _ _ adapted
  obtain ⟨_, places, extra, _, _, _, edits⟩ := adapt_inserts_only _ _ _ _ _ _ name run
  exact ⟨name, run, places, extra, edits⟩

end SuiteSync
