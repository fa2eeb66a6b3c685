import SuiteSync.Proofs.Adaptation.Faithful
import SuiteSync.Proofs.Adaptation.Marks

set_option autoImplicit false

namespace SuiteSync

open Text Adaptation

namespace Adaptation

def SkipMarked (line line' : List Char) : Prop :=
  ∃ places, Starts line places ∧ line' = weave (skipsAt places) line

-- Lines that hold the given ones, skip marks apart, and between them nothing but whole blocks.
inductive HookedLines (hook : List Char) : List (List Char) → List (List Char) → Prop
  | nil : HookedLines hook [] []
  | kept (line line' : List Char) (lines lines' : List (List Char)) (marks : SkipMarked line line')
      (later : HookedLines hook lines lines') : HookedLines hook (line :: lines) (line' :: lines')
  | block (indent : List Char) (lines lines' : List (List Char)) (blank : ∀ c ∈ indent, isIndent c = true)
      (later : HookedLines hook lines lines') :
      HookedLines hook lines ((blockLines indent hook).splitOn '\n' ++ lines')

def LineStart (above : List Char) : Prop := above = [] ∨ ∃ earlier, above = earlier ++ ['\n']

theorem start_on_line (above line below front rest : List Char) (c : Char)
    (lineStart : LineStart above) (lineEnd : below = [] ∨ below.head? = some '\n')
    (start : TestStart (above ++ (line ++ below)) front (rest ++ below)) (ending : c :: rest <:+ line) :
    ∃ front', TestStart line front' rest := by
  obtain ⟨inner, rfl⟩ := ending
  have bracket : rest.head? = some '(' := by
    have opens := start.bracket
    cases rest with
    | cons d more => exact opens
    | nil =>
        rcases lineEnd with rfl | feed
        · cases opens
        · cases feed.symm.trans opens
  obtain ⟨word, rfl⟩ := letter_before_start _ front (above ++ inner) (rest ++ below) c start (by simp)
  rcases List.eq_nil_or_concat inner with rfl | ⟨shorter, d, rfl⟩
  · rw [List.append_nil] at word
    rcases lineStart with rfl | ⟨earlier, rfl⟩
    · exact absurd word.symm (by simp)
    · exact absurd (List.append_inj' word rfl).2 (by decide)
  · rw [List.concat_eq_append, ← List.append_assoc] at word
    obtain ⟨same, letter⟩ := List.append_inj' word rfl
    obtain rfl := (List.cons.inj letter).1
    refine ⟨shorter, ?_, bracket, ?_⟩
    · rw [List.concat_eq_append, keyword_letters, List.append_assoc _ ['t'], List.singleton_append]
    · have alone := start.alone
      rw [← same, List.reverse_append] at alone
      cases shape : shorter.reverse with
      | nil => rfl
      | cons e more => rwa [shape] at alone

def Inserts (hook text : List Char) (extra : List Char → List Char) : Prop :=
  ∀ c rest, c :: rest <:+ text → extra rest = [] ∨ (extra rest = skipMark ∧ ∃ above, TestStart text above rest) ∨
    (c = '\n' ∧ ∃ indent, (∀ d ∈ indent, isIndent d = true) ∧ extra rest = hookBlock indent hook)

theorem body_inserts (hook text : List Char) (hooks : List Char → List Char) (places : List (List Char))
    (inserts : HooksSuites hook text hooks) (starts : Starts text places) : Inserts hook text (withSkips places hooks) := by
  rintro c rest ⟨front, split⟩
  by_cases member : rest ∈ places
  · exact .inr (.inl ⟨if_pos member, starts rest member⟩)
  · by_cases plain : hooks rest = []
    · exact .inl ((if_neg member).trans plain)
    · obtain ⟨feed, above, block⟩ := block_after_feed hook text front rest c hooks inserts (by simp [← split]) plain
      exact .inr (.inr ⟨feed, lastIndent above, last_indent_blank above, (if_neg member).trans block⟩)

theorem line_marked (hook above line below : List Char) (extra : List Char → List Char)
    (inserts : Inserts hook (above ++ (line ++ below)) extra) (oneLine : '\n' ∉ line)
    (lineStart : LineStart above) (lineEnd : below = [] ∨ below.head? = some '\n') :
    ∃ places, Starts line places ∧ weave (fun rest => extra (rest ++ below)) line = weave (skipsAt places) line := by
  have inside : ∀ rest, rest.length < line.length → rest <:+ line → extra (rest ++ below) = [] ∨
      (extra (rest ++ below) = skipMark ∧ ∃ front, TestStart line front rest) := by
    rintro rest short ⟨earlier, split⟩
    rcases List.eq_nil_or_concat earlier with rfl | ⟨inner, c, rfl⟩
    · exact absurd (congrArg List.length split) (Nat.ne_of_lt short)
    · rw [List.concat_eq_append, List.append_assoc, List.singleton_append] at split
      have ending : c :: (rest ++ below) <:+ above ++ (line ++ below) := ⟨above ++ inner, by simp [← split]⟩
      rcases inserts c (rest ++ below) ending with plain | ⟨mark, front, start⟩ | ⟨rfl, _⟩
      · exact .inl plain
      · exact .inr ⟨mark, start_on_line above line below front rest c lineStart lineEnd start ⟨inner, split⟩⟩
      · exact absurd (split ▸ List.mem_append_right inner List.mem_cons_self) oneLine
  have marks : skipMark ≠ [] := by decide
  refine ⟨line.tails.filter fun rest => rest.length < line.length ∧ extra (rest ++ below) = skipMark, ?_, ?_⟩
  · intro rest member
    obtain ⟨tail, holds⟩ := List.mem_filter.mp member
    obtain ⟨short, mark⟩ := of_decide_eq_true holds
    rcases inside rest short ((List.mem_tails _ _).mp tail) with plain | ⟨_, start⟩
    · exact absurd (mark.symm.trans plain) marks
    · exact start
  · refine weave_congr _ _ line fun rest short ending => ?_
    rcases inside rest short ending with plain | ⟨mark, _⟩
    · refine plain.trans (skips_elsewhere _ _ fun member => ?_).symm
      have mark := (of_decide_eq_true (List.mem_filter.mp member).2).2
      exact marks (mark.symm.trans plain)
    · refine mark.trans (skips_at_place _ _ ?_).symm
      exact List.mem_filter.mpr ⟨(List.mem_tails _ _).mpr ending, decide_eq_true ⟨short, mark⟩⟩

theorem hooked_lines (hook above text : List Char) (extra : List Char → List Char)
    (inserts : Inserts hook (above ++ text) extra) (lineStart : LineStart above) :
    HookedLines hook (text.splitOn '\n') ((weave extra text).splitOn '\n') := by
  by_cases feed : '\n' ∈ text
  · obtain ⟨line, below, rfl, oneLine⟩ := List.eq_append_cons_of_mem feed
    obtain ⟨places, starts, same⟩ :=
      line_marked hook above line ('\n' :: below) extra inserts oneLine lineStart (.inr rfl)
    have marking := starts_marking line places starts
    have oneLine' : '\n' ∉ weave (skipsAt places) line := fun member =>
      oneLine ((marked_mem line _ '\n' marking (by decide)).mp member)
    have later := hooked_lines hook (above ++ line ++ ['\n']) below extra (by simpa using inserts) (.inr ⟨_, rfl⟩)
    rw [weave_append, same, weave, List.splitOn_append_cons_self_of_not_mem oneLine,
      List.splitOn_append_cons_self_of_not_mem oneLine']
    refine .kept line _ _ _ ⟨places, starts, rfl⟩ ?_
    rcases inserts '\n' below ⟨above ++ line, by simp⟩ with plain | ⟨_, front, start⟩ | ⟨_, indent, blank, block⟩
    · rwa [plain, List.nil_append]
    · exact absurd (letter_before_start _ front (above ++ line) below '\n' start (by simp)).2 (by decide)
    · rw [block, hook_block_lines, List.append_assoc, List.singleton_append, List.splitOn_append_cons_self]
      exact .block indent _ _ blank later
  · obtain ⟨places, starts, same⟩ := line_marked hook above text [] extra (by simpa using inserts) feed lineStart (.inl rfl)
    simp only [List.append_nil] at same
    have marking := starts_marking text places starts
    have feed' : '\n' ∉ weave (skipsAt places) text := fun member =>
      feed ((marked_mem text _ '\n' marking (by decide)).mp member)
    rw [same, List.splitOn_eq_singleton feed, List.splitOn_eq_singleton feed']
    exact .kept text _ _ _ ⟨places, starts, rfl⟩ .nil
termination_by text.length

def importLine (hook module : List Char) : List Char :=
  "import \x7b ".toList ++ hook ++ " \x7d from '".toList ++ module ++ "';".toList

theorem end_with_feed (front ending ending' : List Char) (same : ending = ending' ++ ['\n']) :
    front ++ ending = (front ++ ending') ++ ['\n'] := by
  rw [same, List.append_assoc]

theorem hook_import_line (hook module : List Char) : hookImport hook module = importLine hook module ++ ['\n'] :=
  end_with_feed _ _ _ (by decide)

-- The lines of a text and those that it has with the hook import, which goes above the line that the first import
-- starts, or cuts that line in two before the import.
inductive ImportLines (hook module : List Char) : List (List Char) → List (List Char) → Prop
  | missing (lines : List (List Char)) (none : ∀ line ∈ lines, ¬ importKeyword <:+: line) :
      ImportLines hook module lines lines
  | above (earlier later : List (List Char)) (line : List Char) (first : ∀ other ∈ earlier, ¬ importKeyword <:+: other)
      (starts : importKeyword <+: line) :
      ImportLines hook module (earlier ++ line :: later)
        (earlier ++ ((importLine hook module).splitOn '\n' ++ line :: later))
  | within (earlier later : List (List Char)) (part line : List Char) (filled : part ≠ [])
      (first : ∀ other ∈ earlier, ¬ importKeyword <:+: other)
      (leftmost : ∀ front back, part ++ line = front ++ importKeyword ++ back → part.length ≤ front.length)
      (starts : importKeyword <+: line) :
      ImportLines hook module (earlier ++ (part ++ line) :: later)
        (earlier ++ ((part ++ importLine hook module).splitOn '\n' ++ line :: later))

theorem line_within (line text : List Char) (member : line ∈ text.splitOn '\n') : line <:+: text := by
  by_cases feed : '\n' ∈ text
  · obtain ⟨first, below, rfl, oneLine⟩ := List.eq_append_cons_of_mem feed
    rw [List.splitOn_append_cons_self_of_not_mem oneLine] at member
    rcases List.mem_cons.mp member with rfl | later
    · exact (List.prefix_append _ _).isInfix
    · exact (line_within line below later).trans ((List.suffix_cons '\n' below).trans (List.suffix_append _ _)).isInfix
  · rw [List.splitOn_eq_singleton feed] at member
    exact List.mem_singleton.mp member ▸ List.infix_rfl
termination_by text.length

theorem last_line_cut (before : List Char) : ∃ earlier start part, before = start ++ part ∧
    (∀ line ∈ earlier, line <:+: before) ∧ '\n' ∉ part ∧
    ∀ rest, (before ++ rest).splitOn '\n' = earlier ++ (part ++ rest).splitOn '\n' := by
  by_cases feed : '\n' ∈ before.reverse
  · obtain ⟨part, above, split, oneLine⟩ := List.eq_append_cons_of_mem feed
    have whole : before = above.reverse ++ '\n' :: part.reverse := by
      rw [← List.reverse_reverse before, split]
      simp
    refine ⟨above.reverse.splitOn '\n', above.reverse ++ ['\n'], part.reverse, by simp [whole], fun line member => ?_,
      by simpa using oneLine, fun rest => ?_⟩
    · exact (line_within line _ member).trans (whole ▸ List.prefix_append _ _).isInfix
    · rw [whole, List.append_assoc, List.cons_append, List.splitOn_append_cons_self]
  · exact ⟨[], [], before, rfl, List.forall_mem_nil _, by simpa using feed, fun rest => rfl⟩

theorem first_line_cut (rest : List Char) : ∃ line later, '\n' ∉ line ∧
    (∀ word, '\n' ∉ word → (word <+: rest ↔ word <+: line)) ∧ line <+: rest ∧
    ∀ front, '\n' ∉ front → (front ++ rest).splitOn '\n' = (front ++ line) :: later := by
  by_cases feed : '\n' ∈ rest
  · obtain ⟨line, below, rfl, oneLine⟩ := List.eq_append_cons_of_mem feed
    refine ⟨line, below.splitOn '\n', oneLine, fun word free => prefix_before_stop word line below '\n' free,
      List.prefix_append _ _, fun front free => ?_⟩
    rw [← List.append_assoc]
    exact List.splitOn_append_cons_self_of_not_mem (by simp [free, oneLine]) below
  · refine ⟨rest, [], feed, fun word _ => Iff.rfl, List.prefix_rfl, fun front free => ?_⟩
    exact List.splitOn_eq_singleton (by simp [free, feed])

theorem import_lines (hook module text : List Char) :
    ImportLines hook module (text.splitOn '\n') ((importHook hook module text).splitOn '\n') := by
  rw [importHook]
  split
  · rename_i missing
    refine .missing _ fun line member inside => ?_
    obtain ⟨front, back, same⟩ := inside.trans (line_within line text member)
    exact split_first_none _ _ missing front back same.symm
  · rename_i before after found
    have whole := split_first_join _ _ _ _ found
    rw [List.append_assoc] at whole
    obtain ⟨earlier, start, part, front, inside, oneLine, above⟩ := last_line_cut before
    obtain ⟨line, later, _, words, shorter, below⟩ := first_line_cut (importKeyword ++ after)
    have starts := (words importKeyword (by decide)).mp (List.prefix_append _ _)
    have first : ∀ other ∈ earlier, ¬ importKeyword <:+: other := by
      rintro other member within
      obtain ⟨left, right, same⟩ := within.trans (inside other member)
      have bound := split_first_leftmost _ _ _ _ left (right ++ (importKeyword ++ after)) found (by
        rw [whole, ← same]
        simp only [List.append_assoc])
      have lengths := congrArg List.length same
      have word : importKeyword.length = 7 := by decide
      simp only [List.length_append] at lengths
      omega
    have lines : text.splitOn '\n' = earlier ++ (part ++ line) :: later := by rw [whole, above, below part oneLine]
    have imported : (before ++ hookImport hook module ++ importKeyword ++ after).splitOn '\n' =
        earlier ++ ((part ++ importLine hook module).splitOn '\n' ++ line :: later) := by
      have next := below [] List.not_mem_nil
      rw [List.nil_append, List.nil_append] at next
      have shape : before ++ hookImport hook module ++ importKeyword ++ after =
          before ++ (importLine hook module ++ '\n' :: (importKeyword ++ after)) := by
        rw [hook_import_line]
        simp only [List.append_assoc, List.cons_append, List.nil_append]
      rw [shape, above, ← List.append_assoc part, List.splitOn_append_cons_self, next]
    rw [lines, imported]
    by_cases empty : part = []
    · subst empty
      exact .above earlier later line first starts
    · refine .within earlier later part line empty first (fun left right same => ?_) starts
      obtain ⟨more, rest⟩ := shorter
      have bound := split_first_leftmost _ _ _ _ (start ++ left) (right ++ more) found (by
        rw [whole, front, ← rest, List.append_assoc start, ← List.append_assoc part, same]
        simp only [List.append_assoc])
      rw [front, List.length_append, List.length_append] at bound
      omega

end Adaptation

theorem adapt_keeps_lines (config : Config) (url file source out : String) (excluded : List String)
    (name : HookName config.harness.hookFunction.toList) (adapted : adapt config url file source excluded = .ok out) :
    ∃ head text lines, header config url file = .ok head ∧ out = head ++ String.ofList text ∧
      ImportLines config.harness.hookFunction.toList config.setupModule.toList
        ((redirected config source.toList).splitOn '\n') lines ∧
      HookedLines config.harness.hookFunction.toList lines (text.splitOn '\n') := by
  rw [adapt] at adapted
  split at adapted
  · cases adapted
  · rename_i head headed
    split at adapted
    · cases adapted
    · rename_i text run
      cases adapted
      refine ⟨head, text, _, headed, rfl, import_lines _ _ _, ?_⟩
      obtain ⟨places, hooks, rfl, inserts, _, _, starts⟩ := body_weave config file source.toList text excluded name run
      exact hooked_lines _ [] _ _ (body_inserts _ _ hooks places inserts fun place member => (starts place member).2) (.inl rfl)

theorem sample_keeps_lines : HookName Config.sample.harness.hookFunction.toList ∧
    adapt Config.sample "http://h/1/t/a.ts" "a.ts" "import a from '..'\ndescribe('s', \x7b\n  it('b', f)\n" ["b"] =
      .ok ("// H\n// http://r/1/t/a.ts\n\n" ++ ("import \x7b hook \x7d from './s.js';\nimport a from 'p'\n" ++
        "describe('s', \x7b\n  beforeEach(function () \x7b\n    hook(this);\n  \x7d);\n\n  it.skip('b', f)\n")) ∧
    ∃ lines, ImportLines "hook".toList "./s.js".toList ((redirected Config.sample
        "import a from '..'\ndescribe('s', \x7b\n  it('b', f)\n".toList).splitOn '\n') lines ∧
      HookedLines "hook".toList lines (("import \x7b hook \x7d from './s.js';\nimport a from 'p'\n" ++ "describe('s', " ++
        "\x7b\n  beforeEach(function () \x7b\n    hook(this);\n  \x7d);\n\n  it.skip('b', f)\n").toList.splitOn '\n') := by
  have name : HookName Config.sample.harness.hookFunction.toList := ⟨by decide, List.all_eq_true.mp (by decide), by decide⟩
  have adapted : (adapt Config.sample "http://h/1/t/a.ts" "a.ts" "import a from '..'\ndescribe('s', \x7b\n  it('b', f)\n"
      ["b"]).toOption = some ("// H\n// http://r/1/t/a.ts\n\n" ++ ("import \x7b hook \x7d from './s.js';\n" ++
      "import a from 'p'\ndescribe('s', \x7b\n  beforeEach(function () \x7b\n    hook(this);\n  \x7d);\n\n" ++
      "  it.skip('b', f)\n")) := by
    decide +kernel
  have top : (header Config.sample "http://h/1/t/a.ts" "a.ts").toOption = some "// H\n// http://r/1/t/a.ts\n\n" := by
    decide +kernel
  have run := except_of_option _ _ adapted
  obtain ⟨head, text, lines, headed, whole, imports, hooks⟩ := adapt_keeps_lines _ _ _ _ _ _ name run
  cases (except_of_option _ _ top).symm.trans headed
  have same := (String.append_right_inj _).mp whole
  rw [← String.toList_ofList (l := text), ← same] at hooks
  exact ⟨name, run, lines, imports, hooks⟩

theorem indented_import_cut : Config.sample.Accepted ∧ HookName Config.sample.harness.hookFunction.toList ∧ ∃ text,
    adapt Config.sample "http://h/1/t/a.ts" "a.ts" "  import a from 'a'\n" [] =
      .ok ("// H\n// http://r/1/t/a.ts\n\n" ++ String.ofList text) ∧
    "  import a from 'a'".toList ∈ (redirected Config.sample "  import a from 'a'\n".toList).splitOn '\n' ∧
    ∀ line ∈ text.splitOn '\n', ¬ SkipMarked "  import a from 'a'".toList line := by
  have name : HookName Config.sample.harness.hookFunction.toList := ⟨by decide, List.all_eq_true.mp (by decide), by decide⟩
  have adapted : (adapt Config.sample "http://h/1/t/a.ts" "a.ts" "  import a from 'a'\n" []).toOption =
      some ("// H\n// http://r/1/t/a.ts\n\n" ++
        String.ofList "  import \x7b hook \x7d from './s.js';\nimport a from 'a'\n".toList) := by decide +kernel
  refine ⟨Config.sample_accepted, name, _, except_of_option _ _ adapted, by decide +kernel, ?_⟩
  rintro line member ⟨places, starts, same⟩
  have empty : places = [] := by
    refine List.eq_nil_iff_forall_not_mem.mpr fun place inside => ?_
    obtain ⟨above, start⟩ := starts place inside
    obtain ⟨more, rfl⟩ := List.head?_eq_some_iff.mp start.bracket
    have bracket : '(' ∈ "  import a from 'a'".toList := by simp [start.split]
    exact absurd bracket (by decide)
  rw [empty, weave_no_skips] at same
  exact absurd (same ▸ member) (by decide +kernel)

end SuiteSync
