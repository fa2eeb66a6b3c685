import SuiteSync.Proofs.Settings
import SuiteSync.Proofs.UrlTemplate
import SuiteSync.Version.Resolution

set_option autoImplicit false

namespace SuiteSync.Config

open Text

structure Rule where
  holds : Prop
  defect : ConfigError

def FirstDefect (rules : List Rule) (defect : ConfigError) : Prop :=
  ∃ front rule back, rules = front ++ rule :: back ∧ (∀ earlier ∈ front, earlier.holds) ∧ ¬ rule.holds ∧
    rule.defect = defect

def Judges {α : Type} (rules : List Rule) : Except ConfigError α → Prop
  | .ok _ => ∀ rule ∈ rules, rule.holds
  | .error defect => FirstDefect rules defect

theorem first_defect_nil (defect : ConfigError) : ¬ FirstDefect [] defect := by
  rintro ⟨front, rule, back, split, _⟩
  cases front with
  | nil => cases split
  | cons next between => cases split

theorem first_defect_cons (rule : Rule) (rules : List Rule) (defect : ConfigError) :
    FirstDefect (rule :: rules) defect ↔
      (¬ rule.holds ∧ rule.defect = defect) ∨ (rule.holds ∧ FirstDefect rules defect) := by
  constructor
  · rintro ⟨front, first, back, split, sound, broken, same⟩
    cases front with
    | nil =>
        obtain ⟨rfl, _⟩ := List.cons.inj split
        exact .inl ⟨broken, same⟩
    | cons next between =>
        obtain ⟨rfl, rfl⟩ := List.cons.inj split
        obtain ⟨holds, rest⟩ := List.forall_mem_cons.mp sound
        exact .inr ⟨holds, between, first, back, rfl, rest, broken, same⟩
  · rintro (⟨broken, same⟩ | ⟨holds, front, first, back, rfl, sound, rest⟩)
    · exact ⟨[], rule, rules, rfl, List.forall_mem_nil _, broken, same⟩
    · exact ⟨rule :: front, first, back, rfl, List.forall_mem_cons.mpr ⟨holds, sound⟩, rest⟩

theorem first_defect_unique (rules : List Rule) (defect other : ConfigError) (first : FirstDefect rules defect)
    (also : FirstDefect rules other) : defect = other := by
  induction rules with
  | nil => exact absurd first (first_defect_nil defect)
  | cons rule later ih =>
      rw [first_defect_cons] at first also
      by_cases holds : rule.holds
      · exact ih (first.resolve_left fun here => here.1 holds).2 (also.resolve_left fun here => here.1 holds).2
      · have here := (first.resolve_right fun later => holds later.1).2
        exact here.symm.trans (also.resolve_right fun later => holds later.1).2

theorem first_defect_broken (rules : List Rule) (defect : ConfigError) (first : FirstDefect rules defect) :
    ¬ ∀ rule ∈ rules, rule.holds := by
  obtain ⟨front, rule, back, rfl, _, broken, _⟩ := first
  exact fun sound => broken (sound rule (List.mem_append_right front List.mem_cons_self))

theorem judges_ok_iff {α : Type} (rules : List Rule) (outcome : Except ConfigError α) (judges : Judges rules outcome) :
    (∃ value, outcome = .ok value) ↔ ∀ rule ∈ rules, rule.holds := by
  cases outcome with
  | ok value => exact ⟨fun _ => judges, fun _ => ⟨value, rfl⟩⟩
  | error defect =>
      constructor
      · rintro ⟨_, ⟨⟩⟩
      · exact fun sound => absurd sound (first_defect_broken rules defect judges)

theorem judges_error_iff {α : Type} (rules : List Rule) (outcome : Except ConfigError α) (judges : Judges rules outcome)
    (defect : ConfigError) : outcome = .error defect ↔ FirstDefect rules defect := by
  cases outcome with
  | ok value =>
      constructor
      · exact nofun
      · exact fun first => absurd judges (first_defect_broken rules defect first)
  | error named =>
      constructor
      · rintro ⟨⟩
        exact judges
      · intro first
        rw [first_defect_unique rules named defect judges first]

theorem judges_cons {α : Type} (rule : Rule) (rules : List Rule) (outcome : Except ConfigError α) (holds : rule.holds)
    (judges : Judges rules outcome) : Judges (rule :: rules) outcome := by
  cases outcome with
  | ok value => exact List.forall_mem_cons.mpr ⟨holds, judges⟩
  | error defect => exact (first_defect_cons rule rules defect).mpr (.inr ⟨holds, judges⟩)

theorem judges_broken {α : Type} (rule : Rule) (rules : List Rule) (broken : ¬ rule.holds) :
    Judges (rule :: rules) (.error rule.defect : Except ConfigError α) :=
  (first_defect_cons rule rules rule.defect).mpr (.inl ⟨broken, rfl⟩)

theorem judges_after {α : Type} (front back : List Rule) (outcome : Except ConfigError α)
    (sound : ∀ rule ∈ front, rule.holds) (judges : Judges back outcome) : Judges (front ++ back) outcome := by
  induction front with
  | nil => exact judges
  | cons rule later ih =>
      obtain ⟨holds, rest⟩ := List.forall_mem_cons.mp sound
      exact judges_cons rule _ outcome holds (ih rest)

theorem judges_before {α : Type} (front back : List Rule) (defect : ConfigError) (first : FirstDefect front defect) :
    Judges (front ++ back) (.error defect : Except ConfigError α) := by
  obtain ⟨earlier, rule, later, rfl, rest⟩ := first
  exact ⟨earlier, rule, later ++ back, List.append_assoc earlier _ back, rest⟩

theorem judges_bind {α β : Type} (front back : List Rule) (first : Except ConfigError α)
    (next : α → Except ConfigError β) (judges : Judges front first)
    (after : ∀ value, first = .ok value → Judges back (next value)) : Judges (front ++ back) (first >>= next) := by
  cases first with
  | ok value => exact judges_after front back (next value) judges (after value rfl)
  | error defect => exact judges_before front back defect judges

theorem judges_made {α β : Type} (rules : List Rule) (first : Except ConfigError α) (make : α → β)
    (judges : Judges rules first) : Judges rules (first >>= fun value => .ok (make value)) := by
  cases first with
  | ok value => exact judges
  | error defect => exact judges

def Filled (value : Option String) : Prop := ∃ text, value = some text ∧ allBlank text = false

def Unblank (value : Option String) : Prop := ∀ text, value = some text → allBlank text = false

def Single (value : Option String) : Prop := ∀ text, value = some text → UrlTemplate.Single text

def Anchored (value : Option String) : Prop := ∀ text, value = some text → ¬ versionPlaceholder <+: text.toList

def Template (value : Option String) : Prop :=
  ∃ text, value = some text ∧ allBlank text = false ∧ UrlTemplate.Single text ∧ ¬ versionPlaceholder <+: text.toList

def filledRule (field : String) (value : Option String) : Rule := ⟨Filled value, .missingField field⟩

def unblankRule (field : String) (value : Option String) : Rule := ⟨Unblank value, .missingField field⟩

def templateRules (field : String) (value : Option String) : List Rule :=
  [filledRule field value,
   ⟨Single value, .invalidTemplate field TemplateFault.notOnePlaceholder.reason⟩,
   ⟨Anchored value, .invalidTemplate field TemplateFault.nothingBefore.reason⟩]

theorem required_value (field : String) (value : Option String) (text : String)
    (passed : required field value = .ok text) : value = some text := by
  unfold required at passed
  split at passed
  · split at passed
    · cases passed
    · cases passed
      rfl
  · cases passed

theorem judges_required (field : String) (value : Option String) :
    Judges [filledRule field value] (required field value) := by
  cases value with
  | none => exact judges_broken (filledRule field none) [] fun ⟨_, there, _⟩ => nomatch there
  | some text =>
      by_cases blank : allBlank text = true
      · rw [required, if_pos blank]
        refine judges_broken (filledRule field (some text)) [] ?_
        rintro ⟨_, ⟨⟩, shown⟩
        exact Bool.false_ne_true (shown.symm.trans blank)
      · rw [required, if_neg blank]
        exact List.forall_mem_singleton.mpr ⟨text, rfl, Bool.eq_false_iff.mpr blank⟩

theorem judges_defaulted (field default : String) (value : Option String) :
    Judges [unblankRule field value] (defaulted field default value) := by
  cases value with
  | none => exact List.forall_mem_singleton.mpr nofun
  | some text =>
      -- A setting that is there is checked like one that has to be.
      have same : Unblank (some text) ↔ Filled (some text) := by simp [Unblank, Filled]
      have judges := judges_required field (some text)
      rw [filledRule, ← propext same] at judges
      exact judges

-- The patterns of the templates that a draft names are all compiled.
def Compiles (compiler : PatternCompiler) (draft : OriginDraft) : Prop :=
  ∀ value ∈ [draft.rawUrl, draft.refUrl, draft.treeUrl], ∀ text, value = some text →
    ∀ template, UrlTemplate.cut text = .ok template → compiler template.before template.after = none

theorem judges_parsed (compiler : PatternCompiler) (field text : String)
    (compiles : ∀ template, UrlTemplate.cut text = .ok template → compiler template.before template.after = none) :
    Judges [⟨UrlTemplate.Single text, .invalidTemplate field TemplateFault.notOnePlaceholder.reason⟩,
      ⟨¬ versionPlaceholder <+: text.toList, .invalidTemplate field TemplateFault.nothingBefore.reason⟩]
      (parseTemplateWith compiler field text) := by
  have told := UrlTemplate.cut_told text
  rw [parseTemplateWith]
  cases made : UrlTemplate.cut text with
  | ok template =>
      rw [made] at told
      rw [(UrlTemplate.parse_with_ok_iff compiler text template).mpr ⟨made, compiles template made⟩]
      exact List.forall_mem_cons.mpr ⟨told.1, List.forall_mem_singleton.mpr told.2⟩
  | error fault =>
      rw [made] at told
      rw [UrlTemplate.parseWith, made]
      cases fault with
      | notOnePlaceholder => exact judges_broken ⟨_, _⟩ _ told
      | nothingBefore => exact judges_cons _ _ _ told.1 (judges_broken ⟨_, _⟩ [] (not_not_intro told.2))
      | notCompiled reason => exact told.elim

theorem judges_template (compiler : PatternCompiler) (field : String) (value : Option String)
    (compiles : ∀ text, value = some text →
      ∀ template, UrlTemplate.cut text = .ok template → compiler template.before template.after = none) :
    Judges (templateRules field value) (requiredTemplate compiler field value) := by
  have whole : requiredTemplate compiler field value = required field value >>= parseTemplateWith compiler field := by
    rw [requiredTemplate]
    cases required field value <;> rfl
  rw [whole]
  refine judges_bind [filledRule field value] _ _ _ (judges_required field value) fun text passed => ?_
  have there : value = some text := required_value field value text passed
  have judges := judges_parsed compiler field text (compiles text there)
  have single : UrlTemplate.Single text ↔ Single value := by simp [Single, there]
  have anchored : (¬ versionPlaceholder <+: text.toList) ↔ Anchored value := by simp [Anchored, there]
  rw [propext single, propext anchored] at judges
  exact judges

def testRules (file : String) : List String → List String → List Rule
  | _, [] => []
  | before, test :: later =>
      ⟨allBlank test = false, .emptyTestName file⟩ :: ⟨test ∉ before, .duplicateExclusion file test⟩ ::
        testRules file (test :: before) later

def fileRules : Option FileTable → List Rule
  | none => [⟨False, .missingField "files"⟩]
  | some table =>
      ⟨table.entries ≠ [], .emptyFileTable⟩ :: table.entries.flatMap fun entry => testRules entry.1 [] entry.2

def Named (value : Option String) : Prop := ∃ path, value = some path ∧ path ≠ ""

def Sourced (draft : OriginDraft) : Prop := Filled draft.version ∨ draft.tagsUrl ≠ none ∨ draft.repo ≠ none

def directoryRule (value : Option String) : Rule := ⟨Named value, .missingField "download_dir"⟩

def sourceRule (draft : OriginDraft) : Rule :=
  ⟨Sourced draft, .missingField "upstream.version, upstream.tags_url or upstream.repo"⟩

def originRules (draft : OriginDraft) : List Rule :=
  [filledRule "upstream.package" draft.package, filledRule "upstream.test_dir" draft.testDir, sourceRule draft,
    unblankRule "upstream.setup_module" draft.setupModule] ++
  (templateRules "upstream.raw_url" draft.rawUrl ++
    (templateRules "upstream.ref_url" draft.refUrl ++ templateRules "upstream.tree_url" draft.treeUrl))

def harnessRules (draft : HarnessDraft) : List Rule :=
  [filledRule "harness.header" draft.header, unblankRule "harness.hook_function" draft.hookFunction,
    unblankRule "harness.version_file" draft.versionFile]

def rules (draft : ConfigDraft) : List Rule :=
  fileRules draft.files ++ ([directoryRule draft.downloadDir, filledRule "custom_setup_module" draft.setupModule] ++
    (originRules draft.origin ++ harnessRules draft.harness))

def verdict : Option ConfigError → Except ConfigError Unit
  | none => .ok ()
  | some defect => .error defect

theorem judges_tests (file : String) (before tests : List String) :
    Judges (testRules file before tests) (verdict (exclusionDefect? file before tests)) := by
  fun_induction exclusionDefect? file before tests with
  | case1 => exact List.forall_mem_nil _
  | case2 before test later blank => exact judges_broken ⟨_, _⟩ _ (Bool.eq_false_iff.mp · blank)
  | case3 before test later shown again =>
      refine judges_cons _ _ _ (Bool.eq_false_iff.mpr shown) (judges_broken ⟨_, _⟩ _ ?_)
      exact not_not_intro (List.contains_iff_mem.mp again)
  | case4 before test later shown fresh ih =>
      refine judges_cons _ _ _ (Bool.eq_false_iff.mpr shown) (judges_cons _ _ _ ?_ ih)
      exact fun listed => fresh (List.contains_iff_mem.mpr listed)

theorem judges_entries (entries : List (String × List String)) :
    Judges (entries.flatMap fun entry => testRules entry.1 [] entry.2)
      (verdict (entries.findSome? fun (file, tests) => exclusionDefect? file [] tests)) := by
  induction entries with
  | nil => exact List.forall_mem_nil _
  | cons entry rest ih =>
      obtain ⟨file, tests⟩ := entry
      have first := judges_tests file [] tests
      rw [List.flatMap_cons, List.findSome?_cons]
      cases found : exclusionDefect? file [] tests with
      | none =>
          rw [found] at first
          simpa only [found] using judges_after _ _ _ first ih
      | some defect =>
          rw [found] at first
          simpa only [found, verdict] using judges_before _ _ defect first

theorem judges_files (files : Option FileTable) : Judges (fileRules files) (checkFiles files) := by
  cases files with
  | none => exact judges_broken ⟨False, _⟩ [] id
  | some table =>
      rw [checkFiles, tableDefect?]
      by_cases none : table.entries = []
      · rw [if_pos (List.isEmpty_iff.mpr none)]
        exact judges_broken ⟨_, _⟩ _ (not_not_intro none)
      · rw [if_neg (fun empty => none (List.isEmpty_iff.mp empty))]
        have judges := judges_cons ⟨table.entries ≠ [], .emptyFileTable⟩ _ _ none (judges_entries table.entries)
        revert judges
        cases table.entries.findSome? fun (file, tests) => exclusionDefect? file [] tests with
        | none => exact id
        | some defect => exact id

theorem judges_directory (value : Option String) : Judges [directoryRule value] (checkDirectory value) := by
  cases value with
  | none => exact judges_broken (directoryRule none) [] fun ⟨_, there, _⟩ => nomatch there
  | some path =>
      by_cases empty : path.isEmpty = true
      · rw [checkDirectory, if_pos empty]
        refine judges_broken (directoryRule (some path)) [] ?_
        rintro ⟨_, ⟨⟩, filled⟩
        exact filled (String.isEmpty_iff.mp empty)
      · rw [checkDirectory, if_neg empty]
        exact List.forall_mem_singleton.mpr ⟨path, rfl, fun same => empty (String.isEmpty_iff.mpr same)⟩

theorem pinned_filled (draft : OriginDraft) : (pinned? draft).isNone = false ↔ Filled draft.version := by
  cases version : draft.version with
  | none => simp [pinned?, version, Filled]
  | some text => cases blank : allBlank text <;> simp [pinned?, version, Filled, blank]

theorem judges_source (draft : OriginDraft) : Judges [sourceRule draft] (checkVersionSource draft) := by
  have listed : (tagsUrl? draft).isNone = false ↔ draft.tagsUrl ≠ none ∨ draft.repo ≠ none := by
    cases tags : draft.tagsUrl <;> cases repo : draft.repo <;> simp [tagsUrl?, tags, repo]
  have sourced : Sourced draft ↔ ¬ ((pinned? draft).isNone && (tagsUrl? draft).isNone) = true := by
    rw [Sourced, ← pinned_filled, ← listed, Bool.not_eq_true, Bool.and_eq_false_iff]
  by_cases unsourced : ((pinned? draft).isNone && (tagsUrl? draft).isNone) = true
  · rw [checkVersionSource, if_pos unsourced]
    exact judges_broken (sourceRule draft) [] fun named => sourced.mp named unsourced
  · rw [checkVersionSource, if_neg unsourced]
    exact List.forall_mem_singleton.mpr (sourced.mpr unsourced)

theorem judges_origin (compiler : PatternCompiler) (draft : OriginDraft) (compiles : Compiles compiler draft) :
    Judges (originRules draft) (checkOrigin compiler draft) := by
  simp only [Compiles, List.forall_mem_cons, List.not_mem_nil, false_implies, implies_true, and_true] at compiles
  obtain ⟨raw, ref, tree⟩ := compiles
  refine judges_bind [_] _ _ _ (judges_required _ draft.package) fun package _ => ?_
  refine judges_bind [_] _ _ _ (judges_required _ draft.testDir) fun testDir _ => ?_
  refine judges_bind [_] _ _ _ (judges_source draft) fun _ _ => ?_
  refine judges_bind [_] _ _ _ (judges_defaulted _ _ draft.setupModule) fun setupModule _ => ?_
  refine judges_bind _ _ _ _ (judges_template compiler _ draft.rawUrl raw) fun rawUrl _ => ?_
  refine judges_bind _ _ _ _ (judges_template compiler _ draft.refUrl ref) fun refUrl _ => ?_
  exact judges_made _ _ _ (judges_template compiler _ draft.treeUrl tree)

theorem judges_harness (package : String) (draft : HarnessDraft) :
    Judges (harnessRules draft) (checkHarness package draft) := by
  refine judges_bind [_] _ _ _ (judges_required _ draft.header) fun header _ => ?_
  refine judges_bind [_] _ _ _ (judges_defaulted _ _ draft.hookFunction) fun hookFunction _ => ?_
  exact judges_made _ _ _ (judges_defaulted _ _ draft.versionFile)

theorem judges_check (compiler : PatternCompiler) (draft : ConfigDraft) (compiles : Compiles compiler draft.origin) :
    Judges (rules draft) (checkWith compiler draft) := by
  refine judges_bind _ _ _ _ (judges_files draft.files) fun files _ => ?_
  refine judges_bind [_] _ _ _ (judges_directory draft.downloadDir) fun downloadDir _ => ?_
  refine judges_bind [_] _ _ _ (judges_required _ draft.setupModule) fun setupModule _ => ?_
  refine judges_bind _ _ _ _ (judges_origin compiler draft.origin compiles) fun origin _ => ?_
  exact judges_made _ _ _ (judges_harness origin.package draft.harness)

structure Usable (draft : ConfigDraft) : Prop where
  files : ∃ table, draft.files = some table ∧ table.entries ≠ [] ∧
    ∀ entry ∈ table.entries, (∀ test ∈ entry.2, allBlank test = false) ∧ entry.2.Nodup
  downloadDir : Named draft.downloadDir
  setupModule : Filled draft.setupModule
  package : Filled draft.origin.package
  testDir : Filled draft.origin.testDir
  source : Sourced draft.origin
  originModule : Unblank draft.origin.setupModule
  rawUrl : Template draft.origin.rawUrl
  refUrl : Template draft.origin.refUrl
  treeUrl : Template draft.origin.treeUrl
  header : Filled draft.harness.header
  hookFunction : Unblank draft.harness.hookFunction
  versionFile : Unblank draft.harness.versionFile

theorem tests_hold_iff (file : String) (before tests : List String) :
    (∀ rule ∈ testRules file before tests, rule.holds) ↔
      (∀ test ∈ tests, allBlank test = false) ∧ tests.Nodup ∧ ∀ test ∈ tests, test ∉ before := by
  induction tests generalizing before with
  | nil => simp [testRules]
  | cons test later ih =>
      rw [testRules, List.forall_mem_cons, List.forall_mem_cons, ih, List.forall_mem_cons, List.nodup_cons,
        List.forall_mem_cons]
      constructor
      · rintro ⟨shown, fresh, laterShown, laterOnce, apart⟩
        refine ⟨⟨shown, laterShown⟩, ⟨fun again => apart test again List.mem_cons_self, laterOnce⟩, fresh, ?_⟩
        exact fun other listed earlier => apart other listed (List.mem_cons_of_mem test earlier)
      · rintro ⟨⟨shown, laterShown⟩, ⟨once, laterOnce⟩, fresh, laterFresh⟩
        refine ⟨shown, fresh, laterShown, laterOnce, fun other listed earlier => ?_⟩
        rcases List.mem_cons.mp earlier with rfl | before
        · exact once listed
        · exact laterFresh other listed before

theorem files_hold_iff (files : Option FileTable) :
    (∀ rule ∈ fileRules files, rule.holds) ↔ ∃ table, files = some table ∧ table.entries ≠ [] ∧
      ∀ entry ∈ table.entries, (∀ test ∈ entry.2, allBlank test = false) ∧ entry.2.Nodup := by
  cases files with
  | none => simp [fileRules]
  | some table =>
      have entry : ∀ entry : String × List String, (∀ rule ∈ testRules entry.1 [] entry.2, rule.holds) ↔
          (∀ test ∈ entry.2, allBlank test = false) ∧ entry.2.Nodup := by
        intro entry
        simp [tests_hold_iff]
      simp only [fileRules, List.forall_mem_cons, List.forall_mem_flatMap, entry, Option.some.injEq, exists_eq_left']

theorem template_hold_iff (field : String) (value : Option String) :
    (∀ rule ∈ templateRules field value, rule.holds) ↔ Template value := by
  cases value with
  | none => simp [templateRules, filledRule, Filled, Template]
  | some text => simp [templateRules, filledRule, Filled, Template, Single, Anchored]

theorem usable_iff (draft : ConfigDraft) : (∀ rule ∈ rules draft, rule.holds) ↔ Usable draft := by
  simp only [rules, originRules, harnessRules, filledRule, unblankRule, directoryRule, sourceRule,
    List.forall_mem_append, List.forall_mem_cons, List.not_mem_nil, false_implies, implies_true, and_true,
    files_hold_iff, template_hold_iff]
  constructor
  · rintro ⟨files, ⟨directory, custom⟩, ⟨⟨package, testDir, source, origin⟩, raw, ref, tree⟩, header, hook, version⟩
    exact ⟨files, directory, custom, package, testDir, source, origin, raw, ref, tree, header, hook, version⟩
  · rintro ⟨files, directory, custom, package, testDir, source, origin, raw, ref, tree, header, hook, version⟩
    exact ⟨files, ⟨directory, custom⟩, ⟨⟨package, testDir, source, origin⟩, raw, ref, tree⟩, header, hook, version⟩

theorem required_template_ok_iff (compiler : PatternCompiler) (field : String) (value : Option String)
    (t : UrlTemplate) : requiredTemplate compiler field value = .ok t ↔
      requiredTemplate unboundedCompiler field value = .ok t ∧ compiler t.before t.after = none := by
  have parsed : ∀ compiler text, parseTemplateWith compiler field text = .ok t ↔
      UrlTemplate.cut text = .ok t ∧ compiler t.before t.after = none := by
    intro compiler text
    rw [← UrlTemplate.parse_with_ok_iff, parseTemplateWith]
    cases UrlTemplate.parseWith compiler text with
    | ok made =>
        constructor
        all_goals
          rintro ⟨⟩
          rfl
    | error fault => constructor <;> rintro ⟨⟩
  unfold requiredTemplate
  cases required field value with
  | error defect =>
      constructor
      · rintro ⟨⟩
      · rintro ⟨⟨⟩, _⟩
  | ok text => simp only [parsed, unboundedCompiler, and_true]

theorem check_origin_ok_iff (compiler : PatternCompiler) (draft : OriginDraft) (origin : OriginSettings) :
    checkOrigin compiler draft = .ok origin ↔ checkOrigin unboundedCompiler draft = .ok origin ∧
      ∀ t ∈ [origin.rawUrl, origin.refUrl, origin.treeUrl], compiler t.before t.after = none := by
  simp only [checkOrigin, except_bind_ok, required_template_ok_iff compiler, List.forall_mem_cons, List.not_mem_nil,
    false_implies, implies_true, and_true]
  constructor
  · rintro ⟨package, packageRead, testDir, testDirRead, _, sourced, setup, setupRead, raw, ⟨rawRead, rawCompiled⟩,
      ref, ⟨refRead, refCompiled⟩, tree, ⟨treeRead, treeCompiled⟩, made⟩
    cases made
    exact ⟨⟨package, packageRead, testDir, testDirRead, (), sourced, setup, setupRead, raw, rawRead, ref, refRead, tree,
      treeRead, rfl⟩, rawCompiled, refCompiled, treeCompiled⟩
  · rintro ⟨⟨package, packageRead, testDir, testDirRead, _, sourced, setup, setupRead, raw, rawRead, ref, refRead, tree,
      treeRead, made⟩, compiled⟩
    cases made
    obtain ⟨rawCompiled, refCompiled, treeCompiled⟩ := compiled
    exact ⟨package, packageRead, testDir, testDirRead, (), sourced, setup, setupRead, raw, ⟨rawRead, rawCompiled⟩, ref,
      ⟨refRead, refCompiled⟩, tree, ⟨treeRead, treeCompiled⟩, rfl⟩

theorem check_with_ok_iff (compiler : PatternCompiler) (draft : ConfigDraft) (config : Config) :
    checkWith compiler draft = .ok config ↔ check draft = .ok config ∧
      ∀ t ∈ [config.origin.rawUrl, config.origin.refUrl, config.origin.treeUrl], compiler t.before t.after = none := by
  simp only [check, checkWith, except_bind_ok, check_origin_ok_iff compiler]
  constructor
  · rintro ⟨files, filesRead, directory, directoryRead, custom, customRead, origin, ⟨originRead, compiled⟩, harness,
      harnessRead, made⟩
    cases made
    exact ⟨⟨files, filesRead, directory, directoryRead, custom, customRead, origin, originRead, harness, harnessRead,
      rfl⟩, compiled⟩
  · rintro ⟨⟨files, filesRead, directory, directoryRead, custom, customRead, origin, originRead, harness, harnessRead,
      made⟩, compiled⟩
    cases made
    exact ⟨files, filesRead, directory, directoryRead, custom, customRead, origin, ⟨originRead, compiled⟩, harness,
      harnessRead, rfl⟩

theorem checked_files (draft : ConfigDraft) (config : Config) (checked : check draft = .ok config) :
    draft.files = some config.files := by
  have files := (check_parts draft config checked).1
  unfold checkFiles at files
  split at files
  · cases files
  · rename_i table there
    split at files
    · cases files
    · exact there.trans (congrArg some (Except.ok.inj files))

def boundedCompiler (bound : Nat) : PatternCompiler := fun before after =>
  if before.length + after.length ≤ bound then none else some "Compiled regex exceeds size limit of 10485760 bytes."

def sampleDraft : ConfigDraft where
  downloadDir := some "new/../out"
  setupModule := some "./s.js"
  origin := {
    package := some "p"
    testDir := some "t"
    version := some "1"
    rawUrl := some "http://h/\x7bversion\x7d/"
    refUrl := some "http://r/\x7bversion\x7d/"
    treeUrl := some "http://g/\x7bversion\x7d" }
  harness := { header := some "// H", hookFunction := some "hook", versionFile := some "_v" }
  files := some sample.files

example : checkWith (boundedCompiler 9) sampleDraft = .error (.invalidTemplate "upstream.raw_url"
    "Compiled regex exceeds size limit of 10485760 bytes.") := by rfl

theorem resolve_sourced (config : Config)
    (sourced : config.origin.version = none → ∃ listing, config.origin.tagsUrl = some listing) (attempts : Nat)
    (asked : Option String) (link : Link) : (resolve config attempts asked link).1 ≠ .error .noTagSource := by
  cases version : asked.or config.origin.version with
  | some version' =>
      simp only [resolve, version]
      exact nofun
  | none =>
      obtain ⟨listing, source⟩ := sourced (Option.or_eq_none_iff.mp version).2
      simp only [resolve, version, resolveLatest, source]
      intro missing
      split at missing
      · cases missing
      · split at missing <;> cases missing

/-- Settings whose patterns compile make a configuration exactly when they can be used, and else the first rule that
they break is named. A configuration keeps the files and their tests as they were listed, and never lacks a source for
its version. -/
theorem check_names_first_defect (compiler : PatternCompiler) (draft : ConfigDraft)
    (compiles : Compiles compiler draft.origin) :
    ((∃ config, checkWith compiler draft = .ok config) ↔ Usable draft) ∧
      (∀ defect, checkWith compiler draft = .error defect ↔ FirstDefect (rules draft) defect) ∧
      ∀ config, checkWith compiler draft = .ok config → (∃ front, config.origin.testDir.toList = front ++ ['/']) ∧
        draft.files = some config.files ∧
        ∀ attempts asked link, (resolve config attempts asked link).1 ≠ .error .noTagSource := by
  have judges := judges_check compiler draft compiles
  refine ⟨?_, judges_error_iff _ _ judges, fun config passed => ?_⟩
  · rw [judges_ok_iff _ _ judges, usable_iff]
  · have checked := ((check_with_ok_iff compiler draft config).mp passed).1
    refine ⟨checked_test_dir draft config checked, checked_files draft config checked, ?_⟩
    exact resolve_sourced config (checked_listing draft config checked)

theorem bounded_compiles (bound : Nat) (draft : OriginDraft)
    (short : ∀ value ∈ [draft.rawUrl, draft.refUrl, draft.treeUrl], ∀ text ∈ value, text.length ≤ bound) :
    Compiles (boundedCompiler bound) draft := by
  intro value named text there t made
  have fits := short value named text there
  have whole := congrArg String.length (UrlTemplate.cut_text text t made)
  simp only [UrlTemplate.text, String.length_ofList, List.length_append] at whole
  exact if_pos (by omega)

def blankDraft : ConfigDraft where
  files := some ⟨[("a.ts", ["x", " ", "x"])], by decide⟩

theorem sample_draft_checked : Compiles (boundedCompiler 300000) sampleDraft.origin ∧
    checkWith (boundedCompiler 300000) sampleDraft = .ok sample ∧ Usable sampleDraft ∧
    (resolve sample 1 none ⟨⟨false, []⟩, [], []⟩).1 ≠ .error .noTagSource ∧
    Compiles (boundedCompiler 300000) blankDraft.origin ∧
    checkWith (boundedCompiler 300000) blankDraft = .error (.emptyTestName "a.ts") ∧
    FirstDefect (rules blankDraft) (.emptyTestName "a.ts") := by
  have kept : (checkWith (boundedCompiler 300000) sampleDraft).toOption = some sample := by decide +kernel
  have made := except_of_option _ _ kept
  have compiles : Compiles (boundedCompiler 300000) sampleDraft.origin :=
    bounded_compiles 300000 sampleDraft.origin (by decide +kernel)
  have unnamed : Compiles (boundedCompiler 300000) blankDraft.origin :=
    bounded_compiles 300000 blankDraft.origin (by decide +kernel)
  obtain ⟨usable, _, accepted⟩ := check_names_first_defect (boundedCompiler 300000) sampleDraft compiles
  obtain ⟨_, named, _⟩ := check_names_first_defect (boundedCompiler 300000) blankDraft unnamed
  exact ⟨compiles, made, usable.mp ⟨sample, made⟩, (accepted sample made).2.2 1 none _, unnamed, rfl, (named _).mp rfl⟩

end SuiteSync.Config
