import SuiteSync.Config.Load

set_option autoImplicit false

namespace SuiteSync

theorem except_bind_ok {ε α β : Type} (first : Except ε α) (next : α → Except ε β) (result : β) :
    first >>= next = .ok result ↔ ∃ value, first = .ok value ∧ next value = .ok result := by
  cases first with
  | error e => exact ⟨nofun, fun ⟨_, same, _⟩ => nomatch same⟩
  | ok value =>
      constructor
      · exact fun done => ⟨value, rfl, done⟩
      · rintro ⟨_, ⟨⟩, done⟩
        exact done

theorem except_of_option {ε α : Type} (result : Except ε α) (value : α) (kept : result.toOption = some value) :
    result = .ok value := by
  cases result with
  | error e => cases kept
  | ok other => exact congrArg Except.ok (Option.some.inj kept)

deriving instance DecidableEq for FileTable, OriginSettings, HarnessSettings, Config

namespace Config

def Accepted (config : Config) : Prop := ∃ path text, ofText path text = .ok config

theorem accepted_checked (config : Config) (accepted : config.Accepted) : ∃ draft, check draft = .ok config := by
  obtain ⟨path, text, read⟩ := accepted
  unfold ofText at read
  split at read
  · cases read
  · split at read
    · cases read
    · exact ⟨_, read⟩

theorem check_parts (draft : ConfigDraft) (config : Config) (checked : check draft = .ok config) :
    checkFiles draft.files = .ok config.files ∧ checkDirectory draft.downloadDir = .ok config.downloadDir ∧
      checkOrigin unboundedCompiler draft.origin = .ok config.origin ∧
      checkHarness config.origin.package draft.harness = .ok config.harness := by
  simp only [check, checkWith, except_bind_ok] at checked
  obtain ⟨files, filesRead, directory, directoryRead, _, _, origin, originRead, harness, harnessRead, made⟩ := checked
  cases made
  exact ⟨filesRead, directoryRead, originRead, harnessRead⟩

theorem end_slash_ends (directory : String) : ∃ front, (endSlash directory).toList = front ++ ['/'] := by
  unfold endSlash
  split
  · rename_i last
    obtain ⟨front, same⟩ := List.getLast?_eq_some_iff.mp last
    exact ⟨front, same⟩
  · exact ⟨directory.toList, by simp [String.toList_append]⟩

theorem origin_parts (compiler : PatternCompiler) (draft : OriginDraft) (origin : OriginSettings)
    (checked : checkOrigin compiler draft = .ok origin) :
    (∃ testDir, origin.testDir = endSlash testDir) ∧ checkVersionSource draft = .ok () ∧
      origin.version = pinned? draft ∧ origin.tagsUrl = tagsUrl? draft := by
  simp only [checkOrigin, except_bind_ok] at checked
  obtain ⟨_, _, testDir, _, _, sourced, _, _, _, _, _, _, _, _, made⟩ := checked
  cases made
  exact ⟨⟨testDir, rfl⟩, sourced, rfl, rfl⟩

theorem checked_test_dir (draft : ConfigDraft) (config : Config) (checked : check draft = .ok config) :
    ∃ front, config.origin.testDir.toList = front ++ ['/'] := by
  obtain ⟨⟨testDir, same⟩, _⟩ := origin_parts _ draft.origin config.origin (check_parts draft config checked).2.2.1
  rw [same]
  exact end_slash_ends testDir

theorem checked_listing (draft : ConfigDraft) (config : Config) (checked : check draft = .ok config)
    (unpinned : config.origin.version = none) : ∃ listing, config.origin.tagsUrl = some listing := by
  obtain ⟨_, sourced, version, tags⟩ := origin_parts _ draft.origin config.origin (check_parts draft config checked).2.2.1
  rw [unpinned] at version
  rw [checkVersionSource, ← version] at sourced
  rw [tags]
  cases listed : tagsUrl? draft.origin with
  | none =>
      rw [listed] at sourced
      cases sourced
  | some listing => exact ⟨listing, rfl⟩

theorem accepted_test_dir (config : Config) (accepted : config.Accepted) :
    ∃ front, config.origin.testDir.toList = front ++ ['/'] := by
  obtain ⟨draft, checked⟩ := accepted_checked config accepted
  exact checked_test_dir draft config checked

theorem accepted_directory (config : Config) (accepted : config.Accepted) : config.downloadDir ≠ "" := by
  obtain ⟨draft, checked⟩ := accepted_checked config accepted
  have directory := (check_parts draft config checked).2.1
  unfold checkDirectory at directory
  split at directory
  · split at directory
    · cases directory
    · rename_i path filled
      cases directory
      exact fun same => filled (String.isEmpty_iff.mpr same)
  · cases directory

theorem accepted_files (config : Config) (accepted : config.Accepted) : config.files.names ≠ [] := by
  obtain ⟨draft, checked⟩ := accepted_checked config accepted
  have files := (check_parts draft config checked).1
  unfold checkFiles at files
  split at files
  · cases files
  · rename_i table _
    split at files
    · cases files
    · rename_i sound
      cases files
      intro none
      have empty : config.files.entries.isEmpty = true := List.isEmpty_iff.mpr (List.map_eq_nil_iff.mp none)
      rw [tableDefect?, if_pos empty] at sound
      cases sound

theorem accepted_of_text (config : Config) (text : String)
    (read : (ofText "testsync.toml" text).toOption = some config) : config.Accepted :=
  ⟨"testsync.toml", text, except_of_option _ _ read⟩

def sample : Config where
  downloadDir := "new/../out"
  setupModule := "./s.js"
  origin := {
    package := "p"
    testDir := "t/"
    setupModule := "./test-setup.js"
    version := some "1"
    rawUrl := ⟨"http://h/".toList, "/".toList, by decide, by decide, by decide⟩
    refUrl := ⟨"http://r/".toList, "/".toList, by decide, by decide, by decide⟩
    treeUrl := ⟨"http://g/".toList, [], by decide, by decide, by decide⟩
    tagsUrl := none }
  harness := {
    header := "// H"
    hookFunction := "hook"
    versionFile := "_v"
    versionLabel := "p version" }
  files := ⟨[("a.ts", [])], by decide⟩

def sampleText : String :=
  "download_dir='new/../out'\ncustom_setup_module='./s.js'\n[upstream]\npackage='p'\nversion='1'\ntest_dir='t'\n" ++
  "raw_url='http://h/\x7bversion\x7d/'\nref_url='http://r/\x7bversion\x7d/'\ntree_url='http://g/\x7bversion\x7d'\n" ++
  "[harness]\nheader='// H'\nhook_function='hook'\nversion_file='_v'\n[files]\n'a.ts'=[]\n"

theorem sample_accepted : sample.Accepted := accepted_of_text sample sampleText (by decide +kernel)

def loose : Config where
  downloadDir := "out"
  setupModule := "./s.js"
  origin := sample.origin
  harness := sample.harness
  files := ⟨[("../a.ts", []), ("_v", [])], by decide⟩

def looseText : String :=
  "download_dir='out'\ncustom_setup_module='./s.js'\n[upstream]\npackage='p'\nversion='1'\ntest_dir='t'\n" ++
  "raw_url='http://h/\x7bversion\x7d/'\nref_url='http://r/\x7bversion\x7d/'\ntree_url='http://g/\x7bversion\x7d'\n" ++
  "[harness]\nheader='// H'\nhook_function='hook'\nversion_file='_v'\n[files]\n'../a.ts'=[]\n_v=[]\n"

theorem loose_accepted : loose.Accepted := accepted_of_text loose looseText (by decide +kernel)

end Config

end SuiteSync
