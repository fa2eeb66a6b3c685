import SuiteSync.Config.Basic
import SuiteSync.Text.Blank

set_option autoImplicit false

namespace SuiteSync

open Text

structure OriginDraft where
  package : Option String := none
  repo : Option String := none
  testDir : Option String := none
  setupModule : Option String := none
  version : Option String := none
  rawUrl : Option String := none
  refUrl : Option String := none
  treeUrl : Option String := none
  tagsUrl : Option String := none
deriving Repr

structure HarnessDraft where
  header : Option String := none
  hookFunction : Option String := none
  versionFile : Option String := none
  versionLabel : Option String := none
deriving Repr

structure ConfigDraft where
  downloadDir : Option String := none
  setupModule : Option String := none
  origin : OriginDraft := {}
  harness : HarnessDraft := {}
  files : Option FileTable := none
deriving Repr

inductive ConfigError where
  | notFound (path : String)
  | unreadable (path reason : String)
  | malformed (path reason : String)
  | missingField (field : String)
  | emptyFileTable
  | duplicateExclusion (file test : String)
  | emptyTestName (file : String)
  | invalidTemplate (field reason : String)
deriving DecidableEq, Repr

def ConfigError.message : ConfigError → String
  | .notFound path => "Config file not found at '" ++ path ++ "'"
  | .unreadable path reason => "Failed to read config file '" ++ path ++ "': " ++ reason
  | .malformed path reason => "Failed to parse config file '" ++ path ++ "': " ++ reason
  | .missingField field => "Config file doesn't provide '" ++ field ++ "'"
  | .emptyFileTable => "Config file lists no files under 'files'"
  | .duplicateExclusion file test => "Test '" ++ test ++ "' is excluded more than once for " ++ file
  | .emptyTestName file => "Blank test name excluded for " ++ file
  | .invalidTemplate field reason => "Invalid URL template for '" ++ field ++ "': " ++ reason

namespace Config

def required (field : String) : Option String → Except ConfigError String
  | some value => if allBlank value then .error (.missingField field) else .ok value
  | none => .error (.missingField field)

def defaulted (field default : String) : Option String → Except ConfigError String
  | none => .ok default
  | some value => required field (some value)

def parseTemplateWith (compiler : PatternCompiler) (field text : String) : Except ConfigError UrlTemplate :=
  (UrlTemplate.parseWith compiler text).mapError fun fault => .invalidTemplate field fault.reason

def parseTemplate (field text : String) : Except ConfigError UrlTemplate :=
  parseTemplateWith unboundedCompiler field text

def requiredTemplate (compiler : PatternCompiler) (field : String) (value : Option String) :
    Except ConfigError UrlTemplate :=
  match required field value with
  | .error e => .error e
  | .ok text => parseTemplateWith compiler field text

def exclusionDefect? (file : String) : List String → List String → Option ConfigError
  | _, [] => none
  | seen, test :: later =>
      if allBlank test then some (.emptyTestName file)
      else if seen.contains test then some (.duplicateExclusion file test)
      else exclusionDefect? file (test :: seen) later

def tableDefect? (files : FileTable) : Option ConfigError :=
  if files.entries.isEmpty then some .emptyFileTable
  else files.entries.findSome? fun (file, tests) => exclusionDefect? file [] tests

def checkFiles : Option FileTable → Except ConfigError FileTable
  | none => .error (.missingField "files")
  | some files =>
      match tableDefect? files with
      | some defect => .error defect
      | none => .ok files

def checkDirectory : Option String → Except ConfigError String
  | some path => if path.isEmpty then .error (.missingField "download_dir") else .ok path
  | none => .error (.missingField "download_dir")

def endSlash (directory : String) : String :=
  if directory.toList.getLast? = some '/' then directory else directory ++ "/"

def hostedTagsUrl (repo : String) : String := "https://api.github.com/repos/" ++ repo ++ "/tags?per_page=100"

def defaultSetupModule : String := "./test-setup.js"

def defaultHookFunction : String := "reportMochaContext"

def pinned? (draft : OriginDraft) : Option String := draft.version.filter fun version => !allBlank version

def tagsUrl? (draft : OriginDraft) : Option String := draft.tagsUrl.or (draft.repo.map hostedTagsUrl)

def checkVersionSource (draft : OriginDraft) : Except ConfigError Unit :=
  if (pinned? draft).isNone && (tagsUrl? draft).isNone then
    .error (.missingField "upstream.version, upstream.tags_url or upstream.repo")
  else .ok ()

def checkOrigin (compiler : PatternCompiler) (draft : OriginDraft) : Except ConfigError OriginSettings := do
  let package ← required "upstream.package" draft.package
  let testDir ← required "upstream.test_dir" draft.testDir
  checkVersionSource draft
  let setupModule ← defaulted "upstream.setup_module" defaultSetupModule draft.setupModule
  let rawUrl ← requiredTemplate compiler "upstream.raw_url" draft.rawUrl
  let refUrl ← requiredTemplate compiler "upstream.ref_url" draft.refUrl
  let treeUrl ← requiredTemplate compiler "upstream.tree_url" draft.treeUrl
  return ⟨package, endSlash testDir, setupModule, pinned? draft, rawUrl, refUrl, treeUrl, tagsUrl? draft⟩

def checkHarness (package : String) (draft : HarnessDraft) : Except ConfigError HarnessSettings := do
  let header ← required "harness.header" draft.header
  let hookFunction ← defaulted "harness.hook_function" defaultHookFunction draft.hookFunction
  let versionFile ← defaulted "harness.version_file" ("_" ++ package ++ "-version.txt") draft.versionFile
  return ⟨header, hookFunction, versionFile, draft.versionLabel.getD (package ++ " version")⟩

def checkWith (compiler : PatternCompiler) (draft : ConfigDraft) : Except ConfigError Config := do
  let files ← checkFiles draft.files
  let downloadDir ← checkDirectory draft.downloadDir
  let setupModule ← required "custom_setup_module" draft.setupModule
  let origin ← checkOrigin compiler draft.origin
  let harness ← checkHarness origin.package draft.harness
  return ⟨downloadDir, setupModule, origin, harness, files⟩

def check (draft : ConfigDraft) : Except ConfigError Config := checkWith unboundedCompiler draft

end Config

end SuiteSync
