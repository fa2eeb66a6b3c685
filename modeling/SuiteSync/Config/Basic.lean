import SuiteSync.FileTable
import SuiteSync.UrlTemplate

set_option autoImplicit false

namespace SuiteSync

structure OriginSettings where
  package : String
  testDir : String
  setupModule : String
  version : Option String
  rawUrl : UrlTemplate
  refUrl : UrlTemplate
  treeUrl : UrlTemplate
  tagsUrl : Option String
deriving Repr

structure HarnessSettings where
  header : String
  hookFunction : String
  versionFile : String
  versionLabel : String
deriving Repr

structure Config where
  downloadDir : String
  setupModule : String
  origin : OriginSettings
  harness : HarnessSettings
  files : FileTable
deriving Repr

end SuiteSync
