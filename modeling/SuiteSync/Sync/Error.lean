import SuiteSync.Adaptation.Error
import SuiteSync.Config.Draft
import SuiteSync.Disk.Operations
import SuiteSync.Version.Resolution

set_option autoImplicit false

namespace SuiteSync

inductive SyncError where
  | config (error : ConfigError)
  | adapt (error : AdaptError)
  | fetch (error : FetchError)
  | resolve (error : ResolveError)
  | disk (error : DiskError)
deriving DecidableEq, Repr

namespace SyncError

def message : SyncError → String
  | .config error => error.message
  | .adapt error => error.message
  | .fetch error => error.message
  | .resolve error => error.message
  | .disk error => "Filesystem error: " ++ error.message

def isMismatch : SyncError → Bool
  | .config _ | .adapt _ => true
  | .fetch error | .resolve (.tags error) => error.isMismatch
  | .resolve _ => true
  | .disk _ => false

def cause? : SyncError → Option String
  | .resolve (.tags error) => some error.message
  | .disk error => some error.message
  | _ => none

end SyncError

end SuiteSync
