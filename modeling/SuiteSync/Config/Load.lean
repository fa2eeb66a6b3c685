import SuiteSync.Config.Shape
import SuiteSync.Disk.Operations
import SuiteSync.Journal
import SuiteSync.Toml.Document

set_option autoImplicit false

namespace SuiteSync.Config

def syntaxReason : String := "<syntax error>"

def ofText (path text : String) : Except ConfigError Config :=
  match Toml.parse? text with
  | none => .error (.malformed path syntaxReason)
  | some root =>
      match Shape.draft root with
      | .error e => .error (.malformed path e.reason)
      | .ok draft => check draft

def placed (path : String) (config : Config) : Config :=
  match Path.isAbsolute config.downloadDir, Path.parent? path with
  | false, some directory => { config with downloadDir := Path.join directory config.downloadDir }
  | _, _ => config

def load (disk : Disk) (path : String) : Except ConfigError Config :=
  if !disk.pathExists path then .error (.notFound path)
  else
    match disk.textAt path with
    | .error e => .error (.unreadable path e.reason)
    | .ok text => (ofText path text).map (placed path)

def loadEvents (path : String) : Except ConfigError Config → List Event
  | .error _ => []
  | .ok config => [.configLoaded path config.files.size]

end SuiteSync.Config
