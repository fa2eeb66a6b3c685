set_option autoImplicit false

namespace SuiteSync

inductive Level where
  | error
  | warn
  | info
  | debug
deriving DecidableEq, Repr

namespace Level

def rank : Level → Nat
  | .error => 0
  | .warn => 1
  | .info => 2
  | .debug => 3

def name : Level → String
  | .error => "ERROR"
  | .warn => "WARN"
  | .info => "INFO"
  | .debug => "DEBUG"

end Level

inductive Event where
  | configLoaded (path : String) (files : Nat)
  | configChecked (path : String)
  | versionPinned (version : String)
  | listingTags (url : String)
  | latestTag (tag : String)
  | syncStarted (files : Nat) (version : String)
  | fetching (url : String)
  | requested (url : String)
  | retrying (cause : String) (milliseconds : Nat)
  | wrote (path : String)
  | importMissing
  | suitesHooked (file : String) (found hooked : Nat)
  | skipping (file test : String)
  | adapted (file : String) (bytesBefore bytesAfter skipped : Nat)
  | notListed (file : String)
  | verifying (directory version : String)
  | checked (file status : String)
deriving DecidableEq, Repr

namespace Event

def level : Event → Level
  | .retrying .. | .notListed .. => .warn
  | .configChecked .. | .listingTags .. | .latestTag .. | .syncStarted .. | .fetching .. | .wrote ..
  | .verifying .. => .info
  | _ => .debug

def target : Event → String
  | .configLoaded .. => "testsync::core::config"
  | .configChecked .. => "testsync::cli::commands::check"
  | .notListed .. => "testsync::cli::commands::rewrite"
  | .versionPinned .. | .listingTags .. | .latestTag .. => "testsync::core::resolver"
  | .syncStarted .. | .fetching .. | .wrote .. => "testsync::core::sync"
  | .requested .. | .retrying .. => "testsync::infra::download"
  | .importMissing | .suitesHooked .. | .skipping .. | .adapted .. => "testsync::core::rewrite"
  | .verifying .. | .checked .. => "testsync::core::verify"

def message : Event → String
  | .configLoaded path files => "Loaded config from " ++ path ++ " (" ++ toString files ++ " files)"
  | .configChecked path => "Checked config at " ++ path
  | .versionPinned version => "Using pinned upstream version " ++ version
  | .listingTags url => "Looking up latest upstream tag at " ++ url
  | .latestTag tag => "Latest upstream tag is " ++ tag
  | .syncStarted files version => "Syncing " ++ toString files ++ " file(s) from upstream " ++ version
  | .fetching url => "Fetching " ++ url
  | .requested url => "GET " ++ url
  | .retrying cause milliseconds => cause ++ "; retrying in " ++ toString milliseconds ++ "ms"
  | .wrote path => "Wrote " ++ path
  | .importMissing => "No import statement found, hook import not added"
  | .suitesHooked file found hooked =>
      file ++ ": " ++ toString found ++ " suite(s) found, " ++ toString hooked ++ " hook(s) injected"
  | .skipping file test => file ++ ": skipping '" ++ test ++ "'"
  | .adapted file bytesBefore bytesAfter skipped =>
      "Rewrote " ++ file ++ ": " ++ toString bytesBefore ++ " -> " ++ toString bytesAfter ++ " bytes, " ++
        toString skipped ++ " test(s) skipped"
  | .notListed file => "'" ++ file ++ "' is not listed in the config; no tests will be skipped"
  | .verifying directory version => "Verifying " ++ directory ++ " against upstream " ++ version
  | .checked file status => file ++ ": " ++ status

def line (event : Event) : String := event.level.name ++ " " ++ event.target ++ ": " ++ event.message

end Event

def logLines (threshold : Level) (events : List Event) : List String :=
  (events.filter fun event => event.level.rank ≤ threshold.rank).map Event.line

end SuiteSync
