import SuiteSync.Adaptation.Exclusions
import SuiteSync.Adaptation.Imports
import SuiteSync.Adaptation.Suites
import SuiteSync.Config.Basic
import SuiteSync.Journal

set_option autoImplicit false

namespace SuiteSync

open Text

namespace Adaptation

def header (config : Config) (url file : String) : Except AdaptError String :=
  match config.origin.rawUrl.version? url with
  | none => .error (.versionNotInUrl url config.origin.rawUrl.text)
  | some version =>
      .ok (config.harness.header ++ "\n// " ++ config.origin.refUrl.render version ++ config.origin.testDir ++
        file ++ "\n\n")

def redirected (config : Config) (source : List Char) : List Char :=
  replaceAll config.origin.setupModule.toList config.setupModule.toList
    (normalizeImports config.origin.package.toList source)

def imported (config : Config) (source : List Char) : List Char :=
  importHook config.harness.hookFunction.toList config.setupModule.toList (redirected config source)

def body (config : Config) (file : String) (source : List Char) (excluded : List String) :
    Except AdaptError (List Char) :=
  match hookSuites config.harness.hookFunction.toList file (imported config source) with
  | .error e => .error e
  | .ok hooked => skipTests file excluded hooked

end Adaptation

open Adaptation

def adapt (config : Config) (url file source : String) (excluded : List String) : Except AdaptError String :=
  match header config url file with
  | .error e => .error e
  | .ok head =>
      match body config file source.toList excluded with
      | .error e => .error e
      | .ok text => .ok (head ++ String.ofList text)

namespace Adaptation

def skipEvents (file : String) : List String → List Char → List Event
  | [], _ => []
  | test :: later, text =>
      match skipTest file test text with
      | .error _ => []
      | .ok edited => .skipping file test :: skipEvents file later edited

def events (config : Config) (url file source : String) (excluded : List String) : List Event :=
  match header config url file with
  | .error _ => []
  | .ok _ =>
      let hook := config.harness.hookFunction.toList
      let text := redirected config source.toList
      let missing := if (splitFirst? importKeyword text).isNone then [Event.importMissing] else []
      let text := imported config source.toList
      match countHooks hook file text, hookSuites hook file text with
      | some (found, hooked), .ok settled =>
          let finished :=
            match skipTests file excluded settled with
            | .error _ => []
            | .ok final =>
                [Event.adapted file source.utf8ByteSize (String.ofList final).utf8ByteSize excluded.length]
          missing ++ .suitesHooked file found hooked :: skipEvents file excluded settled ++ finished
      | _, _ => missing

end Adaptation

end SuiteSync
