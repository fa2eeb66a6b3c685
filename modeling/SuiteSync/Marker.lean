import SuiteSync.Config.Basic
import SuiteSync.Text.Blank
import SuiteSync.Text.Lines

set_option autoImplicit false

namespace SuiteSync

open Text

structure Marker where
  label : String
  version : String
  treeUrl : String
deriving DecidableEq, Repr

namespace Marker

def ofVersion (config : Config) (version : String) : Marker :=
  ⟨config.harness.versionLabel, version, config.origin.treeUrl.render version⟩

def separator : List Char := ": ".toList

def render (marker : Marker) : String := marker.label ++ ": " ++ marker.version ++ "\n" ++ marker.treeUrl

def parse? (text : String) : Option Marker :=
  match lines text.toList with
  | first :: second :: _ =>
      match splitFirst? separator first with
      | some (label, version) =>
          if (trim version).isEmpty then none
          else some ⟨String.ofList label, String.ofList (trim version), String.ofList (trim second)⟩
      | none => none
  | _ => none

end Marker

end SuiteSync
