import SuiteSync.Config.Draft
import SuiteSync.Decimal.Shortest
import SuiteSync.Text.Quoted
import SuiteSync.Toml.Value

set_option autoImplicit false

namespace SuiteSync

open Toml

inductive ShapeError where
  | unknownField (field : String) (known : List String)
  | wrongType (found expected : String)
  | tooShort (length : Nat) (expected : String)
deriving DecidableEq, Repr

def ShapeError.reason : ShapeError → String
  | .unknownField field known =>
      "unknown field \x60" ++ field ++ "\x60, expected one of " ++
        ", ".intercalate (known.map fun name => "\x60" ++ name ++ "\x60")
  | .wrongType found expected => "invalid type: " ++ found ++ ", expected " ++ expected
  | .tooShort length expected => "invalid length " ++ toString length ++ ", expected " ++ expected

namespace Shape

def describe : Value → String
  | .string text => "string " ++ Text.quoted text
  | .integer value => "integer \x60" ++ toString value ++ "\x60"
  | .float value => "floating point \x60" ++ value.text ++ "\x60"
  | .boolean value => "boolean \x60" ++ toString value ++ "\x60"
  | .datetime _ | .table _ _ => "map"
  | .array _ | .tables _ => "sequence"

def text (expected : String) : Value → Except ShapeError String
  | .string text => .ok text
  | other => .error (.wrongType (describe other) expected)

def datetimeKey : String := "$__toml_private_datetime"

def members? : Value → Option Members
  | .table _ members => some members
  | .datetime text => some [(datetimeKey, .string text)]
  | _ => none

def elements? : Value → Option (List Value)
  | .array elements => some elements
  | .tables elements => some (elements.map (.table .header))
  | _ => none

def texts (value : Value) : Except ShapeError (List String) :=
  match elements? value with
  | some elements => elements.mapM (text "a string")
  | none => .error (.wrongType (describe value) "a sequence")

def files (value : Value) : Except ShapeError FileTable :=
  match members? value with
  | some members => do
      let entries ← members.mapM fun (name, tests) => do return (name, ← texts tests)
      return FileTable.ofList entries
  | none => .error (.wrongType (describe value) "a map")

structure Group (α : Type) where
  name : String
  fields : List (String × (α → String → α))

namespace Group

variable {α : Type}

def setMembers (group : Group α) : α → Members → Except ShapeError α
  | draft, [] => .ok draft
  | draft, (key, value) :: later =>
      match group.fields.lookup key with
      | none => .error (.unknownField key (group.fields.map Prod.fst))
      | some set => do
          let value ← text "a string" value
          setMembers group (set draft value) later

def setElements (group : Group α) : Nat → α → List (String × (α → String → α)) → List Value → Except ShapeError α
  | _, draft, [], _ => .ok draft
  | n, _, _ :: _, [] =>
      .error (.tooShort n ("struct " ++ group.name ++ " with " ++ toString group.fields.length ++ " elements"))
  | n, draft, (_, set) :: fields, value :: later => do
      let value ← text "a string" value
      setElements group (n + 1) (set draft value) fields later

def read (group : Group α) (empty : α) (value : Value) : Except ShapeError α :=
  match members? value, elements? value with
  | some members, _ => group.setMembers empty members
  | none, some elements => group.setElements 0 empty group.fields elements
  | none, none => .error (.wrongType (describe value) ("struct " ++ group.name))

end Group

def origin : Group OriginDraft :=
  ⟨"RawUpstream",
    [("package", fun d v => { d with package := some v }),
     ("repo", fun d v => { d with repo := some v }),
     ("test_dir", fun d v => { d with testDir := some v }),
     ("setup_module", fun d v => { d with setupModule := some v }),
     ("version", fun d v => { d with version := some v }),
     ("raw_url", fun d v => { d with rawUrl := some v }),
     ("ref_url", fun d v => { d with refUrl := some v }),
     ("tree_url", fun d v => { d with treeUrl := some v }),
     ("tags_url", fun d v => { d with tagsUrl := some v })]⟩

def harness : Group HarnessDraft :=
  ⟨"RawHarness",
    [("header", fun d v => { d with header := some v }),
     ("hook_function", fun d v => { d with hookFunction := some v }),
     ("version_file", fun d v => { d with versionFile := some v }),
     ("version_label", fun d v => { d with versionLabel := some v })]⟩

def rootFields : List String := ["download_dir", "custom_setup_module", "upstream", "harness", "files"]

def setRoot (draft : ConfigDraft) (key : String) (value : Value) : Except ShapeError ConfigDraft :=
  match key with
  | "download_dir" => do return { draft with downloadDir := some (← text "path string" value) }
  | "custom_setup_module" => do return { draft with setupModule := some (← text "a string" value) }
  | "upstream" => do return { draft with origin := ← origin.read {} value }
  | "harness" => do return { draft with harness := ← harness.read {} value }
  | "files" => do return { draft with files := some (← files value) }
  | _ => .error (.unknownField key rootFields)

def draft (root : Members) : Except ShapeError ConfigDraft :=
  root.foldlM (fun draft (key, value) => setRoot draft key value) {}

end Shape

end SuiteSync
