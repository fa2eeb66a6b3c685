import SuiteSync.Text.Search

set_option autoImplicit false

namespace SuiteSync.Adaptation

open Text

def fromKeyword : List Char := "from ".toList

def importKeyword : List Char := "import ".toList

def isSpecifierMark (c : Char) : Bool := c == '\x27' || c == '\x22'

def isParentPath (c : Char) : Bool := c == '.' || c == '/'

def parentClause? (text : List Char) : Option (Char × Nat) :=
  match strip fromKeyword text with
  | some (mark :: '.' :: '.' :: rest) =>
      let path := rest.takeWhile isParentPath
      if isSpecifierMark mark ∧ (rest.drop path.length).head? = some mark then
        some (mark, fromKeyword.length + path.length + 4)
      else none
  | _ => none

def clause (mark : Char) (specifier : List Char) : List Char := fromKeyword ++ mark :: specifier ++ [mark]

def normalizeImports (package text : List Char) : List Char :=
  substitute (fun rest => (parentClause? rest).map fun (mark, size) => (clause mark package, size)) 0 text

def hookImport (hook module : List Char) : List Char :=
  "import \x7b ".toList ++ hook ++ " \x7d from '".toList ++ module ++ "';\n".toList

def importHook (hook module text : List Char) : List Char :=
  match splitFirst? importKeyword text with
  | none => text
  | some (before, after) => before ++ hookImport hook module ++ importKeyword ++ after

end SuiteSync.Adaptation
