import SuiteSync.Adaptation.Error
import SuiteSync.Text.Alphanumeric
import SuiteSync.Text.Blank
import SuiteSync.Text.Search

set_option autoImplicit false

namespace SuiteSync.Adaptation

open Text

def testKeyword : List Char := "it".toList

def skipMark : List Char := ".skip".toList

def isIdentifierPart (c : Char) : Bool := isAlphanumeric c || c == '_' || c == '$'

def isQuote (c : Char) : Bool := c == '\x27' || c == '\x22' || c == '\x60'

def standsAlone : List Char → Bool
  | [] => true
  | c :: _ => !isIdentifierPart c

@[simp] theorem stands_alone_nil : standsAlone [] = true := rfl

@[simp] theorem stands_alone_cons (c : Char) (above : List Char) : standsAlone (c :: above) = !isIdentifierPart c := rfl

-- Searches a text, nearest character first, for the start of a test that stands alone: answers what precedes that
-- start and, in reading order, the gap between it and where the search began.
def nearestTest? : List Char → List Char → Option (List Char × List Char)
  | [], _ => none
  | '(' :: 't' :: 'i' :: above, gap =>
      if standsAlone above then some (above, gap) else nearestTest? above ('i' :: 't' :: '(' :: gap)
  | c :: above, gap => nearestTest? above (c :: gap)

def leadsToName (gap : List Char) : Bool := !gap.isEmpty && gap.all fun c => isBlank c || isQuote c

def closesName (gap after : List Char) : Bool :=
  match gap.reverse.find? isQuote with
  | none => true
  | some quote => after.head? == some quote

def declaration? (place : Occurrence) : Option (List Char × List Char) :=
  match nearestTest? place.before [] with
  | none => none
  | some (above, gap) => if leadsToName gap && closesName gap place.after then some (above, gap) else none

def skipAt? (name : List Char) (place : Occurrence) : Option (List Char) :=
  (declaration? place).map fun (above, gap) =>
    above.reverse ++ testKeyword ++ skipMark ++ '(' :: gap ++ name ++ place.after

def skipTest (file test : String) (text : List Char) : Except AdaptError (List Char) :=
  match occurrences test.toList text with
  | [] => .error (.testNotFound test file)
  | places =>
      match places.findSome? (skipAt? test.toList) with
      | none => .error (.testStartNotFound test file)
      | some edited => .ok edited

theorem skip_test_error (file test : String) (text : List Char) (error : AdaptError)
    (failed : skipTest file test text = .error error) :
    error = .testNotFound test file ∨ error = .testStartNotFound test file := by
  rw [skipTest] at failed
  split at failed
  · cases failed
    exact .inl rfl
  · split at failed
    · cases failed
      exact .inr rfl
    · cases failed

def skipTests (file : String) : List String → List Char → Except AdaptError (List Char)
  | [], text => .ok text
  | test :: later, text =>
      match skipTest file test text with
      | .error e => .error e
      | .ok edited => skipTests file later edited

end SuiteSync.Adaptation
