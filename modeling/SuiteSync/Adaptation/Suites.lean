import SuiteSync.Adaptation.Error
import SuiteSync.Text.Lines
import SuiteSync.Text.Search

set_option autoImplicit false

namespace SuiteSync.Adaptation

open Text

def suiteStart : List Char := "describe(".toList

def bodyOpening : List Char := "\x7b\n".toList

def separatesSuite (c : Char) : Bool := c == ' ' || c == '\t' || c == '\n'

-- Cuts a text before each suite declaration. The flag says whether a declaration may stand at the start of the
-- text; a piece starts with its declaration.
def cutSuites : Bool → List Char → List Char × List (List Char)
  | _, [] => ([], [])
  | separated, c :: rest =>
      let (lead, pieces) := cutSuites (separatesSuite c) rest
      if separated && suiteStart.isPrefixOf (c :: rest) then ([], (c :: lead) :: pieces)
      else (c :: lead, pieces)

theorem cut_suites_join (separated : Bool) (text : List Char) :
    (cutSuites separated text).1 ++ (cutSuites separated text).2.flatten = text := by
  induction text generalizing separated with
  | nil => rfl
  | cons c rest ih =>
      have whole := ih (separatesSuite c)
      simp only [cutSuites]
      split <;> simp_all

def isIndent (c : Char) : Bool := c == ' ' || c == '\t'

def lastIndent (before : List Char) : List Char := (lastLine before).takeWhile isIndent

def hookBlock (indent hook : List Char) : List Char :=
  indent ++ "  beforeEach(function () \x7b\n".toList ++
  indent ++ "    ".toList ++ hook ++ "(this);\n".toList ++
  indent ++ "  \x7d);\n\n".toList

-- Puts the block into each piece, right after the opening of the first body, unless the text there starts with it
-- already. The pieces are settled from the last to the first, so a block is compared with the text as it will be
-- and the last suite without a body is the one reported.
def hookPieces (hook : List Char) (file : String) :
    List Char → List (List Char) → Except AdaptError (List (List Char))
  | _, [] => .ok []
  | before, piece :: later =>
      match hookPieces hook file (before ++ piece) later with
      | .error e => .error e
      | .ok settled =>
          match splitFirst? bodyOpening piece with
          | none => .error (.suiteBodyNotFound file (1 + lineFeeds before))
          | some (declaration, body) =>
              let block := hookBlock (lastIndent before) hook
              if block.isPrefixOf (body ++ settled.flatten) then .ok (piece :: settled)
              else .ok ((declaration ++ bodyOpening ++ block ++ body) :: settled)

def hookSuites (hook : List Char) (file : String) (text : List Char) : Except AdaptError (List Char) :=
  let (lead, pieces) := cutSuites false text
  match hookPieces hook file lead pieces with
  | .error e => .error e
  | .ok settled => .ok (lead ++ settled.flatten)

theorem hook_suites_pieces (hook : List Char) (file : String) (text : List Char) :
    hookSuites hook file text = (hookPieces hook file (cutSuites false text).1 (cutSuites false text).2).map fun settled =>
      (cutSuites false text).1 ++ settled.flatten := by
  rw [hookSuites]
  obtain ⟨lead, pieces⟩ := cutSuites false text
  simp only
  cases hookPieces hook file lead pieces <;> rfl

def countHooks (hook : List Char) (file : String) (text : List Char) : Option (Nat × Nat) :=
  let (lead, pieces) := cutSuites false text
  match hookPieces hook file lead pieces with
  | .error _ => none
  | .ok settled => some (pieces.length, (pieces.zip settled).countP fun (old, new) => old != new)

end SuiteSync.Adaptation
