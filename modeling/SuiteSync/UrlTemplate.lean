import SuiteSync.Text.Search

set_option autoImplicit false

namespace SuiteSync

open Text

def versionPlaceholder : List Char := "\x7bversion\x7d".toList

structure UrlTemplate where
  before : List Char
  after : List Char
  anchored : before ≠ []
  first : splitFirst? versionPlaceholder (before ++ versionPlaceholder ++ after) = some (before, after)
  once : splitFirst? versionPlaceholder after = none
deriving DecidableEq, Repr

inductive TemplateFault where
  | notOnePlaceholder
  | nothingBefore
  | notCompiled (reason : String)
deriving DecidableEq, Repr

def TemplateFault.reason : TemplateFault → String
  | .notOnePlaceholder => "expected exactly one \x7bversion\x7d placeholder"
  | .nothingBefore => "\x7bversion\x7d cannot start the template"
  | .notCompiled reason => reason

-- Says why the pattern between two texts does not compile, if it does not: the library that compiles it bounds the
-- size of the result.
def PatternCompiler : Type := List Char → List Char → Option String

def unboundedCompiler : PatternCompiler := fun _ _ => none

namespace UrlTemplate

def cut (text : String) : Except TemplateFault UrlTemplate :=
  match cut : splitFirst? versionPlaceholder text.toList with
  | none => .error .notOnePlaceholder
  | some (before, after) =>
      if once : splitFirst? versionPlaceholder after = none then
        if anchored : before ≠ [] then
          .ok ⟨before, after, anchored, (split_first_join _ _ _ _ cut) ▸ cut, once⟩
        else .error .nothingBefore
      else .error .notOnePlaceholder

def compiled (compiler : PatternCompiler) (t : UrlTemplate) : Except TemplateFault UrlTemplate :=
  match compiler t.before t.after with
  | none => .ok t
  | some reason => .error (.notCompiled reason)

def parseWith (compiler : PatternCompiler) (text : String) : Except TemplateFault UrlTemplate :=
  cut text >>= compiled compiler

def parse (text : String) : Except TemplateFault UrlTemplate := parseWith unboundedCompiler text

def text (t : UrlTemplate) : String := String.ofList (t.before ++ versionPlaceholder ++ t.after)

def render (t : UrlTemplate) (version : String) : String :=
  String.ofList (t.before ++ version.toList ++ t.after)

def isDelimiter (c : Char) : Bool := c == '/' || c == '?' || c == '#'

def segmentBefore (after : List Char) : List Char → Option (List Char)
  | [] => none
  | c :: cs =>
      if isDelimiter c then none
      else
        match segmentBefore after cs with
        | some segment => some (c :: segment)
        | none => if after.isPrefixOf cs then some [c] else none

def version? (t : UrlTemplate) (url : String) : Option String :=
  ((strip t.before url.toList).bind (segmentBefore t.after)).map String.ofList

theorem cut_text (text : String) (t : UrlTemplate) (made : cut text = .ok t) : t.text = text := by
  unfold cut at made
  split at made
  · cases made
  · split at made
    · split at made
      · cases made
        rename_i before after cut _ _
        have joined := split_first_join _ _ _ _ cut
        simp [UrlTemplate.text, ← joined]
      · cases made
    · cases made

theorem parse_with_ok_iff (compiler : PatternCompiler) (text : String) (t : UrlTemplate) :
    parseWith compiler text = .ok t ↔ cut text = .ok t ∧ compiler t.before t.after = none := by
  rw [parseWith]
  cases cut text with
  | error fault => exact ⟨nofun, nofun⟩
  | ok made =>
      change compiled compiler made = .ok t ↔ _
      cases answer : compiler made.before made.after with
      | none =>
          simp only [compiled, answer, Except.ok.injEq, iff_self_and]
          rintro rfl
          exact answer
      | some reason =>
          simp only [compiled, answer, Except.ok.injEq, reduceCtorEq, false_iff]
          rintro ⟨rfl, accepted⟩
          cases answer.symm.trans accepted

theorem parse_cut (text : String) : parse text = cut text := by
  rw [parse, parseWith]
  cases cut text <;> rfl

theorem parse_text (text : String) (t : UrlTemplate) (parsed : parse text = .ok t) : t.text = text :=
  cut_text text t (parse_cut text ▸ parsed)

end UrlTemplate

end SuiteSync
