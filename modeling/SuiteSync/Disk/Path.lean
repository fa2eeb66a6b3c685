set_option autoImplicit false

namespace SuiteSync.Path

def isAbsolute (path : String) : Bool := path.toList.head? == some '/'

def start (working : List String) (path : String) : List String := if isAbsolute path then [] else working

def join (directory path : String) : String :=
  if isAbsolute path then path
  else if directory.isEmpty || directory.toList.getLast? == some '/' then directory ++ path
  else directory ++ "/" ++ path

def pieces : List Char → List (List Char)
  | [] => [[]]
  | '/' :: rest => [] :: pieces rest
  | c :: rest =>
      match pieces rest with
      | [] => [[c]]
      | piece :: later => (c :: piece) :: later

def segments (path : String) : List String := (pieces path.toList).map String.ofList

inductive Component where
  | root
  | here
  | up
  | name (text : String)
deriving DecidableEq, Repr

def innerComponent? : String → Option Component
  | "" => none
  | "." => none
  | ".." => some .up
  | text => some (.name text)

def components (path : String) : List Component :=
  match segments path with
  | [""] => []
  | "" :: rest => .root :: rest.filterMap innerComponent?
  | "." :: rest => .here :: rest.filterMap innerComponent?
  | all => all.filterMap innerComponent?

def trimEnd : List Char → List Char
  | '/' :: c :: rest => trimEnd (c :: rest)
  | '.' :: '/' :: rest => trimEnd ('/' :: rest)
  | path => path

def parentReversed? (path : List Char) : Option (List Char) :=
  match trimEnd path with
  | [] => none
  | '/' :: _ => none
  | c :: rest => some (trimEnd ((c :: rest).dropWhile (· != '/')))

def parent? (path : String) : Option String :=
  (parentReversed? path.toList.reverse).map fun reversed => String.ofList reversed.reverse

def fileName? (path : String) : Option String :=
  match (components path).getLast? with
  | some (.name text) => some text
  | _ => none

theorem trim_end_length (path : List Char) : (trimEnd path).length ≤ path.length := by
  fun_induction trimEnd path with
  | case1 c rest ih => exact Nat.le_succ_of_le ih
  | case2 rest ih => exact Nat.le_succ_of_le ih
  | case3 => exact Nat.le_refl _

theorem parent_reversed_length (path above : List Char) (parent : parentReversed? path = some above) :
    above.length < path.length := by
  unfold parentReversed? at parent
  have bound := trim_end_length path
  split at parent
  · cases parent
  · cases parent
  · rename_i c rest different trimmed
    cases parent
    have notSlash : (c != '/') = true := bne_iff_ne.mpr different
    rw [List.dropWhile_cons, if_pos notSlash]
    have shorter := trim_end_length (rest.dropWhile (· != '/'))
    have dropped := (List.dropWhile_sublist (p := (· != '/')) (l := rest)).length_le
    simp only [trimmed, List.length_cons] at bound
    omega

def above (path : List Char) : List (List Char) :=
  match _shorter : parentReversed? path with
  | none => []
  | some up => if up.isEmpty || up = ['/'] then [] else up :: above up
termination_by path.length
decreasing_by exact parent_reversed_length path up ‹_›

def parents (path : String) : List String :=
  (above path.toList.reverse).map fun reversed => String.ofList reversed.reverse

end SuiteSync.Path
