import SuiteSync.Decimal.Binary64

set_option autoImplicit false

namespace SuiteSync.Toml

inductive Kind where
  | header
  | implied
  | dotted
  | inline
deriving DecidableEq, Repr

inductive Value where
  | string (text : String)
  | integer (value : Int)
  | float (value : Binary64)
  | boolean (value : Bool)
  | datetime (text : String)
  | array (elements : List Value)
  | table (kind : Kind) (members : List (String × Value))
  | tables (elements : List (List (String × Value)))
deriving Repr

abbrev Members := List (String × Value)

def alter (key : String) (change : Option Value → Option Value) : Members → Option Members
  | [] => (change none).map fun value => [(key, value)]
  | (k, value) :: rest =>
      if k = key then (change (some value)).map fun new => (k, new) :: rest
      else (alter key change rest).map fun later => (k, value) :: later

def alterLast {α : Type} (change : α → Option α) : List α → Option (List α)
  | [] => none
  | [x] => (change x).map fun new => [new]
  | x :: rest => (alterLast change rest).map fun later => x :: later

def within (change : Members → Option Members) : List String → Members → Option Members
  | [], members => change members
  | key :: path, members =>
      alter key (fun
        | none => (within change path []).map (.table .implied)
        | some (.table .inline _) => none
        | some (.table kind inner) => (within change path inner).map (.table kind)
        | some (.tables elements) => (alterLast (within change path) elements).map .tables
        | some _ => none) members

def openTable (path : List String) (key : String) : Members → Option Members :=
  within (alter key fun
    | none => some (.table .header [])
    | some (.table .implied inner) => some (.table .header inner)
    | some _ => none) path

def openElement (path : List String) (key : String) : Members → Option Members :=
  within (alter key fun
    | none => some (.tables [[]])
    | some (.tables elements) => some (.tables (elements ++ [[]]))
    | some _ => none) path

def assign (value : Value) : List String → Members → Option Members
  | [], _ => none
  | [key], members => alter key (fun old => if old.isNone then some value else none) members
  | key :: next :: path, members =>
      alter key (fun
        | none => (assign value (next :: path) []).map (.table .dotted)
        | some (.table .dotted inner) => (assign value (next :: path) inner).map (.table .dotted)
        | some (.table .implied inner) =>
            if path.isEmpty then none else (assign value (next :: path) inner).map (.table .implied)
        | some (.tables elements) =>
            if path.isEmpty then none else (alterLast (assign value (next :: path)) elements).map .tables
        | some _ => none) members

end SuiteSync.Toml
