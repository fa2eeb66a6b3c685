set_option autoImplicit false

namespace SuiteSync

structure Version where
  major : Nat
  minor : Nat
  patch : Nat
  pre : List String
  build : List String
deriving DecidableEq, Repr

namespace Version

def numberBound : Nat := 0x10000000000000000

def digitsValue (digits : List Char) : Nat := digits.foldl (fun value c => value * 10 + (c.toNat - '0'.toNat)) 0

def number? (digits : List Char) : Option Nat :=
  match digits with
  | [] => none
  | '0' :: _ :: _ => none
  | _ => if digits.all Char.isDigit && digitsValue digits < numberBound then some (digitsValue digits) else none

def isNumeric (identifier : String) : Bool := identifier.toList.all Char.isDigit

def isIdentifierChar (c : Char) : Bool := c.isAlphanum || c == '-'

def dotted : List Char → List (List Char)
  | [] => [[]]
  | '.' :: rest => [] :: dotted rest
  | c :: rest =>
      match dotted rest with
      | [] => [[c]]
      | piece :: later => (c :: piece) :: later

def leadingZero : List Char → Bool
  | '0' :: _ :: _ => true
  | _ => false

def identifiers? (zeros : Bool) (text : List Char) : Option (List String) :=
  let pieces := dotted text
  if pieces.all fun piece => !piece.isEmpty && piece.all isIdentifierChar &&
      (zeros || !(piece.all Char.isDigit && leadingZero piece)) then
    some (pieces.map String.ofList)
  else none

def cut (stop : Char → Bool) (text : List Char) : List Char × List Char :=
  (text.takeWhile fun c => !stop c, text.dropWhile fun c => !stop c)

def core? (text : List Char) : Option (Nat × Nat × Nat) :=
  match (dotted text).map number? with
  | [some major, some minor, some patch] => some (major, minor, patch)
  | _ => none

def tail? (zeros : Bool) : List Char → Option (List String)
  | [] => some []
  | _ :: rest => identifiers? zeros rest

def parse? (text : String) : Option Version :=
  let (front, build) := cut (· == '+') text.toList
  let (core, pre) := cut (· == '-') front
  match core? core, tail? false pre, tail? true build with
  | some (major, minor, patch), some pre, some build => some ⟨major, minor, patch, pre, build⟩
  | _, _, _ => none

def compareLists (order : String → String → Ordering) : List String → List String → Ordering
  | [], [] => .eq
  | [], _ :: _ => .lt
  | _ :: _, [] => .gt
  | a :: as, b :: bs => (order a b).then (compareLists order as bs)

def value (identifier : String) : Nat := digitsValue identifier.toList

def compareIdentifiers (a b : String) : Ordering :=
  match isNumeric a, isNumeric b with
  | true, false => .lt
  | false, true => .gt
  | false, false => compare a b
  | true, true => (compare (value a) (value b)).then (compare a.length b.length)

def comparePre : List String → List String → Ordering
  | [], [] => .eq
  | [], _ :: _ => .gt
  | _ :: _, [] => .lt
  | a, b => compareLists compareIdentifiers a b

def order (a b : Version) : Ordering :=
  (compare a.major b.major).then <| (compare a.minor b.minor).then <| (compare a.patch b.patch).then <|
    (comparePre a.pre b.pre).then (compareLists compareIdentifiers a.build b.build)

instance : Ord Version := ⟨order⟩

def isRelease (version : Version) : Bool := version.pre.isEmpty

end Version

end SuiteSync
