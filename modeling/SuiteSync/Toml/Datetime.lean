import SuiteSync.Toml.Scan

set_option autoImplicit false

namespace SuiteSync.Toml

def fixed? (size : Nat) : Reader Nat := fun text =>
  let digits := text.take size
  if digits.length = size ∧ digits.all Char.isDigit then
    some (digits.foldl (fun n c => n * 10 + (c.toNat - '0'.toNat)) 0, text.drop size)
  else none

def pair? (low high : Nat) : Reader Nat := fun text =>
  (fixed? 2 text).filter fun (n, _) => low ≤ n && n ≤ high

def mark? (mark : Char) : List Char → Option (List Char)
  | c :: rest => if c = mark then some rest else none
  | [] => none

def padded (width n : Nat) : String :=
  let digits := Nat.toDigits 10 n
  String.ofList (List.replicate (width - digits.length) '0' ++ digits)

def isLeapYear (year : Nat) : Bool := year % 4 == 0 && (year % 100 != 0 || year % 400 == 0)

def daysInMonth (year : Nat) : Nat → Nat
  | 2 => if isLeapYear year then 29 else 28
  | 4 | 6 | 9 | 11 => 30
  | _ => 31

def date? : Reader String := fun text => do
  let (year, rest) ← fixed? 4 text
  let rest ← mark? '-' rest
  let (month, rest) ← pair? 1 12 rest
  let rest ← mark? '-' rest
  let (day, rest) ← pair? 1 (daysInMonth year month) rest
  return (padded 4 year ++ "-" ++ padded 2 month ++ "-" ++ padded 2 day, rest)

def secondFraction : List Char → String × List Char
  | '.' :: c :: rest =>
      if c.isDigit then
        let digits := ((c :: rest).takeWhile Char.isDigit).take 9
        let kept := (digits.reverse.dropWhile (· == '0')).reverse
        (if kept.isEmpty then "" else String.ofList ('.' :: kept), (c :: rest).dropWhile Char.isDigit)
      else ("", '.' :: c :: rest)
  | text => ("", text)

def time? : Reader String := fun text => do
  let (hour, rest) ← pair? 0 23 text
  let rest ← mark? ':' rest
  let (minute, rest) ← pair? 0 59 rest
  let rest ← mark? ':' rest
  let (second, rest) ← pair? 0 60 rest
  let (part, rest) := secondFraction rest
  return (padded 2 hour ++ ":" ++ padded 2 minute ++ ":" ++ padded 2 second ++ part, rest)

def offset? : Reader String
  | 'Z' :: rest | 'z' :: rest => some ("Z", rest)
  | c :: rest =>
      if c = '+' ∨ c = '-' then do
        let (hour, rest) ← pair? 0 23 rest
        let rest ← mark? ':' rest
        let (minute, rest) ← pair? 0 59 rest
        let sign := if c = '-' ∧ 0 < hour + minute then "-" else "+"
        return (sign ++ padded 2 hour ++ ":" ++ padded 2 minute, rest)
      else none
  | [] => none

def timeOfDay? : Reader String
  | c :: rest =>
      if c = 'T' ∨ c = 't' ∨ c = ' ' then
        (time? rest).map fun (time, rest) =>
          match offset? rest with
          | some (offset, rest) => ("T" ++ time ++ offset, rest)
          | none => ("T" ++ time, rest)
      else none
  | [] => none

def datetime? : Reader String := fun text =>
  match date? text with
  | some (date, rest) =>
      match timeOfDay? rest with
      | some (time, rest) => some (date ++ time, rest)
      | none => some (date, rest)
  | none => time? text

end SuiteSync.Toml
