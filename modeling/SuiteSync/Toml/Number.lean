import SuiteSync.Toml.Text
import SuiteSync.Toml.Value

set_option autoImplicit false

namespace SuiteSync.Toml

def isDigits (isDigit : Char → Bool) : List Char → Bool
  | [] => false
  | [c] => isDigit c
  | c :: '_' :: rest => isDigit c && isDigits isDigit rest
  | c :: rest => isDigit c && isDigits isDigit rest

def digits? (isDigit : Char → Bool) : Reader (List Char) := fun text =>
  let accepts := fun c => isDigit c || c == '_'
  let run := text.takeWhile accepts
  if isDigits isDigit run then some (run.filter (· != '_'), text.dropWhile accepts) else none

def naturalValue (base : Nat) (digits : List Char) : Nat :=
  digits.foldl (fun n c => n * base + (hexValue? c).getD 0) 0

def integerBound : Nat := 0x8000000000000000

def integer? (negative : Bool) (n : Nat) : Option Value :=
  if negative then if n ≤ integerBound then some (.integer (-n)) else none
  else if n < integerBound then some (.integer n) else none

def sign? : List Char → Bool × List Char
  | '+' :: rest => (false, rest)
  | '-' :: rest => (true, rest)
  | rest => (false, rest)

def exponent? : Reader Int := fun text =>
  let (negative, text) := sign? text
  (digits? Char.isDigit text).map fun (digits, rest) =>
    let n : Int := naturalValue 10 digits
    (if negative then -n else n, rest)

def fraction? : Reader (List Char)
  | '.' :: rest => digits? Char.isDigit rest
  | text => some ([], text)

def exponentPart? : Reader (Option Int)
  | 'e' :: rest | 'E' :: rest => (exponent? rest).map fun (e, rest) => (some e, rest)
  | text => some (none, text)

def float? (negative : Bool) (whole part : List Char) (exponent : Int) : Option Value :=
  match Binary64.ofDecimal negative (naturalValue 10 (whole ++ part)) (exponent - part.length) with
  | .infinite false => none
  | value => some (.float value)

def decimal? (negative : Bool) : Reader Value := fun text =>
  match digits? Char.isDigit text with
  | none => none
  | some (whole, rest) =>
      if whole.head? = some '0' ∧ 1 < whole.length then none
      else
        match fraction? rest with
        | none => none
        | some (part, rest') =>
            match exponentPart? rest' with
            | none => none
            | some (none, final) =>
                if part.isEmpty then (integer? negative (naturalValue 10 whole)).map fun v => (v, final)
                else (float? negative whole part 0).map fun v => (v, final)
            | some (some e, final) => (float? negative whole part e).map fun v => (v, final)

def based? (base : Nat) : Reader Value := fun text =>
  let isDigit := fun c => match hexValue? c with
    | some v => decide (v < base)
    | none => false
  match digits? isDigit text with
  | none => none
  | some (digits, rest) => (integer? false (naturalValue base digits)).map fun v => (v, rest)

def unsigned? (negative : Bool) : Reader Value
  | 'i' :: 'n' :: 'f' :: rest => some (.float (.infinite negative), rest)
  | 'n' :: 'a' :: 'n' :: rest => some (.float .nan, rest)
  | text => decimal? negative text

def number? : Reader Value
  | '0' :: 'x' :: rest => based? 16 rest
  | '0' :: 'o' :: rest => based? 8 rest
  | '0' :: 'b' :: rest => based? 2 rest
  | text =>
      let (negative, rest) := sign? text
      unsigned? negative rest

end SuiteSync.Toml
