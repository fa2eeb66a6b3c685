import SuiteSync.Decimal.Binary64

set_option autoImplicit false

namespace SuiteSync

structure Decimal where
  digits : Nat
  exponent : Int
deriving DecidableEq, Repr

namespace Decimal

open Binary64 (twoTo tenTo)

structure Interval where
  low : Nat
  value : Nat
  high : Nat
  den : Nat
  closed : Bool
deriving Repr

def interval (mantissa : Nat) (exponent : Int) : Interval :=
  let narrow := mantissa = twoTo (Binary64.precision - 1) ∧ Binary64.minExponent < exponent
  let quarter := exponent - 2
  let unit := twoTo quarter.toNat
  ⟨(4 * mantissa - if narrow then 1 else 2) * unit, 4 * mantissa * unit, (4 * mantissa + 2) * unit,
    twoTo (-quarter).toNat, mantissa % 2 = 0⟩

def onGrid (n den : Nat) (exponent : Int) : Nat × Nat :=
  (n * tenTo exponent.toNat, den * tenTo (-exponent).toNat)

def Interval.holds (i : Interval) (d : Decimal) : Bool :=
  let (n, scale) := onGrid d.digits 1 d.exponent
  let n := n * i.den
  if i.closed then i.low * scale ≤ n && n ≤ i.high * scale else i.low * scale < n && n < i.high * scale

def Interval.onGrid? (i : Interval) (exponent : Int) : Option Decimal :=
  let (den, num) := onGrid i.den i.value exponent
  let below := num / den
  let low : Decimal := ⟨below, exponent⟩
  let high : Decimal := ⟨below + 1, exponent⟩
  match i.holds low, i.holds high with
  | true, true => some (if 2 * (num % den) < den then low else high)
  | true, false => some low
  | false, true => some high
  | false, false => none

def leadingZeros (num den : Nat) : Nat → Nat
  | 0 => 0
  | n + 1 => if den ≤ num then 0 else leadingZeros (num * 10) den n + 1

def Interval.places (i : Interval) : Int :=
  if i.den ≤ i.value then (Nat.toDigits 10 (i.value / i.den)).length
  else 1 - (leadingZeros i.value i.den 400 : Int)

def Interval.shortest (i : Interval) : Nat → Int → Decimal
  | 0, exponent => ⟨i.value * tenTo (-exponent).toNat / (i.den * tenTo exponent.toNat), exponent⟩
  | n + 1, exponent => (i.onGrid? exponent).getD (i.shortest n (exponent - 1))

def text (d : Decimal) : List Char :=
  if 0 ≤ d.exponent then Nat.toDigits 10 (d.digits * tenTo d.exponent.toNat)
  else
    let size := (-d.exponent).toNat
    let whole := Nat.toDigits 10 (d.digits / tenTo size)
    let part := Nat.toDigits 10 (d.digits % tenTo size)
    let padded := List.replicate (size - part.length) '0' ++ part
    let kept := (padded.reverse.dropWhile (· == '0')).reverse
    if kept.isEmpty then whole else whole ++ '.' :: kept

end Decimal

open Decimal

def Binary64.text : Binary64 → String
  | .nan => "NaN"
  | .infinite false => "inf"
  | .infinite true => "-inf"
  | .finite negative mantissa exponent =>
      let digits :=
        if mantissa = 0 then ['0']
        else
          let i := interval mantissa exponent
          (i.shortest 17 (i.places - 1)).text
      let pointed := if digits.contains '.' then digits else digits ++ ['.', '0']
      String.ofList (if negative then '-' :: pointed else pointed)

end SuiteSync
