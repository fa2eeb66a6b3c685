set_option autoImplicit false

namespace SuiteSync.Text

def replacement : Char := '\uFFFD'

structure Pending where
  bits : Nat
  missing : Nat
  low : Nat
  high : Nat
deriving DecidableEq, Repr

def startByte (b : Nat) : Option Pending × List Char :=
  if b < 0x80 then (none, [Char.ofNat b])
  else if 0xC2 ≤ b ∧ b ≤ 0xDF then (some ⟨b - 0xC0, 1, 0x80, 0xBF⟩, [])
  else if b = 0xE0 then (some ⟨0, 2, 0xA0, 0xBF⟩, [])
  else if b = 0xED then (some ⟨0xD, 2, 0x80, 0x9F⟩, [])
  else if 0xE1 ≤ b ∧ b ≤ 0xEF then (some ⟨b - 0xE0, 2, 0x80, 0xBF⟩, [])
  else if b = 0xF0 then (some ⟨0, 3, 0x90, 0xBF⟩, [])
  else if 0xF1 ≤ b ∧ b ≤ 0xF3 then (some ⟨b - 0xF0, 3, 0x80, 0xBF⟩, [])
  else if b = 0xF4 then (some ⟨4, 3, 0x80, 0x8F⟩, [])
  else (none, [replacement])

def takeByte (pending : Option Pending) (b : Nat) : Option Pending × List Char :=
  match pending with
  | none => startByte b
  | some p =>
      if p.low ≤ b ∧ b ≤ p.high then
        let bits := p.bits * 0x40 + (b - 0x80)
        if p.missing ≤ 1 then (none, [Char.ofNat bits]) else (some ⟨bits, p.missing - 1, 0x80, 0xBF⟩, [])
      else
        let (next, text) := startByte b
        (next, replacement :: text)

def decodeUtf8From : Option Pending → List UInt8 → List Char
  | none, [] => []
  | some _, [] => [replacement]
  | pending, b :: rest =>
      let (next, text) := takeByte pending b.toNat
      text ++ decodeUtf8From next rest

def decodeUtf8 (bytes : List UInt8) : List Char := decodeUtf8From none bytes

def units16 (bigEndian : Bool) : List UInt8 → List (Option Nat)
  | [] => []
  | [_] => [none]
  | a :: b :: rest =>
      some (if bigEndian then a.toNat * 0x100 + b.toNat else b.toNat * 0x100 + a.toNat) :: units16 bigEndian rest

def isLead (n : Nat) : Bool := 0xD800 ≤ n && n ≤ 0xDBFF

def isTrail (n : Nat) : Bool := 0xDC00 ≤ n && n ≤ 0xDFFF

def decodeUnits : List (Option Nat) → List Char
  | [] => []
  | none :: rest => replacement :: decodeUnits rest
  | some n :: some m :: rest =>
      if isLead n && isTrail m then
        Char.ofNat (0x10000 + (n - 0xD800) * 0x400 + (m - 0xDC00)) :: decodeUnits rest
      else if isLead n || isTrail n then replacement :: decodeUnits (some m :: rest)
      else Char.ofNat n :: decodeUnits (some m :: rest)
  | some n :: rest => (if isLead n || isTrail n then replacement else Char.ofNat n) :: decodeUnits rest

def westernHigh : List Nat :=
  [0x20AC, 0x81, 0x201A, 0x192, 0x201E, 0x2026, 0x2020, 0x2021, 0x2C6, 0x2030, 0x160, 0x2039, 0x152, 0x8D, 0x17D, 0x8F,
   0x90, 0x2018, 0x2019, 0x201C, 0x201D, 0x2022, 0x2013, 0x2014, 0x2DC, 0x2122, 0x161, 0x203A, 0x153, 0x9D, 0x17E, 0x178]

def decodeWestern (bytes : List UInt8) : List Char :=
  bytes.map fun b =>
    let n := b.toNat
    Char.ofNat (if 0x80 ≤ n ∧ n ≤ 0x9F then westernHigh.getD (n - 0x80) n else n)

inductive Charset where
  | utf8
  | western
deriving DecidableEq, Repr

def decode (declared : Charset) : List UInt8 → List Char
  | 0xEF :: 0xBB :: 0xBF :: rest => decodeUtf8 rest
  | 0xFF :: 0xFE :: rest => decodeUnits (units16 false rest)
  | 0xFE :: 0xFF :: rest => decodeUnits (units16 true rest)
  | bytes =>
      match declared with
      | .utf8 => decodeUtf8 bytes
      | .western => decodeWestern bytes

end SuiteSync.Text
