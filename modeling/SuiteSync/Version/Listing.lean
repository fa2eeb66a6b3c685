set_option autoImplicit false

namespace SuiteSync.Listing

abbrev Reader (α : Type) := List Char → Option (α × List Char)

def isSpace (c : Char) : Bool := c == ' ' || c == '\t' || c == '\n' || c == '\r'

def skipSpace (text : List Char) : List Char := text.dropWhile isSpace

def hexValue? (c : Char) : Option Nat :=
  if c.isDigit then some (c.toNat - '0'.toNat)
  else if 'a' ≤ c ∧ c ≤ 'f' then some (c.toNat - 'a'.toNat + 10)
  else if 'A' ≤ c ∧ c ≤ 'F' then some (c.toNat - 'A'.toNat + 10)
  else none

def unit? : Reader Nat
  | a :: b :: c :: d :: rest =>
      match hexValue? a, hexValue? b, hexValue? c, hexValue? d with
      | some a, some b, some c, some d => some (((a * 16 + b) * 16 + c) * 16 + d, rest)
      | _, _, _, _ => none
  | _ => none

def isLead (n : Nat) : Bool := 0xD800 ≤ n && n ≤ 0xDBFF

def isTrail (n : Nat) : Bool := 0xDC00 ≤ n && n ≤ 0xDFFF

def unicode? (strict : Bool) : Reader Char := fun text =>
  match unit? text with
  | none => none
  | some (n, rest) =>
      if !strict then some ('\x00', rest)
      else if isTrail n then none
      else if isLead n then
        match rest with
        | '\\' :: 'u' :: rest =>
            match unit? rest with
            | some (m, rest) =>
                if isTrail m then some (Char.ofNat (0x10000 + (n - 0xD800) * 0x400 + (m - 0xDC00)), rest) else none
            | none => none
        | _ => none
      else some (Char.ofNat n, rest)

def escape? (strict : Bool) : Reader Char
  | '\x22' :: rest => some ('\x22', rest)
  | '\\' :: rest => some ('\\', rest)
  | '/' :: rest => some ('/', rest)
  | 'b' :: rest => some ('\x08', rest)
  | 'f' :: rest => some ('\x0c', rest)
  | 'n' :: rest => some ('\n', rest)
  | 'r' :: rest => some ('\r', rest)
  | 't' :: rest => some ('\t', rest)
  | 'u' :: rest => unicode? strict rest
  | _ => none

def string (strict : Bool) : Nat → Reader (List Char)
  | 0, _ => none
  | _ + 1, [] => none
  | _ + 1, '\x22' :: rest => some ([], rest)
  | n + 1, '\\' :: rest =>
      match escape? strict rest with
      | none => none
      | some (c, rest) => (string strict n rest).map fun (text, rest) => (c :: text, rest)
  | n + 1, c :: rest =>
      if c.toNat < 0x20 then none else (string strict n rest).map fun (text, rest) => (c :: text, rest)

def text? : Reader String
  | '\x22' :: rest => (string true (rest.length + 1) rest).map fun (text, rest) => (String.ofList text, rest)
  | _ => none

def digits? (text : List Char) : Option (List Char) :=
  match text with
  | c :: _ => if c.isDigit then some (text.dropWhile Char.isDigit) else none
  | [] => none

def whole? : List Char → Option (List Char)
  | '0' :: rest => some rest
  | text => digits? text

def fraction? : List Char → Option (List Char)
  | '.' :: rest => digits? rest
  | text => some text

def exponent? : List Char → Option (List Char)
  | c :: rest =>
      if c = 'e' ∨ c = 'E' then
        match rest with
        | '+' :: rest | '-' :: rest => digits? rest
        | rest => digits? rest
      else some (c :: rest)
  | [] => some []

def number? (text : List Char) : Option (List Char) :=
  let unsigned := match text with
    | '-' :: rest => rest
    | rest => rest
  (whole? unsigned).bind fun rest => (fraction? rest).bind exponent?

inductive Inside where
  | array
  | object
deriving DecidableEq, Repr

def skip : Nat → List Inside → List Char → Option (List Char)
  | 0, _, _ => none
  | n + 1, around, text =>
      let closed (around : List Inside) (rest : List Char) : Option (List Char) := close n around rest
      match skipSpace text with
      | '\x22' :: rest => (string false (rest.length + 1) rest).bind fun (_, rest) => closed around rest
      | '[' :: rest =>
          match skipSpace rest with
          | ']' :: rest => closed around rest
          | rest => skip n (.array :: around) rest
      | '\x7b' :: rest =>
          match skipSpace rest with
          | '\x7d' :: rest => closed around rest
          | rest => member n (.object :: around) rest
      | 't' :: 'r' :: 'u' :: 'e' :: rest => closed around rest
      | 'f' :: 'a' :: 'l' :: 's' :: 'e' :: rest => closed around rest
      | 'n' :: 'u' :: 'l' :: 'l' :: rest => closed around rest
      | rest => (number? rest).bind (closed around)
where
  close : Nat → List Inside → List Char → Option (List Char)
    | _, [], text => some text
    | 0, _, _ => none
    | n + 1, inner :: around, text =>
        match inner, skipSpace text with
        | .array, ']' :: rest => close n around rest
        | .array, ',' :: rest => skip n (.array :: around) rest
        | .object, '\x7d' :: rest => close n around rest
        | .object, ',' :: rest => member n (.object :: around) rest
        | _, _ => none
  member : Nat → List Inside → List Char → Option (List Char)
    | 0, _, _ => none
    | n + 1, around, text =>
        match skipSpace text with
        | '\x22' :: rest =>
            (string false (rest.length + 1) rest).bind fun (_, rest) =>
              match skipSpace rest with
              | ':' :: rest => skip n around rest
              | _ => none
        | _ => none

def skipValue (text : List Char) : Option (List Char) := skip (3 * text.length + 3) [] text

def members : Nat → Option String → Reader String
  | 0, _, _ => none
  | n + 1, name, text =>
      match text? (skipSpace text) with
      | none => none
      | some (key, rest) =>
          match skipSpace rest with
          | ':' :: rest =>
              let read : Option (Option String × List Char) :=
                if key = "name" then
                  if name.isSome then none else (text? (skipSpace rest)).map fun (text, rest) => (some text, rest)
                else (skipValue rest).map fun rest => (name, rest)
              match read with
              | none => none
              | some (name, rest) =>
                  match skipSpace rest with
                  | ',' :: rest => members n name rest
                  | '\x7d' :: rest => name.map fun name => (name, rest)
                  | _ => none
          | _ => none

def entry? : Reader String
  | '\x7b' :: rest => members (rest.length + 1) none rest
  | '[' :: rest =>
      match text? (skipSpace rest) with
      | some (name, rest) =>
          match skipSpace rest with
          | ']' :: rest => some (name, rest)
          | _ => none
      | none => none
  | _ => none

def entries : Nat → Reader (List String)
  | 0, _ => none
  | n + 1, text =>
      match entry? (skipSpace text) with
      | none => none
      | some (name, rest) =>
          match skipSpace rest with
          | ',' :: rest => (entries n rest).map fun (later, rest) => (name :: later, rest)
          | ']' :: rest => some ([name], rest)
          | _ => none

def names? (text : String) : Option (List String) :=
  match skipSpace text.toList with
  | '[' :: rest =>
      let read := match skipSpace rest with
        | ']' :: rest => some ([], rest)
        | rest => entries (rest.length + 1) rest
      match read with
      | some (names, rest) => if (skipSpace rest).isEmpty then some names else none
      | none => none
  | _ => none

end SuiteSync.Listing
