import SuiteSync.Toml.Scan

set_option autoImplicit false

namespace SuiteSync.Toml

def hexValue? (c : Char) : Option Nat :=
  if c.isDigit then some (c.toNat - '0'.toNat)
  else if 'a' ≤ c ∧ c ≤ 'f' then some (c.toNat - 'a'.toNat + 10)
  else if 'A' ≤ c ∧ c ≤ 'F' then some (c.toNat - 'A'.toNat + 10)
  else none

def scalar? (n : Nat) : Option Char := if n.isValidChar then some (Char.ofNat n) else none

def codePoint? (size : Nat) (text : List Char) : Option (Char × List Char) :=
  let digits := text.take size
  match digits.mapM hexValue? with
  | none => none
  | some values =>
      if digits.length = size then
        (scalar? (values.foldl (fun n v => n * 16 + v) 0)).map fun c => (c, text.drop size)
      else none

def escape? : Reader Char
  | 'b' :: rest => some ('\x08', rest)
  | 't' :: rest => some ('\t', rest)
  | 'n' :: rest => some ('\n', rest)
  | 'f' :: rest => some ('\x0c', rest)
  | 'r' :: rest => some ('\r', rest)
  | '\x22' :: rest => some ('\x22', rest)
  | '\\' :: rest => some ('\\', rest)
  | 'u' :: rest => codePoint? 4 rest
  | 'U' :: rest => codePoint? 8 rest
  | _ => none

def prepend (c : Char) (read : Option (List Char × List Char)) : Option (List Char × List Char) :=
  read.map fun (text, rest) => (c :: text, rest)

def basic : Nat → Reader (List Char)
  | 0, _ => none
  | _ + 1, '\x22' :: rest => some ([], rest)
  | n + 1, '\\' :: rest =>
      match escape? rest with
      | none => none
      | some (c, rest) => prepend c (basic n rest)
  | n + 1, c :: rest => if isPlain c then prepend c (basic n rest) else none
  | _ + 1, [] => none

def literal : Reader (List Char)
  | '\x27' :: rest => some ([], rest)
  | c :: rest => if isPlain c then prepend c (literal rest) else none
  | [] => none

def skipFold : List Char → List Char
  | '\n' :: rest => skipFold rest
  | '\r' :: '\n' :: rest => skipFold rest
  | c :: rest => if isSpace c then skipFold rest else c :: rest
  | [] => []

def closing? (quote : Char) : Reader (List Char) := fun text =>
  let run := (text.takeWhile (· == quote)).length
  if 3 ≤ run then
    let inner := min (run - 3) 2
    some (List.replicate inner quote, text.drop (inner + 3))
  else none

def basicLines : Nat → Reader (List Char)
  | 0, _ => none
  | n + 1, text =>
      match closing? '\x22' text with
      | some closed => some closed
      | none =>
          match text with
          | [] => none
          | '\\' :: rest =>
              match lineEnd? (skipSpace rest), escape? rest with
              | some next, _ => basicLines n (skipFold next)
              | none, some (c, rest) => prepend c (basicLines n rest)
              | none, none => none
          | c :: rest =>
              match lineEnd? text with
              | some next => prepend '\n' (basicLines n next)
              | none => if isPlain c then prepend c (basicLines n rest) else none

def literalLines : Nat → Reader (List Char)
  | 0, _ => none
  | n + 1, text =>
      match closing? '\x27' text with
      | some closed => some closed
      | none =>
          match text with
          | [] => none
          | c :: rest =>
              match lineEnd? text with
              | some next => prepend '\n' (literalLines n next)
              | none => if isPlain c then prepend c (literalLines n rest) else none

def dropLineEnd (text : List Char) : List Char := (lineEnd? text).getD text

def string? : Reader String
  | '\x22' :: '\x22' :: '\x22' :: rest =>
      (basicLines (rest.length + 1) (dropLineEnd rest)).map fun (text, rest) => (String.ofList text, rest)
  | '\x22' :: rest => (basic (rest.length + 1) rest).map fun (text, rest) => (String.ofList text, rest)
  | '\x27' :: '\x27' :: '\x27' :: rest =>
      (literalLines (rest.length + 1) (dropLineEnd rest)).map fun (text, rest) => (String.ofList text, rest)
  | '\x27' :: rest => (literal rest).map fun (text, rest) => (String.ofList text, rest)
  | _ => none

def isBareKey (c : Char) : Bool := c.isAlphanum || c == '_' || c == '-'

def simpleKey? : Reader String
  | '\x22' :: rest => (basic (rest.length + 1) rest).map fun (text, rest) => (String.ofList text, rest)
  | '\x27' :: rest => (literal rest).map fun (text, rest) => (String.ofList text, rest)
  | text =>
      let name := text.takeWhile isBareKey
      if name.isEmpty then none else some (String.ofList name, text.dropWhile isBareKey)

def keyPath : Nat → Reader (List String)
  | 0, _ => none
  | n + 1, text =>
      match simpleKey? (skipSpace text) with
      | none => none
      | some (key, rest) =>
          match skipSpace rest with
          | '.' :: rest => (keyPath n rest).map fun (path, rest) => (key :: path, rest)
          | rest => some ([key], rest)

def nestingLimit : Nat := 80

def key? : Reader (List String) := keyPath (nestingLimit - 1)

end SuiteSync.Toml
