import SuiteSync.Toml.Datetime
import SuiteSync.Toml.Number

set_option autoImplicit false

namespace SuiteSync.Toml

mutual

def value : Nat → Nat → Reader Value
  | 0, _, _ => none
  | n + 1, depth, text =>
      match text with
      | '[' :: rest =>
          match depth with
          | 0 => none
          | depth + 1 => (elements n depth rest).map fun (all, rest) => (.array all, rest)
      | '{' :: rest =>
          match depth with
          | 0 => none
          | depth + 1 =>
              match skipSpace rest with
              | '}' :: rest => some (.table .inline [], rest)
              | rest => (members n depth [] rest).map fun (all, rest) => (.table .inline all, rest)
      | 't' :: 'r' :: 'u' :: 'e' :: rest => some (.boolean true, rest)
      | 'f' :: 'a' :: 'l' :: 's' :: 'e' :: rest => some (.boolean false, rest)
      | text =>
          match string? text with
          | some (string, rest) => some (.string string, rest)
          | none =>
              match datetime? text with
              | some (moment, rest) => some (.datetime moment, rest)
              | none => number? text

def elements : Nat → Nat → Reader (List Value)
  | 0, _, _ => none
  | n + 1, depth, text =>
      match skipLines false text with
      | ']' :: rest => some ([], rest)
      | text =>
          match value n depth text with
          | none => none
          | some (first, rest) =>
              match skipLines false rest with
              | ',' :: rest => (elements n depth rest).map fun (later, rest) => (first :: later, rest)
              | ']' :: rest => some ([first], rest)
              | _ => none

def members : Nat → Nat → Members → Reader Members
  | 0, _, _, _ => none
  | n + 1, depth, before, text =>
      match key? text with
      | some (path, '=' :: rest) =>
          match value n depth (skipSpace rest) with
          | none => none
          | some (found, rest) =>
              match assign found path before with
              | none => none
              | some all =>
                  match skipSpace rest with
                  | ',' :: rest => members n depth all rest
                  | '}' :: rest => some (all, rest)
                  | _ => none
      | _ => none

end

def value? : Reader Value := fun text => value (2 * text.length + 1) (nestingLimit - 1) text

structure Progress where
  root : Members
  header : List String

def splitLast? (path : List String) : Option (List String × String) :=
  path.getLast?.map fun last => (path.dropLast, last)

def elementHeader? (progress : Progress) : Reader Progress := fun text =>
  match key? text with
  | some (path, ']' :: ']' :: rest) => do
      let (parents, key) ← splitLast? path
      let root ← openElement parents key progress.root
      return (⟨root, path⟩, ← finishLine? rest)
  | _ => none

def tableHeader? (progress : Progress) : Reader Progress := fun text =>
  match key? text with
  | some (path, ']' :: rest) => do
      let (parents, key) ← splitLast? path
      let root ← openTable parents key progress.root
      return (⟨root, path⟩, ← finishLine? rest)
  | _ => none

def keyValue? (progress : Progress) : Reader Progress := fun text =>
  match key? text with
  | some (path, '=' :: rest) => do
      let (found, rest) ← value? (skipSpace rest)
      let root ← within (assign found path) progress.header progress.root
      return (⟨root, progress.header⟩, ← finishLine? rest)
  | _ => none

def line? (progress : Progress) : Reader Progress
  | '[' :: '[' :: rest => elementHeader? progress rest
  | '[' :: rest => tableHeader? progress rest
  | text => keyValue? progress text

def document : Nat → Progress → List Char → Option Members
  | 0, _, _ => none
  | n + 1, progress, text =>
      match skipSpace text with
      | [] => some progress.root
      | text =>
          match lineEnd? (skipComment text), text with
          | some rest, _ => document n progress rest
          | none, '#' :: _ => if (skipComment text).isEmpty then some progress.root else none
          | none, _ =>
              match line? progress text with
              | none => none
              | some (progress, rest) => document n progress rest

def dropMark : List Char → List Char
  | '\uFEFF' :: rest => rest
  | text => text

def parse? (text : String) : Option Members :=
  let chars := dropMark text.toList
  document (chars.length + 1) ⟨[], []⟩ chars

end SuiteSync.Toml
