import SuiteSync.Text.Search

set_option autoImplicit false

namespace SuiteSync

-- The parts of a URL. `authority` holds the host, followed by a colon and a number where that is not the usual
-- one. A host with percent signs or with characters beyond ASCII is refused, though it may have such a form too.
structure Address where
  scheme : String
  authority : Option String
  path : String
  query : Option String
  fragment : Option String
deriving DecidableEq, Repr

namespace Address

def upperHex (n : Nat) : Char := Char.ofNat (if n < 10 then '0'.toNat + n else 'A'.toNat + (n - 10))

def escapeByte (b : UInt8) : List Char := ['%', upperHex (b.toNat / 16), upperHex (b.toNat % 16)]

def escapeChars (set : List Char) (text : List Char) : List Char :=
  text.flatMap fun c =>
    if c.toNat < 0x20 ∨ 0x7F ≤ c.toNat ∨ c ∈ set then c.toString.toUTF8.data.toList.flatMap escapeByte else [c]

def pathSet : List Char := [' ', '\x22', '<', '>', '\x60', '#', '?', '\x7b', '\x7d']

def fragmentSet : List Char := [' ', '\x22', '<', '>', '\x60']

def tidy (text : List Char) : List Char :=
  let isEdge := fun c : Char => decide (c.toNat ≤ 0x20)
  let inner := ((text.dropWhile isEdge).reverse.dropWhile isEdge).reverse
  inner.filter fun c => c != '\t' && c != '\n' && c != '\r'

def isSchemeChar (c : Char) : Bool := c.isAlphanum || c == '+' || c == '-' || c == '.'

def scheme? (text : List Char) : Option (String × List Char) :=
  let name := text.takeWhile isSchemeChar
  match name, text.dropWhile isSchemeChar with
  | c :: _, ':' :: rest => if c.isAlpha then some (String.ofList (name.map Char.toLower), rest) else none
  | _, _ => none

def isRequestScheme (scheme : String) : Bool := scheme == "http" || scheme == "https"

def isHierarchical (scheme : String) : Bool := isRequestScheme scheme || scheme == "ftp" || scheme == "ws" || scheme == "wss"

def querySet (scheme : String) : List Char :=
  [' ', '\x22', '#', '<', '>'] ++ if isHierarchical scheme then ['\x27'] else []

def isSlash (c : Char) : Bool := c == '/' || c == '\\'

def pathPieces : List Char → List (List Char)
  | [] => [[]]
  | c :: rest =>
      if isSlash c then [] :: pathPieces rest
      else
        match pathPieces rest with
        | [] => [[c]]
        | piece :: later => (c :: piece) :: later

def isHere (piece : List Char) : Bool :=
  let lower := piece.map Char.toLower
  lower == ['.'] || lower == "%2e".toList

def isUp (piece : List Char) : Bool :=
  let lower := piece.map Char.toLower
  lower == "..".toList || lower == ".%2e".toList || lower == "%2e.".toList || lower == "%2e%2e".toList

def settle : List (List Char) → List (List Char) → List (List Char)
  | done, [] => done.reverse
  | done, piece :: rest =>
      if isUp piece then settle (if rest.isEmpty then [] :: done.drop 1 else done.drop 1) rest
      else if isHere piece then settle (if rest.isEmpty then [] :: done else done) rest
      else settle (piece :: done) rest

def normalPath (path : List Char) : String :=
  match pathPieces path with
  | [] :: rest => "/" ++ "/".intercalate ((settle [] rest).map fun p => String.ofList (escapeChars pathSet p))
  | pieces => "/" ++ "/".intercalate ((settle [] pieces).map fun p => String.ofList (escapeChars pathSet p))

def impliedNumber (scheme : String) : List Char :=
  match scheme with
  | "http" | "ws" => "80".toList
  | "https" | "wss" => "443".toList
  | "ftp" => "21".toList
  | _ => []

def isHostChar (c : Char) : Bool :=
  0x21 ≤ c.toNat && c.toNat < 0x7F && !"#%/:<>?@[\\]^|".toList.contains c

def afterUser (text : List Char) : List Char := (text.reverse.takeWhile (· != '@')).reverse

def host? (scheme : String) (text : List Char) : Option (List Char) :=
  let isV6 := text.head? == some '['
  let host := if isV6 then text.takeWhile (· != ']') ++ [']'] else text.takeWhile (· != ':')
  let rest := text.drop host.length
  let valid := if isV6 then text.contains ']' else host.all isHostChar
  if host.isEmpty || !valid then none
  else
    let name := host.map Char.toLower
    match rest with
    | [] => some name
    | ':' :: digits =>
        if !digits.all Char.isDigit then none
        else
          let value := digits.foldl (fun n c => n * 10 + (c.toNat - '0'.toNat)) 0
          if 0xFFFF < value then none
          else if digits.isEmpty || Nat.toDigits 10 value == impliedNumber scheme then some name
          else some (name ++ ':' :: Nat.toDigits 10 value)
    | _ => none

def authority? (scheme : String) (text : List Char) : Option String :=
  (host? scheme (afterUser text)).map String.ofList

def cutAt (mark : Char) (text : List Char) : List Char × Option (List Char) :=
  match Text.splitFirst? [mark] text with
  | some (before, after) => (before, some after)
  | none => (text, none)

def parse? (url : String) : Option Address :=
  match scheme? (tidy url.toList) with
  | none => none
  | some (scheme, rest) =>
      let (rest, fragment) := cutAt '#' rest
      let (rest, query) := cutAt '?' rest
      let query := query.map fun text => String.ofList (escapeChars (querySet scheme) text)
      let fragment := fragment.map fun text => String.ofList (escapeChars fragmentSet text)
      if isHierarchical scheme then
        let rest := rest.dropWhile isSlash
        let host := rest.takeWhile fun c => !isSlash c
        match authority? scheme host with
        | none => none
        | some authority => some ⟨scheme, some authority, normalPath (rest.drop host.length), query, fragment⟩
      else some ⟨scheme, none, String.ofList (escapeChars [] rest), query, fragment⟩

def sent (address : Address) : String :=
  let start := match address.authority with
    | some authority => address.scheme ++ "://" ++ authority
    | none => address.scheme ++ ":"
  start ++ address.path ++ match address.query with
    | some query => "?" ++ query
    | none => ""

def text (address : Address) : String :=
  address.sent ++ match address.fragment with
    | some fragment => "#" ++ fragment
    | none => ""

end Address

end SuiteSync
