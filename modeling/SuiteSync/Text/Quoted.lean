import SuiteSync.Text.Visible

set_option autoImplicit false

namespace SuiteSync.Text

def hexDigits (n : Nat) : List Char := Nat.toDigits 16 n

def escape : Char → List Char
  | '\x00' => ['\\', '0']
  | '\t' => ['\\', 't']
  | '\r' => ['\\', 'r']
  | '\n' => ['\\', 'n']
  | '\\' => ['\\', '\\']
  | '\x22' => ['\\', '\x22']
  | c => if isVisible c then [c] else "\\u\x7b".toList ++ hexDigits c.toNat ++ ['\x7d']

def quoted (text : String) : String := String.ofList ('\x22' :: text.toList.flatMap escape ++ ['\x22'])

end SuiteSync.Text
