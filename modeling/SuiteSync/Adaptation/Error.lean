set_option autoImplicit false

namespace SuiteSync

inductive AdaptError where
  | testNotFound (test file : String)
  | testStartNotFound (test file : String)
  | suiteBodyNotFound (file : String) (line : Nat)
  | versionNotInUrl (url template : String)
deriving DecidableEq, Repr

def AdaptError.message : AdaptError → String
  | .testNotFound test file => "Test '" ++ test ++ "' not found in " ++ file
  | .testStartNotFound test file => "Start of test '" ++ test ++ "' not found in " ++ file
  | .suiteBodyNotFound file line =>
      "Body of suite declared on line " ++ toString line ++ " not found in " ++ file
  | .versionNotInUrl url template =>
      "Cannot extract version from '" ++ url ++ "' using template '" ++ template ++ "'"

end SuiteSync
