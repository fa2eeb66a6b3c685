import SuiteSync.Journal

set_option autoImplicit false

namespace SuiteSync.CommandLine

inductive Name where
  | sync
  | adapt
  | check
  | verify
deriving DecidableEq, Repr

namespace Name

def all : List Name := [.sync, .adapt, .check, .verify]

def text : Name → String
  | .sync => "sync"
  | .adapt => "rewrite"
  | .check => "check"
  | .verify => "verify"

def ofText? (text : String) : Option Name := all.find? fun name => name.text == text

end Name

inductive Command where
  | sync (parallel : Nat) (tag : Option String)
  | adapt (file : String) (name tag output : Option String)
  | check
  | verify (parallel : Nat) (tag : Option String)
deriving DecidableEq, Repr

structure Invocation where
  config : String
  verbose : Nat
  quiet : Bool
  command : Option Command
deriving DecidableEq, Repr

def Invocation.level (invocation : Invocation) : Level :=
  if invocation.quiet then .error
  else
    match invocation.verbose with
    | 0 => .warn
    | 1 => .info
    | _ => .debug

inductive Setting where
  | config
  | verbose
  | quiet
  | help
  | version
  | parallel
  | tag
  | name
  | output
  | file
deriving DecidableEq, Repr

namespace Setting

def takesValue : Setting → Bool
  | .verbose | .quiet | .help | .version => false
  | _ => true

def long : Setting → String
  | .config => "config"
  | .verbose => "verbose"
  | .quiet => "quiet"
  | .help => "help"
  | .version => "version"
  | .parallel => "parallel"
  | .tag => "tag"
  | .name => "name"
  | .output => "output"
  | .file => "file"

def short? : Setting → Option Char
  | .config => some 'c'
  | .verbose => some 'v'
  | .quiet => some 'q'
  | .help => some 'h'
  | .version => some 'V'
  | .parallel => some 'p'
  | .output => some 'o'
  | _ => none

def shown : Setting → String
  | .file => "<FILE>"
  | .config => "--config <CONFIG>"
  | .parallel => "--parallel <PARALLEL>"
  | .tag => "--tag <TAG>"
  | .name => "--name <NAME>"
  | .output => "--output <OUTPUT>"
  | setting => "--" ++ setting.long

def isPath : Setting → Bool
  | .config | .output | .file => true
  | _ => false

def everywhere : List Setting := [.config, .verbose, .quiet, .help, .version]

def options : Option Name → List Setting
  | none | some .check => everywhere
  | some .sync | some .verify => [.parallel, .tag] ++ everywhere
  | some .adapt => [.name, .tag, .output] ++ everywhere

def ofLong? (level : Option Name) (text : String) : Option Setting :=
  (options level).find? fun setting => setting.long == text

def ofShort? (level : Option Name) (letter : Char) : Option Setting :=
  (options level).find? fun setting => setting.short? == some letter

end Setting

inductive Page where
  | program
  | command (name : Name)
  | help
deriving DecidableEq, Repr

inductive Refusal where
  | showHelp (page : Page)
  | showVersion (level : Option Name)
  | unknownArgument (text : String)
  | unknownCommand (text : String)
  | valueMissing (setting : Setting)
  | notANumber (setting : Setting) (text reason : String)
  | repeated (setting : Setting)
  | valueUnexpected (setting : Setting) (text : String)
  | fileMissing
deriving DecidableEq, Repr

namespace Refusal

def message : Refusal → String
  | .showHelp _ | .showVersion _ => ""
  | .unknownArgument text => "error: unexpected argument '" ++ text ++ "' found"
  | .unknownCommand text => "error: unrecognized subcommand '" ++ text ++ "'"
  | .valueMissing setting => "error: a value is required for '" ++ setting.shown ++ "' but none was supplied"
  | .notANumber setting text reason =>
      "error: invalid value '" ++ text ++ "' for '" ++ setting.shown ++ "': " ++ reason
  | .repeated setting => "error: the argument '" ++ setting.shown ++ "' cannot be used multiple times"
  | .valueUnexpected setting text =>
      "error: unexpected value '" ++ text ++ "' for '" ++ setting.shown ++ "' found; no more were expected"
  | .fileMissing => "error: the following required arguments were not provided:"

end Refusal

end SuiteSync.CommandLine
