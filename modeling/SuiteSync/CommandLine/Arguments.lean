import SuiteSync.CommandLine.Basic

set_option autoImplicit false

namespace SuiteSync.CommandLine

structure Given where
  config : Option String := none
  verbose : Nat := 0
  quiet : Bool := false
  parallel : Option Nat := none
  tag : Option String := none
  name : Option String := none
  output : Option String := none
  file : Option String := none
deriving Repr

structure Progress where
  given : Given := {}
  pending : Option (Setting × Option String) := none
  plain : Bool := false
  placed : Bool := false
deriving Repr

def countLimit : Nat := 255

def numberLimit : Nat := 0x10000000000000000

def readDigits : Nat → List Char → Except String Nat
  | n, [] => .ok n
  | n, c :: rest =>
      let next := n * 10 + (c.toNat - '0'.toNat)
      if !c.isDigit then .error "invalid digit found in string"
      else if numberLimit ≤ next then .error "number too large to fit in target type"
      else readDigits next rest

def readNumber (text : String) : Except String Nat :=
  match text.toList with
  | [] => .error "cannot parse integer from empty string"
  | '+' :: c :: rest => readDigits 0 (c :: rest)
  | digits => readDigits 0 digits

def Given.held (given : Given) : Setting → Bool
  | .config => given.config.isSome
  | .quiet => given.quiet
  | .parallel => given.parallel.isSome
  | .tag => given.tag.isSome
  | .name => given.name.isSome
  | .output => given.output.isSome
  | .file => given.file.isSome
  | .verbose | .help | .version => false

def Given.store (given : Given) (setting : Setting) (value : String) : Except Refusal Given :=
  if given.held setting then .error (.repeated setting)
  else if setting.isPath && value.isEmpty then .error (.valueMissing setting)
  else
    match setting with
    | .config => .ok { given with config := some value }
    | .tag => .ok { given with tag := some value }
    | .name => .ok { given with name := some value }
    | .output => .ok { given with output := some value }
    | .file => .ok { given with file := some value }
    | .parallel =>
        match readNumber value with
        | .ok n => .ok { given with parallel := some n }
        | .error reason => .error (.notANumber setting value reason)
    | .verbose | .quiet | .help | .version => .ok given

def helpPage : Option Name → Page
  | none => .program
  | some name => .command name

def Given.switch (level : Option Name) (given : Given) : Setting → Except Refusal Given
  | .help => .error (.showHelp (helpPage level))
  | .version => .error (.showVersion level)
  | .verbose => .ok { given with verbose := min (given.verbose + 1) countLimit }
  | .quiet => if given.quiet then .error (.repeated .quiet) else .ok { given with quiet := true }
  | _ => .ok given

def Progress.settle (progress : Progress) : Except Refusal Progress :=
  match progress.pending with
  | none => .ok progress
  | some (setting, none) => .error (.valueMissing setting)
  | some (setting, some value) => do
      return { progress with given := ← progress.given.store setting value, pending := none }

def Progress.take (level : Option Name) (progress : Progress) (setting : Setting) : Except Refusal Progress := do
  let progress ← progress.settle
  if setting.takesValue then return { progress with pending := some (setting, none) }
  else return { progress with given := ← progress.given.switch level setting }

def Progress.takeWith (progress : Progress) (setting : Setting) (value : String) : Except Refusal Progress := do
  let progress ← progress.settle
  return { progress with given := ← progress.given.store setting value }

def Progress.takeLong (level : Option Name) (progress : Progress) (text : List Char) : Except Refusal Progress :=
  let name := String.ofList (text.takeWhile (· != '='))
  match Setting.ofLong? level name, text.dropWhile (· != '=') with
  | none, _ => .error (.unknownArgument ("--" ++ name))
  | some setting, [] => progress.take level setting
  | some setting, _ :: value =>
      if setting.takesValue then progress.takeWith setting (String.ofList value)
      else .error (.valueUnexpected setting (String.ofList value))

def Progress.takeShort (level : Option Name) : Progress → List Char → Except Refusal Progress
  | progress, [] => .ok progress
  | progress, letter :: rest =>
      match Setting.ofShort? level letter with
      | none => .error (.unknownArgument (String.ofList ['-', letter]))
      | some setting =>
          if setting.takesValue then
            match rest with
            | [] => progress.take level setting
            | '=' :: value => progress.takeWith setting (String.ofList value)
            | value => progress.takeWith setting (String.ofList value)
          else
            match progress.take level setting with
            | .error e => .error e
            | .ok progress => progress.takeShort level rest

def isCommandWord (text : String) : Bool := text == "help" || (Name.ofText? text).isSome

def Progress.place (level : Option Name) (progress : Progress) (text : String) : Except Refusal Progress :=
  match level with
  | none =>
      if progress.plain && isCommandWord text then .error (.unknownArgument text) else .error (.unknownCommand text)
  | some .adapt =>
      if progress.placed then .error (.unknownArgument text)
      else do
        let progress ← progress.settle
        return { progress with pending := some (.file, some text), placed := true }
  | some _ => .error (.unknownArgument text)

def Progress.awaits (progress : Progress) : Bool :=
  match progress.pending with
  | some (_, none) => true
  | _ => false

def Progress.takeArgument (level : Option Name) (progress : Progress) (text : String) : Except Refusal Progress :=
  if progress.plain then progress.place level text
  else
    match text.toList with
    | ['-', '-'] => .ok { progress with plain := true }
    | '-' :: '-' :: rest => progress.takeLong level rest
    | '-' :: letter :: rest => progress.takeShort level (letter :: rest)
    | _ =>
        match progress.pending with
        | some (setting, none) => .ok { progress with pending := some (setting, some text) }
        | _ => progress.place level text

def helpFor : List String → Refusal
  | [] => .showHelp .program
  | word :: rest =>
      match Name.ofText? word, rest with
      | some name, [] => .showHelp (.command name)
      | some _, next :: _ => .unknownCommand next
      | none, rest =>
          if word == "help" then
            match rest with
            | [] => .showHelp .help
            | next :: _ => .unknownCommand next
          else .unknownCommand word

def readFront : Progress → List String → Except Refusal (Progress × Option (Name × List String))
  | progress, [] => .ok (progress, none)
  | progress, text :: rest =>
      if !progress.plain && !progress.awaits && text == "help" then .error (helpFor rest)
      else
        match if progress.plain || progress.awaits then none else Name.ofText? text with
        | some name => .ok (progress, some (name, rest))
        | none =>
            match progress.takeArgument none text with
            | .error e => .error e
            | .ok progress => readFront progress rest

def readCommand (name : Name) : Progress → List String → Except Refusal Progress
  | progress, [] => .ok progress
  | progress, text :: rest =>
      match progress.takeArgument (some name) text with
      | .error e => .error e
      | .ok progress => readCommand name progress rest

def finish (environment : Option String) (progress : Progress) : Except Refusal Given := do
  let progress ← progress.settle
  if progress.given.config.isNone && environment == some "" then .error (.valueMissing .config)
  else return progress.given

def commandOf (name : Name) (given : Given) : Except Refusal Command :=
  match name with
  | .sync => .ok (.sync (given.parallel.getD 1) given.tag)
  | .verify => .ok (.verify (given.parallel.getD 1) given.tag)
  | .check => .ok .check
  | .adapt =>
      match given.file with
      | some file => .ok (.adapt file given.name given.tag given.output)
      | none => .error .fileMissing

def defaultConfig : String := "testsync.toml"

def parse (environment : Option String) (arguments : List String) : Except Refusal Invocation := do
  let (front, command) ← readFront {} arguments
  let inner ← match command with
    | none => pure none
    | some (name, rest) => do
        let given ← finish environment (← readCommand name {} rest)
        pure (some (given, ← commandOf name given))
  let outer ← finish environment front
  let given := (inner.map Prod.fst).getD {}
  return {
    config := ((given.config.or outer.config).or environment).getD defaultConfig
    verbose := if given.verbose = 0 then outer.verbose else given.verbose
    quiet := given.quiet || outer.quiet
    command := inner.map Prod.snd }

end SuiteSync.CommandLine
