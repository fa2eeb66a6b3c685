import SuiteSync.CommandLine.Arguments
import SuiteSync.CommandLine.Help
import SuiteSync.Sync.Drift
import SuiteSync.Text.Lines

set_option autoImplicit false

namespace SuiteSync.CommandLine

inductive Fault where
  | failed (error : SyncError)
  | refused (message : String)
deriving DecidableEq, Repr

structure Ending where
  output : List String := []
  fault : Option Fault := none
deriving Repr

structure Outcome where
  exit : Nat
  stdout : String
  stderr : List String
deriving DecidableEq, Repr

def success : String := "✓"

def failure : String := "✗"

def warning : String := "⚠"

def indentLines (text : String) : String :=
  "    " ++ String.ofList (Text.replaceAll ['\n'] "\n    ".toList text.toList)

def mismatchReport (message : String) : String := "Failed to sync upstream tests\n" ++ message ++ "\n"

def Fault.report : Fault → String
  | .refused message => "Error: " ++ message ++ "\n"
  | .failed error =>
      if error.isMismatch then mismatchReport error.message ++ "\n"
      else
        "Error: " ++ error.message ++ "\n" ++ match error.cause? with
          | none => ""
          | some cause => "\nCaused by:\n" ++ indentLines cause ++ "\n"

def checkLines (config : Config) (path : String) : List String :=
  [success ++ " Config is valid: " ++ path,
   "  Download dir: " ++ config.downloadDir,
   "  Upstream:     " ++ config.origin.package ++ " @ " ++ config.origin.version.getD "latest tag",
   "  Setup module: " ++ config.setupModule,
   "  Files:        " ++ toString config.files.size ++ " (" ++ toString config.files.excludedCount ++
     " excluded test(s))"] ++
  config.files.entries.map fun (name, tests) =>
    if tests.isEmpty then "    " ++ name else "    " ++ name ++ " (" ++ toString tests.length ++ " excluded)"

def unlessQuiet (quiet : Bool) (lines : List String) : List String :=
  if quiet then [] else lines.map fun line => line ++ "\n"

def runCheck (config : Config) (path : String) (quiet : Bool) (session : Session) : Ending × Session :=
  ({ output := unlessQuiet quiet (checkLines config path) },
   { session with link := session.link.note (.configChecked path) })

def syncLines (config : Config) (report : SyncReport) : List String :=
  (success ++ " Synced " ++ toString report.files.length ++ " file(s) from upstream " ++ report.version ++ " into " ++
    config.downloadDir) ::
  report.files.map fun file =>
    if 0 < file.skipped then "    " ++ file.name ++ " (" ++ toString file.skipped ++ " skipped)" else "    " ++ file.name

def optionsOf (parallel : Nat) (tag : Option String) : SyncOptions := ⟨max parallel 1, tag, usualAttempts⟩

def runSync (timing : Nat → Nat) (config : Config) (parallel : Nat) (tag : Option String) (quiet : Bool)
    (session : Session) : Ending × Session :=
  match sync timing config (optionsOf parallel tag) session with
  | (.error e, session) => ({ fault := some (.failed e) }, session)
  | (.ok report, session) => ({ output := unlessQuiet quiet (syncLines config report) }, session)

def shortened (checksum : String) : String := String.ofList (checksum.toList.take 12)

def statusLine : String × FileStatus → String
  | (name, .upToDate) => success ++ " " ++ name
  | (name, .missing) => failure ++ " " ++ name ++ " missing"
  | (name, .modified expected actual) =>
      failure ++ " " ++ name ++ " modified (expected " ++ shortened expected ++ ", found " ++ shortened actual ++ ")"

def driftLines (report : DriftReport) : List String :=
  report.files.map statusLine ++
  (report.stray.map fun location => warning ++ " " ++ Disk.locationText location ++ " is not produced by sync") ++
  if report.isClean then ["Up to date with upstream " ++ report.version] else []

def runVerify (timing : Nat → Nat) (config : Config) (parallel : Nat) (tag : Option String) (quiet : Bool)
    (session : Session) : Ending × Session :=
  match verify timing config (optionsOf parallel tag) session with
  | (.error e, session) => ({ fault := some (.failed e) }, session)
  | (.ok report, session) =>
      let outOfSync := config.downloadDir ++ " is out of sync with upstream " ++ report.version ++
        "; run 'testsync sync'"
      ({ output := unlessQuiet quiet (driftLines report)
         fault := if report.isClean then none else some (.refused outOfSync) }, session)

def deliver (text : String) (output : Option String) (session : Session) : Ending × Session :=
  match output with
  | none => ({ output := [text] }, session)
  | some path =>
      match session.disk.writeText path text with
      | (.error e, disk) => ({ fault := some (.failed (.disk e)) }, { session with disk })
      | (.ok (), disk) => ({}, { session with disk })

def adaptLocal (config : Config) (file name version : String) (output : Option String) (session : Session) :
    Ending × Session :=
  let link := if config.files.contains name then session.link else session.link.note (.notListed name)
  match session.disk.readText file with
  | .error e => ({ fault := some (.failed (.disk e)) }, { session with link })
  | .ok source =>
      let url := (Resolved.pinned config version).fileUrl config name
      let excluded := config.files.excluded name
      let link := link.noteAll (Adaptation.events config url name source excluded)
      match adapt config url name source excluded with
      | .error e => ({ fault := some (.failed (.adapt e)) }, { session with link })
      | .ok text => deliver text output { session with link }

def runAdapt (config : Config) (file : String) (name tag output : Option String) (session : Session) :
    Ending × Session :=
  match name.or (Path.fileName? file), tag.or config.origin.version with
  | none, _ => ({ fault := some (.refused ("No file name in '" ++ file ++ "'")) }, session)
  | some _, none =>
      ({ fault := some (.refused "No upstream version pinned in the config; pass --tag") }, session)
  | some name, some version => adaptLocal config file name version output session

def runCommand (timing : Nat → Nat) (command : Command) (path : String) (quiet : Bool) (session : Session) :
    Ending × Session :=
  match Config.load session.disk path with
  | .error e => ({ fault := some (.failed (.config e)) }, session)
  | .ok config =>
      let session := { session with link := session.link.noteAll (Config.loadEvents path (.ok config)) }
      match command with
      | .sync parallel tag => runSync timing config parallel tag quiet session
      | .adapt file name tag output => runAdapt config file name tag output session
      | .check => runCheck config path quiet session
      | .verify parallel tag => runVerify timing config parallel tag quiet session

def textLines (text : String) : List String := (Text.lines text.toList).map String.ofList

def errorLines (threshold : Level) (events : List Event) (fault : Option Fault) : List String :=
  (logLines threshold events).flatMap textLines ++
    match fault with
    | none => []
    | some fault => textLines fault.report

def Invocation.run (timing : Nat → Nat) (environment : Option String) (invocation : Invocation)
    (session : Session) : Outcome × Session :=
  match invocation.command with
  | none => (⟨0, Page.text environment .program, []⟩, session)
  | some command =>
      let before := session.link.events.length
      let (ending, session) := runCommand timing command invocation.config invocation.quiet session
      let events := session.link.events.drop before
      (⟨if ending.fault.isSome then 1 else 0, String.join ending.output,
        errorLines invocation.level events ending.fault⟩, session)

def Refusal.outcome (environment : Option String) : Refusal → Outcome
  | .showHelp page => ⟨0, page.text environment, []⟩
  | .showVersion level => ⟨0, versionLine level, []⟩
  | fault => ⟨2, "", textLines fault.message |>.take 1⟩

def run (timing : Nat → Nat) (environment : Option String) (arguments : List String) (session : Session) :
    Outcome × Session :=
  match parse environment arguments with
  | .error refusal => (refusal.outcome environment, session)
  | .ok invocation => invocation.run timing environment session

end SuiteSync.CommandLine
