import SuiteSync.CommandLine.Run

set_option autoImplicit false

namespace SuiteSync.CommandLine

def Command.target (config : Config) : Command → Option String
  | .sync _ _ => some config.downloadDir
  | .adapt _ _ _ output => output
  | .check | .verify _ _ => none

def Command.sources (config : Config) : Command → List String
  | .sync _ _ | .verify _ _ => [config.downloadDir]
  | .adapt file _ _ output => file :: output.toList
  | .check => []

def startingDisk : IO Disk := do
  let working := (← IO.currentDir).components.filter (!·.isEmpty)
  return ({ Disk.empty with working }.createAll ("/" ++ "/".intercalate working)).2

-- Takes over what a path leads to: a file, or a directory with all that it holds. Links are taken over as what
-- they lead to.
partial def takeOver (disk : Disk) (path : String) : IO Disk := do
  let place := (← IO.currentDir) / path
  if ← place.isDir then
    let mut taken := (disk.createAll path).2
    for entry in ← place.readDir do
      taken ← takeOver taken (Path.join path entry.fileName)
    return taken
  else if ← place.pathExists then return (disk.writeBytes path (← IO.FS.readBinFile place)).2
  else return disk

def gather (invocation : Invocation) : IO (Disk × Option String) := do
  let disk ← takeOver (← startingDisk) invocation.config
  match invocation.command, Config.load disk invocation.config with
  | some command, .ok config => return (← (command.sources config).foldlM takeOver disk, command.target config)
  | _, _ => return (disk, none)

def putBack (disk : Disk) (path : String) : IO Unit := do
  let place := (← IO.currentDir) / path
  match disk.node path with
  | .error _ | .ok (.link _) => return
  | .ok (.file bytes) =>
      if let some directory := place.parent then IO.FS.createDirAll directory
      IO.FS.writeBinFile place bytes
  | .ok .directory =>
      if ← place.isDir then IO.FS.removeDirAll place
      IO.FS.createDirAll place
      for location in disk.list path do
        let inner := Path.join path (Disk.locationText location)
        if let some directory := (place / Disk.locationText location).parent then IO.FS.createDirAll directory
        match disk.bytesAt inner with
        | .ok bytes => IO.FS.writeBinFile (place / Disk.locationText location) bytes
        | .error _ => continue

def tell (outcome : Outcome) : IO UInt32 := do
  IO.print outcome.stdout
  outcome.stderr.forM IO.eprintln
  return outcome.exit.toUInt32

def start (environment : Option String) (arguments : List String) : IO UInt32 := do
  match parse environment arguments with
  | .error refusal => tell (refusal.outcome environment)
  | .ok invocation =>
      let (disk, target) ← gather invocation
      let (outcome, after) := invocation.run id environment ⟨disk, Host.empty false, [], []⟩
      match target with
      | some path => if (disk.changes after.disk).isEmpty then pure () else putBack after.disk path
      | none => pure ()
      tell outcome

end SuiteSync.CommandLine

def main (arguments : List String) : IO UInt32 := do
  SuiteSync.CommandLine.start (← IO.getEnv "TESTSYNC_CONFIG") arguments
