import SuiteSync.Checksum.Basic
import SuiteSync.Sync.Basic

set_option autoImplicit false

namespace SuiteSync

inductive FileStatus where
  | upToDate
  | modified (expected actual : String)
  | missing
deriving DecidableEq, Repr

def FileStatus.text : FileStatus → String
  | .upToDate => "UpToDate"
  | .missing => "Missing"
  | .modified expected actual =>
      "Modified \x7b expected: \"" ++ expected ++ "\", actual: \"" ++ actual ++ "\" \x7d"

structure DriftReport where
  version : String
  files : List (String × FileStatus)
  stray : List Location
deriving DecidableEq, Repr

def DriftReport.isClean (report : DriftReport) : Bool :=
  report.stray.isEmpty && report.files.all fun (_, status) => status == .upToDate

def recordedVersion? (disk : Disk) (config : Config) : Option String :=
  match disk.readText (Path.join config.downloadDir config.harness.versionFile) with
  | .error _ => none
  | .ok text => (Marker.parse? text).map Marker.version

def fileStatus (disk : Disk) (directory : String) (file : AdaptedFile) : Except DiskError FileStatus :=
  let path := Path.join directory file.name
  if disk.isFile path then
    match disk.readBytes path with
    | .error e => .error e
    | .ok bytes =>
        let actual := checksum bytes.data.toList
        let expected := checksum file.text.toUTF8.data.toList
        .ok (if actual = expected then .upToDate else .modified expected actual)
  else .ok .missing

def fileStatuses (disk : Disk) (directory : String) :
    List AdaptedFile → Link → Except SyncError (List (String × FileStatus)) × Link
  | [], link => (.ok [], link)
  | file :: later, link =>
      match fileStatus disk directory file with
      | .error e => (.error (.disk e), link)
      | .ok status =>
          match fileStatuses disk directory later (link.note (.checked file.name status.text)) with
          | (.error e, link) => (.error e, link)
          | (.ok statuses, link) => (.ok ((file.name, status) :: statuses), link)

def leadsTo (name : String) (location : Location) : Bool :=
  Path.components name == location.map Path.Component.name

def strayFiles (disk : Disk) (config : Config) : List Location :=
  (disk.list config.downloadDir).filter fun location =>
    !leadsTo config.harness.versionFile location && !config.files.names.any fun name => leadsTo name location

def verify (timing : Nat → Nat) (config : Config) (options : SyncOptions) (session : Session) :
    Except SyncError DriftReport × Session :=
  let asked := options.version.or (recordedVersion? session.disk config)
  match resolve config options.attempts asked session.link with
  | (.error e, link) => (.error (.resolve e), { session with link })
  | (.ok resolved, link) =>
      let link := link.note (.verifying config.downloadDir resolved.version)
      match (Task.mk config resolved options.attempts).adaptAll options.parallel timing link with
      | (.error e, link) => (.error e, { session with link })
      | (.ok files, link) =>
          match fileStatuses session.disk config.downloadDir files link with
          | (.error e, link) => (.error e, { session with link })
          | (.ok statuses, link) =>
              (.ok ⟨resolved.version, statuses, strayFiles session.disk config⟩, { session with link })

end SuiteSync
