import SuiteSync.Config.Load
import SuiteSync.Marker
import SuiteSync.Sync.Pool

set_option autoImplicit false

namespace SuiteSync

structure Session where
  disk : Disk
  link : Link

structure SyncOptions where
  parallel : Nat
  version : Option String
  attempts : Nat
deriving Repr

structure SyncedFile where
  name : String
  path : String
  size : Nat
  skipped : Nat
deriving DecidableEq, Repr

structure SyncReport where
  version : String
  baseUrl : String
  files : List SyncedFile
  markerPath : String
deriving DecidableEq, Repr

def writeFiles (directory : String) : List AdaptedFile → Session → Except SyncError (List SyncedFile) × Session
  | [], session => (.ok [], session)
  | file :: later, session =>
      let path := Path.join directory file.name
      match session.disk.writeText path file.text with
      | (.error e, disk) => (.error (.disk e), { session with disk })
      | (.ok (), disk) =>
          match writeFiles directory later ⟨disk, session.link.note (.wrote path)⟩ with
          | (.error e, session) => (.error e, session)
          | (.ok written, session) => (.ok (⟨file.name, path, file.text.utf8ByteSize, file.skipped⟩ :: written), session)

def writeCopies (config : Config) (resolved : Resolved) (files : List AdaptedFile) (session : Session) :
    Except SyncError SyncReport × Session :=
  match writeFiles config.downloadDir files session with
  | (.error e, session) => (.error e, session)
  | (.ok written, session) =>
      let path := Path.join config.downloadDir config.harness.versionFile
      match session.disk.writeText path (Marker.ofVersion config resolved.version).render with
      | (.error e, disk) => (.error (.disk e), { session with disk })
      | (.ok (), disk) => (.ok ⟨resolved.version, resolved.baseUrl, written, path⟩, { session with disk })

def syncAt (timing : Nat → Nat) (config : Config) (options : SyncOptions) (resolved : Resolved)
    (session : Session) : Except SyncError SyncReport × Session :=
  match session.disk.reset config.downloadDir with
  | (.error e, disk) => (.error (.disk e), { session with disk })
  | (.ok (), disk) =>
      match (Task.mk config resolved options.attempts).adaptAll options.parallel timing session.link with
      | (.error e, link) => (.error e, ⟨disk, link⟩)
      | (.ok files, link) => writeCopies config resolved files ⟨disk, link⟩

def sync (timing : Nat → Nat) (config : Config) (options : SyncOptions) (session : Session) :
    Except SyncError SyncReport × Session :=
  match resolve config options.attempts options.version session.link with
  | (.error e, link) => (.error (.resolve e), { session with link })
  | (.ok resolved, link) =>
      syncAt timing config options resolved
        { session with link := link.note (.syncStarted config.files.size resolved.version) }

end SuiteSync
