import SuiteSync.Disk.Resolve

set_option autoImplicit false

namespace SuiteSync

inductive DiskError where
  | cannotCreate (path reason : String)
  | cannotRemove (path reason : String)
  | cannotWrite (path reason : String)
  | cannotRead (path reason : String)
deriving DecidableEq, Repr

def DiskError.reason : DiskError → String
  | .cannotCreate _ reason | .cannotRemove _ reason | .cannotWrite _ reason | .cannotRead _ reason => reason

def DiskError.message : DiskError → String
  | .cannotCreate path reason => "Failed to create directory '" ++ path ++ "': " ++ reason
  | .cannotRemove path reason => "Failed to remove directory '" ++ path ++ "': " ++ reason
  | .cannotWrite path reason => "Failed to write file '" ++ path ++ "': " ++ reason
  | .cannotRead path reason => "Failed to read file '" ++ path ++ "': " ++ reason

namespace Disk

def place (disk : Disk) (location : Location) (node : Node) : Except Refusal Disk :=
  if free : disk.Free location then .ok (disk.add location node free) else .error .notFound

def makeDirectory (disk : Disk) (path : String) : Except Refusal Disk :=
  match disk.sight path with
  | .error e => .error e
  | .ok (.missing location _) => disk.place location .directory
  | .ok _ => .error .alreadyExists

def makeDirectories (disk : Disk) : List String → Except Refusal Unit × Disk
  | [] => (.ok (), disk)
  | path :: above =>
      match disk.makeDirectory path with
      | .ok made => (.ok (), made)
      | .error .notFound =>
          match disk.makeDirectories above with
          | (.error e, left) => (.error e, left)
          | (.ok (), left) =>
              match left.makeDirectory path with
              | .ok made => (.ok (), made)
              | .error e => (if left.isDirectory path then .ok () else .error e, left)
      | .error e => (if disk.isDirectory path then .ok () else .error e, disk)

def createAll (disk : Disk) (path : String) : Except DiskError Unit × Disk :=
  if path.isEmpty || (Path.parent? path).isNone then (.ok (), disk)
  else
    let (result, left) := disk.makeDirectories (path :: Path.parents path)
    (result.mapError fun e => .cannotCreate path e.reason, left)

def cannotRemove (path : String) : Refusal :=
  match ((Path.segments path).filter (· != "")).getLast? with
  | some "." => .invalidArgument
  | some ".." => .notEmpty
  | _ => .busy

def endsInName (path : String) : Bool :=
  match ((Path.segments path).filter (· != "")).getLast? with
  | some segment => segment != "." && segment != ".."
  | none => false

def emptyBehind (disk : Disk) (path : String) : Except Refusal Unit × Disk :=
  match disk.target path with
  | .error e => (.error e, disk)
  | .ok (.directory location) =>
      let emptied := disk.clear location
      match emptied.sight path with
      | .error e => (.error e, emptied)
      | .ok (.missing _ _) => (.error .notFound, emptied)
      | .ok _ => (.error .notDirectory, emptied)
  | .ok (.missing _ _) => (.error .notFound, disk)
  | .ok _ => (.error .notDirectory, disk)

def removeTree (disk : Disk) (path : String) : Except Refusal Unit × Disk :=
  match disk.sight path with
  | .error e => (.error e, disk)
  | .ok (.missing _ _) => (.error .notFound, disk)
  | .ok (.file _ _) => (.error .notDirectory, disk)
  | .ok (.link location false) => (.ok (), disk.remove location)
  | .ok (.link _ true) => disk.emptyBehind path
  | .ok (.directory location) =>
      if endsInName path then (.ok (), disk.remove location)
      else
        let emptied := disk.clear location
        match emptied.target path with
        | .error .notFound => (.ok (), emptied)
        | .error e => (.error e, emptied)
        | .ok _ => (.error (cannotRemove path), emptied)

def removeAll (disk : Disk) (path : String) : Except DiskError Unit × Disk :=
  match disk.removeTree path with
  | (.error .notFound, left) => (.ok (), left)
  | (result, left) => (result.mapError fun e => .cannotRemove path e.reason, left)

def reset (disk : Disk) (path : String) : Except DiskError Unit × Disk :=
  match disk.removeAll path with
  | (.error e, left) => (.error e, left)
  | (.ok (), left) => left.createAll path

-- No file is made under a name with a slash behind it. Where the name is that of a link this is found before the link
-- is followed, and so it is in the path of a link that comes last.
def refusalToOpen (disk : Disk) (refusal : Refusal) : Nat → Except Refusal Target → Refusal
  | _, .ok (.link _ true) => .isDirectory
  | links + 1, .ok (.link location false) =>
      match disk.find? location with
      | some (.link path) =>
          disk.refusalToOpen refusal links
            (disk.follow false links (Path.start location.dropLast path) (Path.segments path))
      | _ => refusal
  | _, _ => refusal

def write (disk : Disk) (path : String) (bytes : ByteArray) : Except Refusal Disk :=
  match disk.target path with
  | .error e => .error (disk.refusalToOpen e linkLimit (disk.sight path))
  | .ok (.directory _) => .error .isDirectory
  | .ok (.file _ true) => .error .isDirectory
  | .ok (.missing _ true) => .error .isDirectory
  | .ok (.link _ _) => .error .linkLoop
  | .ok (.file location false) => .ok (disk.overwrite location bytes)
  | .ok (.missing location false) => disk.place location (.file bytes)

def createParents (disk : Disk) (path : String) : Except DiskError Unit × Disk :=
  match Path.parent? path with
  | none => (.ok (), disk)
  | some directory => disk.createAll directory

def writeBytes (disk : Disk) (path : String) (bytes : ByteArray) : Except DiskError Unit × Disk :=
  match disk.createParents path with
  | (.error e, left) => (.error e, left)
  | (.ok (), left) =>
      match left.write path bytes with
      | .error e => (.error (.cannotWrite path e.reason), left)
      | .ok written => (.ok (), written)

def writeText (disk : Disk) (path text : String) : Except DiskError Unit × Disk :=
  disk.writeBytes path text.toUTF8

def bytesAt (disk : Disk) (path : String) : Except Refusal ByteArray :=
  match disk.node path with
  | .error e => .error e
  | .ok .directory => .error .isDirectory
  | .ok (.link _) => .error .linkLoop
  | .ok (.file bytes) => .ok bytes

def textAt (disk : Disk) (path : String) : Except Refusal String :=
  match disk.bytesAt path with
  | .error e => .error e
  | .ok bytes =>
      match String.fromUTF8? bytes with
      | none => .error .notUnicode
      | some text => .ok text

def readBytes (disk : Disk) (path : String) : Except DiskError ByteArray :=
  (disk.bytesAt path).mapError fun e => .cannotRead path e.reason

def readText (disk : Disk) (path : String) : Except DiskError String :=
  (disk.textAt path).mapError fun e => .cannotRead path e.reason

def deleteFile (disk : Disk) (path : String) : Except Refusal Disk :=
  match disk.sight path with
  | .error e => .error e
  | .ok (.missing _ _) => .error .notFound
  | .ok (.directory _) => .error .isDirectory
  | .ok (.file _ true) | .ok (.link _ true) => .error .notDirectory
  | .ok (.file location false) | .ok (.link location false) => .ok (disk.remove location)

def filesBelow (disk : Disk) (directory : Location) : List Location :=
  disk.entries.filterMap fun (location, node) =>
    match node with
    | .file _ => if isBelow directory location then some (location.drop directory.length) else none
    | .directory | .link _ => none

def sortLocations (locations : List Location) : List Location :=
  locations.mergeSort fun a b => !decide (b < a)

def list (disk : Disk) (path : String) : List Location :=
  match disk.target path with
  | .ok (.directory location) => sortLocations (disk.filesBelow location)
  | _ => []

def locationText (location : Location) : String := "/".intercalate location

inductive Content where
  | file (bytes : ByteArray)
  | directory

def content? : Node → Option Content
  | .file bytes => some (.file bytes)
  | .directory => some .directory
  | .link _ => none

inductive Change where
  | now (location : Location) (content : Content)
  | gone (location : Location) (content : Content)

def sameKind : Node → Node → Bool
  | .file _, .file _ | .directory, .directory | .link _, .link _ => true
  | _, _ => false

def changes (before after : Disk) : List Change :=
  (after.entries.filterMap fun (location, node) =>
    if before.find? location = some node then none else (content? node).map (.now location)) ++
  before.entries.filterMap fun (location, node) =>
    if (after.find? location).any (sameKind node) then none else (content? node).map (.gone location)

end Disk

end SuiteSync
