import SuiteSync.Disk.Basic
import SuiteSync.Disk.Path

set_option autoImplicit false

namespace SuiteSync

inductive Refusal where
  | notFound
  | busy
  | alreadyExists
  | notDirectory
  | isDirectory
  | invalidArgument
  | nameTooLong
  | notEmpty
  | nullByte
  | linkLoop
  | notUnicode
deriving DecidableEq, Repr

def Refusal.reason : Refusal → String
  | .notFound => "No such file or directory (os error 2)"
  | .busy => "Device or resource busy (os error 16)"
  | .alreadyExists => "File exists (os error 17)"
  | .notDirectory => "Not a directory (os error 20)"
  | .isDirectory => "Is a directory (os error 21)"
  | .invalidArgument => "Invalid argument (os error 22)"
  | .nameTooLong => "File name too long (os error 36)"
  | .notEmpty => "Directory not empty (os error 39)"
  | .linkLoop => "Too many levels of symbolic links (os error 40)"
  | .nullByte => "file name contained an unexpected NUL byte"
  | .notUnicode => "stream did not contain valid UTF-8"

inductive Target where
  | directory (location : Location)
  | file (location : Location) (slashed : Bool)
  | missing (location : Location) (slashed : Bool)
  | link (location : Location) (slashed : Bool)
deriving DecidableEq, Repr

-- Bytes in the longest name and, less one, in the longest path, and the links that one path may lead through.
def nameLimit : Nat := 255

def pathLimit : Nat := 4096

def linkLimit : Nat := 40

namespace Disk

-- Walks segments from a directory. Names have to exist and be directories, all but the last. Where a link stands,
-- what follows is left to `behind`.
def walk (disk : Disk) (behind : Location → String → String → List String → Except Refusal Target) :
    Location → List String → Except Refusal Target
  | here, [] => if disk.find? here = some .directory then .ok (.directory here) else .error .notFound
  | here, segment :: rest =>
      if segment = "" ∨ segment = "." then disk.walk behind here rest
      else if segment = ".." then disk.walk behind here.dropLast rest
      else if nameLimit < segment.utf8ByteSize then .error .nameTooLong
      else
        let next := here ++ [segment]
        let last := rest.all String.isEmpty
        match disk.find? next with
        | some .directory => disk.walk behind next rest
        | some (.file _) => if last then .ok (.file next !rest.isEmpty) else .error .notDirectory
        | some (.link path) => behind here segment path rest
        | none => if last ∧ disk.Free next then .ok (.missing next !rest.isEmpty) else .error .notFound

def follow (disk : Disk) (through : Bool) : Nat → Location → List String → Except Refusal Target
  | 0 => disk.walk fun here name _ rest =>
      if !through && rest.all String.isEmpty then .ok (.link (here ++ [name]) !rest.isEmpty) else .error .linkLoop
  | links + 1 => disk.walk fun here name path rest =>
      if !through && rest.all String.isEmpty then .ok (.link (here ++ [name]) !rest.isEmpty)
      else disk.follow through links (Path.start here path) (Path.segments path ++ rest)

def lookUp (disk : Disk) (through : Bool) (path : String) : Except Refusal Target :=
  if path.isEmpty then .error .notFound
  else if path.toList.contains '\x00' then .error .nullByte
  else if pathLimit ≤ path.utf8ByteSize then .error .nameTooLong
  else disk.follow through linkLimit (Path.start disk.working path) (Path.segments path)

def target (disk : Disk) (path : String) : Except Refusal Target := disk.lookUp true path

def sight (disk : Disk) (path : String) : Except Refusal Target := disk.lookUp false path

def node (disk : Disk) (path : String) : Except Refusal Node :=
  match disk.target path with
  | .error e => .error e
  | .ok (.directory _) => .ok .directory
  | .ok (.missing _ _) => .error .notFound
  | .ok (.link _ _) => .error .linkLoop
  | .ok (.file _ true) => .error .notDirectory
  | .ok (.file location false) =>
      match disk.find? location with
      | some found => .ok found
      | none => .error .notFound

def pathExists (disk : Disk) (path : String) : Bool := (disk.node path).toBool

def isFile (disk : Disk) (path : String) : Bool :=
  match disk.node path with
  | .ok (.file _) => true
  | _ => false

def isDirectory (disk : Disk) (path : String) : Bool :=
  match disk.node path with
  | .ok .directory => true
  | _ => false

end Disk

end SuiteSync
