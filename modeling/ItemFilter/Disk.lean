/-
This file defines the part of a disk that is looked at, as it is at one moment.
-/

import ItemFilter.Path
import ItemFilter.Text.Quoted

namespace ItemFilter

inductive Entry where
  | file (content : List UInt8)
  | directory
  | locked
deriving DecidableEq

/-- Entries under the parts of their absolute paths. The directories above an entry exist as
well. -/
abbrev Disk := List (List Text × Entry)

inductive DiskFault where
  | missing
  | locked
  | notADirectory
  | isADirectory
  | nameTooLong
deriving DecidableEq

def DiskFault.reason : DiskFault → String
  | .missing => "[Errno 2] No such file or directory"
  | .locked => "[Errno 13] Permission denied"
  | .notADirectory => "[Errno 20] Not a directory"
  | .isADirectory => "[Errno 21] Is a directory"
  | .nameTooLong => "[Errno 36] File name too long"

def DiskFault.message (fault : DiskFault) (path : Text) : String :=
  fault.reason ++ ": " ++ path.quoted.shown

namespace Disk

def entry? (disk : Disk) (place : List Text) : Option Entry :=
  match disk.lookup place with
  | some entry => some entry
  | none =>
      if place.isEmpty || disk.any fun (other, _) => place.isPrefixOf other then some .directory
      else none

/-- The number of bytes that a name takes. -/
def byteCount (name : Text) : Nat :=
  name.foldl (fun count character => count + character.utf8Size) 0

/-- The greatest number of bytes in a name. -/
def nameLimit : Nat := 255

/-- The greatest number of bytes in a written path. -/
def pathLimit : Nat := 4095

/-- From a place along the parts of a path. Only a directory leads on. -/
def walk (disk : Disk) (place : List Text) : List Text → Except DiskFault (List Text × Entry)
  | [] =>
      match disk.entry? place with
      | some entry => .ok (place, entry)
      | none => .error .missing
  | part :: rest =>
      match disk.entry? place with
      | none => .error .missing
      | some (.file _) | some .locked => .error .notADirectory
      | some .directory =>
          if part.isEmpty || part = ['.'] then walk disk place rest
          else if part = ['.', '.'] then walk disk place.dropLast rest
          else if nameLimit < byteCount part then .error .nameTooLong
          else walk disk (place ++ [part]) rest

/-- The place that a written path leads to from the workplace. The empty path leads nowhere. -/
def find (disk : Disk) (workplace : Path) (path : Text) : Except DiskFault (List Text × Entry) :=
  if pathLimit < byteCount path then .error .nameTooLong
  else match path with
    | [] => .error .missing
    | '/' :: rest => disk.walk [] (Text.pieces '/' rest)
    | _ => disk.walk workplace.parts (path.pieces '/')

def isFile (disk : Disk) (workplace : Path) (path : Text) : Bool :=
  match disk.find workplace path with
  | .ok (_, .file _) | .ok (_, .locked) => true
  | _ => false

def read (disk : Disk) (workplace : Path) (path : Text) : Except DiskFault (List UInt8) :=
  match disk.find workplace path with
  | .ok (_, .file content) => .ok content
  | .ok (_, .directory) => .error .isADirectory
  | .ok (_, .locked) => .error .locked
  | .error fault => .error fault

/-- The files below a place whose names have the ending, as the parts that lead to them. -/
def filesBelow (disk : Disk) (place : List Text) (ending : Text) : List (List Text) :=
  disk.filterMap fun (other, entry) =>
    if entry != .directory && place.isPrefixOf other &&
        (other.getLast?.any fun name => ending.isSuffixOf name) then
      some (other.drop place.length)
    else none

end Disk

end ItemFilter
