import SignalGenerator.Fault

/-!
Where a path leads to. The bench is a directory with files in it and no further directory; what lies
outside of it is not kept. A path can only be opened for appending when it leads to a file or to a
name that a file may have.
-/

namespace SignalGenerator

/-- What a path can lead to that can be appended to. -/
inductive Destination
  /-- A file of the bench, which may not be there yet. -/
  | file (name : String)
  /-- A file somewhere else. -/
  | elsewhere
deriving DecidableEq

/-- Why a path cannot be opened for appending. -/
inductive PathFault
  | missing
  | notDirectory
  | directory
  | tooLong
  /-- There is a character with the code zero in the path. -/
  | zeroCharacter
deriving DecidableEq

namespace PathFault

def kind : PathFault → Fault.Kind
  | missing => .missingFile
  | notDirectory => .notDirectory
  | directory => .directory
  | tooLong => .system
  | zeroCharacter => .value

def message (path : String) (fault : PathFault) : String :=
  let shown := Quoted.text path
  match fault with
  | missing => s!"[Errno 2] No such file or directory: {shown}"
  | notDirectory => s!"[Errno 20] Not a directory: {shown}"
  | directory => s!"[Errno 21] Is a directory: {shown}"
  | tooLong => s!"[Errno 36] File name too long: {shown}"
  | zeroCharacter => "embedded null byte"

end PathFault

namespace Destination

/-- The bytes that a name may have. -/
def longestName : Nat := 255

/-- The bytes that a path may have. -/
def longestPath : Nat := 4095

/-- Follows the parts of a path from a directory, the one of the bench or one outside. The first dot
stands for the same directory and two dots for one outside. -/
def follow (names : List String) (outside : Bool) : (parts : List String) → Except PathFault Destination
  | [] => .error .directory
  | part :: rest =>
    if part = "" || part = "." then follow names outside rest
    else if part = ".." then follow names true rest
    else if rest.isEmpty then
      if longestName < part.utf8ByteSize then .error .tooLong
      else .ok (if outside then .elsewhere else .file part)
    else if rest.all (· = "") then .error .directory
    else if longestName < part.utf8ByteSize then .error .tooLong
    else if !outside && names.contains part then .error .notDirectory
    else .error .missing

/-- Where a path leads to on a bench with files of these names. -/
def ofPath (names : List String) (path : String) : Except PathFault Destination :=
  if path.toList.any (·.toNat = 0) then .error .zeroCharacter
  else if path = "" then .error .missing
  else if longestPath < path.utf8ByteSize then .error .tooLong
  else follow names (path.toList.head? = some '/') (path.splitOn "/")

end Destination

end SignalGenerator
