/-!
# Files by their paths

What a program can see of a disk, held in memory: its files, and the directory in which it runs.
Paths are walked part by part from the root, or from that directory if they are relative; every
part but the last has to be a directory that exists, also where the next one leads back out of it.
Reading a file and appending to one fail as they do on a real disk.
-/

namespace Noughts

/-- Why a file cannot be read or opened. -/
inductive FileError where
  | notFound
  | notADirectory
  | isADirectory
  | nameTooLong
  /-- The path has a NUL character in it. -/
  | nulInPath
  /-- The contents are not UTF-8. -/
  | invalidUtf8
  /-- Any other reason, in words. -/
  | other (reason : String)
deriving DecidableEq, Repr

/-- The wording of the reason. -/
def FileError.message : FileError → String
  | notFound => "No such file or directory (os error 2)"
  | notADirectory => "Not a directory (os error 20)"
  | isADirectory => "Is a directory (os error 21)"
  | nameTooLong => "File name too long (os error 36)"
  | nulInPath => "file name contained an unexpected NUL byte"
  | invalidUtf8 => "stream did not contain valid UTF-8"
  | other reason => reason

/-- Files by their absolute paths, each a list of parts, and the directory in which a program runs.
The directories are those that lead to it or to a file. -/
structure Disk where
  home : List String
  files : List (List String × List UInt8)

namespace Disk

/-- The most bytes that a part of a path may have. -/
def maxPartSize : Nat := 255

/-- The most bytes that a path may have. -/
def maxPathSize : Nat := 4095

/-- The parts of a path. Slashes in a row count as one. -/
def parts (path : String) : List String := (path.splitOn "/").filter (· != "")

/-- Whether a path leads to a directory. -/
def isDirectory (d : Disk) (path : List String) : Bool :=
  path.isPrefixOf d.home || d.files.any fun (file, _) => path != file && path.isPrefixOf file

/-- Where a path leads. -/
inductive Place where
  | directory
  | file (path : List String) (bytes : List UInt8)
  /-- A file that does not exist, in a directory that does. -/
  | vacant (path : List String)
deriving DecidableEq, Repr

/-- Walk on from a directory. -/
def walk (d : Disk) (directory : List String) : List String → Except FileError Place
  | [] => .ok .directory
  | part :: rest =>
    if part = "." then walk d directory rest
    else if part = ".." then walk d directory.dropLast rest
    else if maxPartSize < part.utf8ByteSize then .error .nameTooLong
    else
      let path := directory ++ [part]
      if d.isDirectory path then walk d path rest
      else
        match d.files.lookup path, rest with
        | some bytes, [] => .ok (.file path bytes)
        | some _, _ :: _ => .error .notADirectory
        | none, [] => .ok (.vacant path)
        | none, _ :: _ => .error .notFound

/-- The directory at which the walk along a path begins. -/
def start (d : Disk) (path : String) : Except FileError (List String) :=
  if path.toList.contains '\x00' then .error .nulInPath
  else if path.isEmpty then .error .notFound
  else if maxPathSize < path.utf8ByteSize then .error .nameTooLong
  else .ok (if path.startsWith "/" then [] else d.home)

/-- Look a path up. -/
def find (d : Disk) (path : String) : Except FileError Place := do
  let start ← d.start path
  d.walk start (parts path)

/-- Look up what the last part of a path would be in. -/
def findOuter (d : Disk) (path : String) : Except FileError Place := do
  let start ← d.start path
  d.walk start (parts path).dropLast

/-- The bytes of a file. A slash at the end of its path asks for a directory. -/
def read (d : Disk) (path : String) : Except FileError (List UInt8) := do
  match ← d.find path with
  | .directory => .error .isADirectory
  | .file _ bytes => if path.endsWith "/" then .error .notADirectory else .ok bytes
  | .vacant _ => .error .notFound

/-- The absolute path of a file to append to, and what the file holds already. A file that does not
exist comes into being, so a slash at the end of its path is refused before its last part is looked
at. -/
def openForAppend (d : Disk) (path : String) : Except FileError (List String × List UInt8) := do
  if path.endsWith "/" then
    match ← d.findOuter path with
    | .directory => .error .isADirectory
    | .file _ _ => .error .notADirectory
    | .vacant _ => .error .notFound
  else
    match ← d.find path with
    | .directory => .error .isADirectory
    | .file path bytes => .ok (path, bytes)
    | .vacant path => .ok (path, [])

/-- The disk with a file replaced or added. -/
def put (d : Disk) (path : List String) (bytes : List UInt8) : Disk :=
  if (d.files.lookup path).isSome then
    { d with files := d.files.map fun (file, old) => (file, if file = path then bytes else old) }
  else
    { d with files := d.files ++ [(path, bytes)] }

end Disk

end Noughts
