import MeterUplink.Files
import MeterUplink.Files.Path

namespace MeterUplink

/-! A working directory given by its content. Nothing outside of it is known but the directories
above it, the root with its usual directories, and the null device, which is always empty. -/

inductive DirectoryEntry where
  | file (content : List UInt8)
  | directory
deriving Repr, DecidableEq

/-- Entries by their names from the working directory on. -/
structure Directory where
  entries : List (List String × DirectoryEntry)
deriving Repr, DecidableEq

/-- A directory on the way along a path. -/
inductive Place where
  | inside (names : List String)
  | root
  | devices
  /-- Above the working directory, or in a directory of which nothing is known. -/
  | unknown
deriving Repr, DecidableEq

namespace Directory

/-- The most bytes that a name may have, and the number that a whole path has to stay below. -/
def longestName : Nat := 255

def pathLimit : Nat := 4096

/-- Directories on the way to an entry exist with it. -/
def entryAt? (directory : Directory) (names : List String) : Option DirectoryEntry :=
  match directory.entries.lookup names with
  | some entry => some entry
  | none =>
    if names.isEmpty || directory.entries.any (names.isPrefixOf ·.1) then some .directory
    else none

/-- The directories that are found under the root. -/
def rootNames : List String :=
  ["bin", "dev", "etc", "home", "lib", "opt", "proc", "root", "run", "sys", "tmp", "usr", "var"]

/-- The directories that are found among the devices. -/
def deviceDirectories : List String := ["mqueue", "pts", "shm"]

/-- What a name in a directory leads to. -/
inductive Target where
  | place (place : Place)
  | file (content : List UInt8)
deriving Repr, DecidableEq

/-- The directory that holds a place; the root holds itself. -/
def holding : Place → Place
  | .inside (first :: rest) => .inside (first :: rest).dropLast
  | .inside [] => .unknown
  | .root | .devices => .root
  | .unknown => .unknown

def target? (directory : Directory) (place : Place) (name : String) : Option Target :=
  if name = ".." then some (.place (holding place))
  else
    match place with
    | .inside names =>
      (directory.entryAt? (names ++ [name])).map fun entry =>
        match entry with
        | .directory => .place (.inside (names ++ [name]))
        | .file content => .file content
    | .root =>
      if name = "dev" then some (.place .devices)
      else if rootNames.contains name then some (.place .unknown)
      else none
    | .devices =>
      if name = "null" then some (.file [])
      else if deviceDirectories.contains name then some (.place .unknown)
      else none
    | .unknown => none

/-- Follows names from a place; where they lead to a directory there is no content. -/
def follow (directory : Directory) (place : Place) :
    List String → Except FileError (Option (List UInt8))
  | [] => .ok none
  | name :: rest =>
    if longestName < name.utf8ByteSize then .error .nameTooLong
    else
      match directory.target? place name with
      | none => .error .notFound
      | some (.place next) => directory.follow next rest
      | some (.file content) => if rest.isEmpty then .ok (some content) else .error .notDirectory

/-- A path that ends in a slash or a dot has to lead to a directory. -/
def asksForDirectory (path : String) : Bool :=
  match (path.toList.splitOn '/').getLast? with
  | some last => (last == [] || last == ['.']) && path.toList.contains '/'
  | none => false

def read (directory : Directory) (path : String) : Except FileError (List UInt8) :=
  if path = "" then .error .notFound
  else if path.toList.contains '\x00' then .error .unusableName
  else if pathLimit ≤ path.utf8ByteSize then .error .nameTooLong
  else
    let start := if Path.isAbsolute path then Place.root else Place.inside []
    match directory.follow start (Path.names path) with
    | .error e => .error e
    | .ok none => .error .isDirectory
    | .ok (some content) =>
      if asksForDirectory path then .error .notDirectory else .ok content

def files (directory : Directory) : Files := ⟨directory.read⟩

end Directory

end MeterUplink
