import CommentBlocks.Disk.Node
import CommentBlocks.Disk.Path
import CommentBlocks.Issue.Cause

namespace CommentBlocks

/-- A file system with the directory that relative paths start from. -/
structure Disk where
  root : Node
  working : Location
  named : root.WellNamed

namespace Disk

def linkLimit : Nat := 40

def pathLimit : Nat := 4096

def steps (path : String) : List Component :=
  let inner := (Path.segments path.toList).filterMap Path.component?
  if Path.endsInSlash path then inner ++ [.here] else inner

def origin (base : Location) (path : String) : Location :=
  if Path.isAbsolute path then [] else base

/-- Takes the steps from a location, following at most `links` links. -/
def follow (d : Disk) (links : Nat) (place : Location) : List Component → Except Errno Location
  | [] => .ok place
  | step :: rest =>
    match d.root.get? place with
    | some (.directory entries) =>
      match step with
      | .root => d.follow links [] rest
      | .here => d.follow links place rest
      | .up => d.follow links place.dropLast rest
      | .name s =>
        if Path.nameLimit < Path.byteLength s then .error .nameTooLong
        else
          match Node.child? s entries with
          | none => .error .noEntry
          | some (.link target) =>
            match links with
            | 0 => .error .tooManyLinks
            | links + 1 => d.follow links (origin place target) (steps target ++ rest)
          | some _ => d.follow links (place ++ [s]) rest
    | some _ => .error .notDirectory
    | none => .error .noEntry
termination_by steps => (links, steps.length)

def locate (d : Disk) (path : String) : Except IoError Location :=
  if path.toList.contains '\x00' then .error .nulInPath
  else if path.isEmpty then .error (.system .noEntry)
  else (d.follow linkLimit (origin d.working path) (steps path)).mapError .system

def resolve (d : Disk) (path : String) : Except IoError Location :=
  if path.toList.contains '\x00' then .error .nulInPath
  else if pathLimit ≤ Path.byteLength path then .error (.system .nameTooLong)
  else d.locate path

def lookup (d : Disk) (path : String) : Except IoError Node := do
  let loc ← d.resolve path
  match d.root.get? loc with
  | some n => .ok n
  | none => .error (.system .noEntry)

def read (d : Disk) (path : String) : Except IoError Bytes := do
  match ← d.lookup path with
  | .file data => .ok data
  | _ => .error (.system .isDirectory)

def isDirectory (d : Disk) (path : String) : Bool :=
  match d.lookup path with
  | .ok (.directory _) => true
  | _ => false

def pathWidth (loc : Location) : Nat := loc.foldr (fun s n => Path.byteLength s + 1 + n) 0

/-- The location that a path of any length leads to, unless the way to it from the root is too
long. -/
def canonical (d : Disk) (path : String) : Except IoError Location := do
  let loc ← d.locate path
  if pathLimit ≤ pathWidth loc then .error (.system .nameTooLong) else .ok loc

/-- What two spellings of one file have in common: the names that lead to it from the root, or the
normal form of the path where these cannot be found. -/
def identity (d : Disk) (path : String) : List Component :=
  match d.canonical path with
  | .ok loc => .root :: loc.map .name
  | .error _ => Path.normalize (Path.components path)

end Disk

end CommentBlocks
