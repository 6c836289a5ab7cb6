import CommentBlocks.Disk.Walk
import CommentBlocks.Glob.Filter
import CommentBlocks.Issue.Issue
import CommentBlocks.Language.Rule
import CommentBlocks.Selection.Basic

namespace CommentBlocks.Selection

def isGlob (s : String) : Bool :=
  s.toList.any fun c => c = '*' || c = '?' || c = '[' || c = '\x7b'

def wants (s : Selection) (language : Language) (path : String) : Bool :=
  match (Path.fileName? path).bind (Path.extension? ·.toList) with
  | none => false
  | some e =>
    let e := String.ofList e
    if s.extensions.isEmpty then language.hasExtension e
    else s.extensions.any fun x => sameLetters (String.ofList (x.toList.dropWhile (· = '.'))) e

/-- Lists the files below `base` that a glob accepts. Without two stars for a name they are as deep
as the glob is long. -/
def globFiles (s : Selection) (d : Disk) (base : String) (names : List String) :
    Except Cause (List String) :=
  if !d.isDirectory base then .error (.message (.just .noDirectory))
  else
    let levels := if s.recursive || names.contains "**" then none else some names.length
    match Filter.ofLine? ("/".intercalate names) with
    | .error e => .error (.walk e)
    | .ok filter =>
      (d.walk (fun path isDirectory => filter.any (·.skips base path isDirectory)) levels
        base).mapError .walk

/-- The base of a glob, which is the longest way to it without wildcards, and the names behind. -/
def splitGlob (entry : String) : String × List String :=
  let (base, names) := (Path.components entry).span (!isGlob ·.text)
  (if base.isEmpty then "." else Path.spell base, names.map (·.text))

/-- Lists the files of an entry. What is not there stands for itself: it is missed when it is read,
unless a slash at the end says that it is a directory. -/
def entryFiles (s : Selection) (d : Disk) (language : Language) (entry : String) :
    Except Cause (List String) :=
  if isGlob entry then s.globFiles d (splitGlob entry).1 (splitGlob entry).2
  else
    match d.lookup entry with
    | .ok (.directory _) =>
      match d.walk (fun _ _ => false) (if s.recursive then none else some 1) entry with
      | .ok files => .ok (files.filter (s.wants language))
      | .error e => .error (.walk e)
    | .ok _ => .ok [entry]
    | .error (.system .noEntry) =>
      if Path.endsInSlash entry then .error (.message (.just .noDirectory)) else .ok [entry]
    | .error e => .error (.io e)

def candidates (s : Selection) (d : Disk) (language : Language) :
    List String → Except Issue (List String)
  | [] => .ok []
  | entry :: rest =>
    match s.entryFiles d language entry with
    | .error cause => .error ⟨entry, "paths", 0, cause⟩
    | .ok files => (s.candidates d language rest).map (files ++ ·)

def firstSpellings (d : Disk) (seen : List (List Component)) : List String → List String
  | [] => []
  | path :: rest =>
    if seen.contains (d.identity path) then firstSpellings d seen rest
    else path :: firstSpellings d (d.identity path :: seen) rest

end CommentBlocks.Selection
