import CommentBlocks.Json.Form
import CommentBlocks.Json.Written

namespace CommentBlocks

open Json

/-- A group of files to be searched for comment blocks: files, directories or globs in order, the
language they are in, the name of their encoding, whether directories are entered to any depth, and
the extensions wanted from directories where they are not those of the language. Paths are texts, as
the names on a disk are. -/
structure Selection where
  paths : List String
  language : String
  encoding : Option String
  recursive : Bool
  extensions : List String
  deriving DecidableEq, Repr

namespace Selection

def ofLanguage (language : String) : Selection := ⟨[], language, none, false, []⟩

structure Draft where
  paths : Option (List String)
  language : Option String
  encoding : Option (Option String)
  recursive : Option Bool
  extensions : Option (List String)

def string (s : List Char) : Reading String :=
  (text s).map fun (t, rest) => (String.ofList t, rest)

def form : Form Draft Selection where
  slots :=
    [⟨"paths", (·.paths.isSome), fun d s =>
        (list string s).map fun (v, rest) => ({ d with paths := some v }, rest)⟩,
      ⟨"lang", (·.language.isSome), fun d s =>
        (string s).map fun (v, rest) => ({ d with language := some v }, rest)⟩,
      ⟨"encoding", (·.encoding.isSome), fun d s =>
        (text? s).map fun (v, rest) => ({ d with encoding := some (v.map String.ofList) }, rest)⟩,
      ⟨"recursive", (·.recursive.isSome), fun d s =>
        (bool s).map fun (v, rest) => ({ d with recursive := some v }, rest)⟩,
      ⟨"exts", (·.extensions.isSome), fun d s =>
        (list string s).map fun (v, rest) => ({ d with extensions := some v }, rest)⟩]
  blank := ⟨none, none, none, none, none⟩
  finish d := d.language.map fun language =>
    ⟨d.paths.getD [], language, d.encoding.getD none, d.recursive.getD false,
      d.extensions.getD []⟩

def parse (t : String) : Except Fault Selection := form.parse t

def members (s : Selection) : List (String × List Char) :=
  [("paths", writeList writeText s.paths), ("lang", writeText s.language)] ++
    (s.encoding.map fun e => ("encoding", writeText e)).toList ++
    [("recursive", writeBool s.recursive)] ++
    (if s.extensions.isEmpty then [] else [("exts", writeList writeText s.extensions)])

def write (s : Selection) : String := String.ofList (writeObject s.members)

end Selection

end CommentBlocks
