import CommentBlocks.Glob.Fault
import CommentBlocks.Message.Phrase

namespace CommentBlocks

inductive Errno
  | noEntry
  | notDirectory
  | isDirectory
  | nameTooLong
  | tooManyLinks
  deriving DecidableEq, Repr

def Errno.text : Errno → String
  | noEntry => "No such file or directory (os error 2)"
  | notDirectory => "Not a directory (os error 20)"
  | isDirectory => "Is a directory (os error 21)"
  | nameTooLong => "File name too long (os error 36)"
  | tooManyLinks => "Too many levels of symbolic links (os error 40)"

inductive IoKind
  | notFound
  | permissionDenied
  | invalidData
  | unexpectedEnd
  deriving DecidableEq, Repr

def IoKind.text : IoKind → String
  | notFound => "entity not found"
  | permissionDenied => "permission denied"
  | invalidData => "invalid data"
  | unexpectedEnd => "unexpected end of file"

inductive IoError
  | system (e : Errno)
  | plain (kind : IoKind)
  | custom (text : String)
  | nulInPath
  deriving DecidableEq, Repr

def IoError.text : IoError → String
  | system e => e.text
  | plain kind => kind.text
  | custom text => text
  | nulInPath => "file name contained an unexpected NUL byte"

/-- What stops the listing of a directory. A glob whose regular expression nests too deep may come
with that expression, and whatever else the walker reports comes with its text. -/
inductive WalkError
  | unreadable (path : String) (error : IoError)
  | loop (child ancestor : String)
  | badGlob (line : String) (fault : GlobFault)
  | deepGlob (expression : Option String)
  | other (text : String)
  deriving DecidableEq, Repr

def WalkError.text : WalkError → String
  | unreadable path error => s!"{path}: IO error for operation on {path}: {error.text}"
  | loop child ancestor => s!"File system loop found: {child} points to an ancestor {ancestor}"
  | badGlob line fault => s!"error parsing glob '{line}': {fault.text}"
  | deepGlob none => "error parsing pattern 0"
  | deepGlob (some expression) => s!"error parsing glob '{expression}': error parsing pattern 0"
  | other text => text

/-- The reason of an issue. A breakdown is the sudden end of the work on a file. -/
inductive Cause
  | io (error : IoError)
  | walk (error : WalkError)
  | message (m : Message)
  | breakdown (text : String)
  deriving DecidableEq, Repr

namespace Cause

def text : Cause → String
  | io error => error.text
  | walk error => error.text
  | message m => m.text
  | breakdown text => "worker failed: " ++ text

def message? : Cause → Option Message
  | message m => some m
  | _ => none

def isBreakdown : Cause → Bool
  | breakdown _ => true
  | _ => false

end Cause

end CommentBlocks
