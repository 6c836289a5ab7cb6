import CommentBlocks.Issue.Cause

namespace CommentBlocks

/-- One thing that went wrong. An issue that belongs to no field has the empty field, and one that
belongs to no line has line zero. -/
structure Issue where
  file : String
  field : String
  line : Nat
  cause : Cause
  deriving DecidableEq, Repr

namespace Issue

def inFile (file : String) (cause : Cause) : Issue := ⟨file, "", 0, cause⟩

def inField (field : String) (cause : Cause) : Issue := ⟨"", field, 0, cause⟩

def within (parent : String) (i : Issue) : Issue :=
  { i with field := if i.field.isEmpty then parent else parent ++ "." ++ i.field }

def text (i : Issue) : String :=
  i.cause.text ++ " at " ++ i.file ++ ":" ++ toString i.line ++
    (if i.field.isEmpty then "" else " (" ++ i.field ++ ")")

end Issue

end CommentBlocks
