import CommentBlocks.Glob.Expression
import CommentBlocks.Glob.Match
import CommentBlocks.Issue.Cause
import CommentBlocks.Text.Blank

namespace CommentBlocks

structure Filter where
  glob : Glob
  inverted : Bool
  onlyDirectories : Bool

namespace Filter

/-- The line without the blanks at its end. An escaped space there keeps all of them. -/
def trimEnd (line : String) : String :=
  if [' ', '\\'].isPrefixOf line.toList.reverse then line
  else String.ofList (Text.dropBlanksEnd line.toList)

structure Marks where
  inverted : Bool
  anchored : Bool
  spelling : List Char

def marks : List Char → Marks
  | '\\' :: c :: rest =>
    if c = '!' ∨ c = '#' then ⟨false, false, c :: rest⟩ else ⟨false, false, '\\' :: c :: rest⟩
  | '!' :: '/' :: rest => ⟨true, true, rest⟩
  | '!' :: rest => ⟨true, false, rest⟩
  | '/' :: rest => ⟨false, true, rest⟩
  | line => ⟨false, false, line⟩

def dropSlash (s : List Char) : List Char × Bool :=
  match s.reverse with
  | '/' :: '\\' :: rest => (rest.reverse, true)
  | '/' :: rest => (rest.reverse, true)
  | _ => (s, false)

def anywhere (m : Marks) (s : List Char) : List Char :=
  if m.anchored || s.contains '/' || s == ['*', '*'] then s else '*' :: '*' :: '/' :: s

def within (s : List Char) : List Char :=
  if ['*', '*', '/'].isPrefixOf s.reverse then s ++ ['/', '*'] else s

/-- Refuses a glob that nests too deep. The expression is named where the glob asks for an
extension, since such globs are run one by one. -/
def checkDepth (g : Glob) : Except WalkError Unit :=
  if g.depth ≤ Glob.depthLimit then .ok ()
  else .error (.deepGlob (if g.needsExtension then some g.expression else none))

def ofLine? (line : String) : Except WalkError (Option Filter) :=
  if line.toList.head? == some '#' then .ok none
  else
    let line := trimEnd line
    if line.isEmpty then .ok none
    else
      let m := marks line.toList
      let (s, onlyDirectories) := dropSlash m.spelling
      match Glob.parse (String.ofList (within (anywhere m s))) with
      | .ok glob => (checkDepth glob).map fun _ => some ⟨glob, m.inverted, onlyDirectories⟩
      | .error fault => .error (.badGlob line fault)

def dropHere (path : Bytes) : Bytes :=
  if (Bytes.ofText "./").isPrefixOf path then path.drop 2 else path

def relative (base path : String) : Bytes :=
  let base := dropHere (Bytes.ofText base)
  let path := dropHere (Bytes.ofText path)
  if base = Bytes.ofText "." || !path.contains Bytes.slash || !base.isPrefixOf path then path
  else
    match path.drop base.length with
    | [] => []
    | b :: rest => if b = Bytes.slash then rest else b :: rest

/-- Whether a file, or a directory with all that it holds, is left out. A directory is entered
unless an inverted filter accepts it. -/
def skips (f : Filter) (base path : String) (isDirectory : Bool) : Bool :=
  if (isDirectory || !f.onlyDirectories) && f.glob.accepts (relative base path) then f.inverted
  else !f.inverted && !isDirectory

end Filter

end CommentBlocks
