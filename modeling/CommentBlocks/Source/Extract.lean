import CommentBlocks.Block.ByLine
import CommentBlocks.Issue.Issue
import CommentBlocks.Source.Piece

namespace CommentBlocks

open Bytes

/-- Line comments being joined: their opener, the first and the last line, and their bodies, the
last of them first. -/
structure Joined where
  opener : Bytes
  first : Nat
  last : Nat
  bodies : List Bytes
  deriving DecidableEq, Repr

def Joined.text (j : Joined) : Bytes :=
  match j.bodies with
  | [] => []
  | last :: before => before.foldl (fun text body => body ++ newline :: text) last

/-- What is known behind some pieces of a source: the line reached, the line comments that the next
one may still join, and the texts of finished comments with their lines, the last of them first. -/
structure Collected where
  line : Nat
  joined : Option Joined
  found : List (Nat × Bytes)
  deriving DecidableEq, Repr

def dropReturn (body : Bytes) : Bytes :=
  if body.getLast? = some carriageReturn then body.dropLast else body

namespace Collected

def start : Collected := ⟨1, none, []⟩

def settle (c : Collected) : Collected :=
  match c.joined with
  | some j => { c with joined := none, found := (j.first, j.text) :: c.found }
  | none => c

def take (c : Collected) : Piece → Collected
  | .newline => { c with line := c.line + 1 }
  | .blank _ => c
  | .code _ => c.settle
  | .literal _ lines => { c.settle with line := c.line + lines }
  | .lineComment opener body =>
    let body := dropReturn body
    match c.joined with
    | some j =>
      if j.opener = opener ∧ j.last + 1 = c.line then
        { c with joined := some { j with last := c.line, bodies := body :: j.bodies } }
      else { c.settle with joined := some ⟨opener, c.line, c.line, [body]⟩ }
    | none => { c with joined := some ⟨opener, c.line, c.line, [body]⟩ }
  | .blockComment opener body closer =>
    { c.settle with
      line := c.line + newlines (opener ++ body ++ closer)
      found := (c.line, body) :: c.settle.found }

def ofPieces (pieces : List Piece) : Collected := pieces.foldl take start

def blocks (c : Collected) : ByLine := .ofFound c.settle.found

end Collected

structure Extract where
  blocks : ByLine
  issues : List Issue

abbrev Extractor := (path : String) → Bytes → Language → Option Extract

/-- The blocks that the rules of the language find. An open literal or comment is an issue on the
line where it starts; what comes before it is kept. -/
def extract : Extractor := fun path data language =>
  let pieces := cut language.rules data
  let collected := Collected.ofPieces pieces.list
  match pieces.ending with
  | .complete => some ⟨collected.blocks, []⟩
  | .unclosed =>
    some ⟨collected.blocks, [⟨path, "", collected.line, .message (.just .unclosed)⟩]⟩
  | .endless => none

end CommentBlocks
