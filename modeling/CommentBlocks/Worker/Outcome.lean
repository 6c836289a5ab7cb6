import CommentBlocks.Block.Basic
import CommentBlocks.Charset.Decode
import CommentBlocks.Plan.Basic
import CommentBlocks.Source.Extract

namespace CommentBlocks

inductive Reading
  | data (b : Bytes)
  | failed (e : IoError)
  | broke
  deriving DecidableEq, Repr

abbrev Reader := (path : String) → Reading

def Disk.reader (d : Disk) : Reader := fun path =>
  match d.read path with
  | .ok b => .data b
  | .error e => .failed e

/-- The means by which files are read and their blocks extracted, and the text by which a breakdown
in the work on a file is told of. -/
structure Tools where
  reader : Reader
  extractor : Extractor
  breakdown : (path : String) → String

inductive Outcome
  | unreadable (e : IoError)
  | readerBroke (text : String)
  | undecodable (c : Charset)
  | extractorBroke (text : String)
  | extracted (e : Extract)

namespace Outcome

def ofData (t : Tools) (plan : Plan) (path : String) (b : Bytes) : Outcome :=
  match Charset.toUtf8 plan.charset b with
  | .error c => .undecodable c
  | .ok text =>
    match t.extractor path text plan.language with
    | none => .extractorBroke (t.breakdown path)
    | some e => .extracted e

def of (t : Tools) (plan : Plan) (path : String) : Outcome :=
  match t.reader path with
  | .failed e => .unreadable e
  | .broke => .readerBroke (t.breakdown path)
  | .data b => ofData t plan path b

def breakdown (path text : String) : Issue := .inFile path (.breakdown text)

/-- The issues that an outcome leaves. One that names no file is about the file worked on. -/
def issues (path : String) : Outcome → List Issue
  | unreadable e => [.inFile path (.io e)]
  | undecodable c => [.inFile path (.message ⟨.undecodable, [c.name]⟩)]
  | readerBroke text | extractorBroke text => [breakdown path text]
  | extracted e => e.issues.map fun i => if i.file.isEmpty then { i with file := path } else i

def blocks (path : String) : Outcome → List Block
  | extracted e => e.blocks.entries.map fun (line, data) => ⟨path, line, data⟩
  | _ => []

end Outcome

end CommentBlocks
