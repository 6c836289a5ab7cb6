import CommentBlocks.Bytes
import CommentBlocks.Json.Form
import CommentBlocks.Json.Written

namespace CommentBlocks

open Json

structure Block where
  file : String
  line : Nat
  data : Bytes
  deriving DecidableEq, Repr

namespace Block

structure Draft where
  file : Option String
  line : Option Nat
  data : Option Bytes

def form : Form Draft Block where
  slots :=
    [⟨"file", (·.file.isSome), fun d s =>
        (text s).map fun (v, rest) => ({ d with file := some (String.ofList v) }, rest)⟩,
      ⟨"line", (·.line.isSome), fun d s =>
        (natural wordValues s).map fun (v, rest) => ({ d with line := some v }, rest)⟩,
      ⟨"data", (·.data.isSome), fun d s =>
        (list (natural 256) s).map fun (v, rest) =>
          ({ d with data := some (v.map Nat.toUInt8) }, rest)⟩]
  blank := ⟨none, none, none⟩
  finish d := do return ⟨← d.file, ← d.line, ← d.data⟩

def parse (t : String) : Except Fault Block := form.parse t

def members (b : Block) : List (String × List Char) :=
  [("file", writeText b.file), ("line", writeNat b.line),
    ("data", writeList (fun x => writeNat x.toNat) b.data)]

def write (b : Block) : String := String.ofList (writeObject b.members)

end Block

end CommentBlocks
