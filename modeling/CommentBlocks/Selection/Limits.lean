import CommentBlocks.Json.Form
import CommentBlocks.Json.Written

namespace CommentBlocks

open Json

structure Limits where
  capacity : Nat
  files : Nat
  deriving DecidableEq, Repr

namespace Limits

def standard : Limits := ⟨500, 64⟩

def most : Nat := 2305843009213693951

/-- Brings a limit between one and the most it can be. -/
def effective (n : Nat) : Nat := max 1 (min n most)

theorem one_le_effective (n : Nat) : 1 ≤ effective n := Nat.le_max_left _ _

structure Draft where
  capacity : Option Nat
  files : Option Nat

def form : Form Draft Limits where
  slots :=
    [⟨"channel_capacity", (·.capacity.isSome), fun d s =>
        (natural wordValues s).map fun (v, rest) => ({ d with capacity := some v }, rest)⟩,
      ⟨"max_concurrent_files", (·.files.isSome), fun d s =>
        (natural wordValues s).map fun (v, rest) => ({ d with files := some v }, rest)⟩]
  blank := ⟨none, none⟩
  finish d := some ⟨d.capacity.getD standard.capacity, d.files.getD standard.files⟩

def parse (t : String) : Except Fault Limits := form.parse t

def members (l : Limits) : List (String × List Char) :=
  [("channel_capacity", writeNat l.capacity), ("max_concurrent_files", writeNat l.files)]

def write (l : Limits) : String := String.ofList (writeObject l.members)

end Limits

end CommentBlocks
