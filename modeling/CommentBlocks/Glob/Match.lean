import CommentBlocks.Glob.Basic
import CommentBlocks.Glob.Reach

namespace CommentBlocks.Glob

open Bytes

/-- Whether a byte is in a range of a class. Classes look at bytes: the range stands between the
last byte of its lower end and the first byte of its upper end, and the other bytes of the two
stand for themselves. -/
def rangeHas (b : UInt8) (range : Char × Char) : Bool :=
  let low := ofChars [range.1]
  let high := ofChars [range.2]
  if range.1 = range.2 then low.contains b
  else
    low.dropLast.contains b || high.tail.contains b ||
      (low.getLast?.all (· ≤ b) && high.head?.all (b ≤ ·))

namespace Reach

def literal (bs : Bytes) (r : Reach) : Reach := bs.foldl (fun r b => r.step (· == b)) r

def inName (r : Reach) : Reach := r.step (· != slash)

def oneSlash (r : Reach) : Reach := r.step (· == slash)

def upToSlash (r : Reach) : Reach := r.union (r.spread fun _ => true).oneSlash

end Reach

mutual

/-- How far a path is taken with one more part. Void alternatives are left out of a choice, and a
choice that is void takes nothing. -/
def Part.advance : Part → Reach → Reach
  | .literal c, r => r.literal (ofChars [c])
  | .any, r => r.inName
  | .star, r => r.spread (· != slash)
  | .leading, r => r.upToSlash
  | .between, r => r.oneSlash.upToSlash
  | .trailing, r => r.oneSlash.spread fun _ => true
  | .oneOf negated ranges, r => r.step fun b => ranges.any (rangeHas b) != negated
  | .choice alternatives, r =>
    if allVoid alternatives then r else advanceAny alternatives r

def advanceAll : List Part → Reach → Reach
  | [], r => r
  | p :: ps, r => advanceAll ps (p.advance r)

def advanceAny : List (List Part) → Reach → Reach
  | [], r => .unmarked r.bytes
  | ps :: alternatives, r =>
    if areVoid ps then advanceAny alternatives r
    else (advanceAll ps r).union (advanceAny alternatives r)

end

/-- Whether the whole of a path matches. Directories in front with nothing behind them are any path
at all. -/
def accepts (g : Glob) (path : Bytes) : Bool :=
  match g.parts with
  | [.leading] => true
  | parts => (advanceAll parts (.start path)).isComplete

end CommentBlocks.Glob
