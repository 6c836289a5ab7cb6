import CommentBlocks.Bytes
import CommentBlocks.Glob.Basic

namespace CommentBlocks.Glob

def marked : List Char :=
  ['\\', '.', '+', '*', '?', '(', ')', '|', '[', ']', '\x7b', '\x7d', '^', '$', '#', '&', '-', '~']

def byteExpression (b : UInt8) : String :=
  if b < 0x80 then
    let c := Char.ofUInt8 b
    if marked.contains c then String.ofList ['\\', c] else String.ofList [c]
  else String.ofList ['\\', 'x', Nat.digitChar (b.toNat / 16), Nat.digitChar (b.toNat % 16)]

def literalExpression (c : Char) : String :=
  String.join ((Bytes.ofChars [c]).map byteExpression)

def rangeExpression (range : Char × Char) : String :=
  if range.1 = range.2 then literalExpression range.1
  else literalExpression range.1 ++ "-" ++ literalExpression range.2

mutual

def Part.expression : Part → String
  | .literal c => literalExpression c
  | .any => "[^/]"
  | .star => "[^/]*"
  | .leading => "(?:/?|.*/)"
  | .between => "(?:/|/.*/)"
  | .trailing => "/.*"
  | .oneOf negated ranges =>
    "[" ++ (if negated then "^" else "") ++ String.join (ranges.map rangeExpression) ++ "]"
  | .choice alternatives =>
    if allVoid alternatives then "" else "(?:" ++ "|".intercalate (branches alternatives) ++ ")"

def sequence : List Part → String
  | [] => ""
  | p :: ps => p.expression ++ sequence ps

def branches : List (List Part) → List String
  | [] => []
  | ps :: alternatives =>
    if areVoid ps then branches alternatives else sequence ps :: branches alternatives

end

def expression (g : Glob) : String :=
  let body := match g.parts with
    | [.leading] => ".*"
    | parts => sequence parts
  "(?-u)^" ++ body ++ "$"

/-- The depth of a group of things that nest as deep as given. A single one needs no group. -/
def grouped : List Nat → Nat
  | [] => 0
  | [depth] => depth
  | depths => depths.foldr max 0 + 1

def classSize (ranges : List (Char × Char)) : Nat :=
  ranges.foldr (fun r n =>
    if r.1 = r.2 then r.1.utf8Size + n else r.1.utf8Size + r.2.utf8Size - 1 + n) 0

mutual

/-- The depths of the things that the expression of a part puts behind one another. -/
def Part.depths : Part → List Nat
  | .literal c => List.replicate c.utf8Size 0
  | .any => [1]
  | .star => [2]
  | .leading => [4]
  | .between => [4]
  | .trailing => [0, 1]
  | .oneOf _ ranges => [if classSize ranges = 1 then 1 else 2]
  | .choice alternatives =>
    if allVoid alternatives then [] else [grouped (branchDepths alternatives) + 1]

def sequenceDepths : List Part → List Nat
  | [] => []
  | p :: ps => p.depths ++ sequenceDepths ps

def branchDepths : List (List Part) → List Nat
  | [] => []
  | ps :: alternatives =>
    if areVoid ps then branchDepths alternatives
    else grouped (sequenceDepths ps) :: branchDepths alternatives

end

def depth (g : Glob) : Nat := (sequenceDepths g.parts).foldr max 0 + 1

def depthLimit : Nat := 250

def startsAtExtension : List Part → Bool
  | .literal c :: ps => if c = '/' then false else c = '.' || startsAtExtension ps
  | _ => false

def needsExtension (g : Glob) : Bool := startsAtExtension g.parts.reverse

end CommentBlocks.Glob
