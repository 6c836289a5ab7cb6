namespace CommentBlocks.Glob

/-- A part of a glob. `leading`, `between` and `trailing` stand for any number of directories in
front, in between and behind. -/
inductive Part
  | literal (c : Char)
  | any
  | star
  | leading
  | between
  | trailing
  | oneOf (negated : Bool) (ranges : List (Char × Char))
  | choice (alternatives : List (List Part))
  deriving Repr

mutual

def Part.isVoid : Part → Bool
  | .choice alternatives => allVoid alternatives
  | _ => false

def areVoid : List Part → Bool
  | [] => true
  | p :: ps => p.isVoid && areVoid ps

def allVoid : List (List Part) → Bool
  | [] => true
  | ps :: alternatives => areVoid ps && allVoid alternatives

end

end CommentBlocks.Glob
