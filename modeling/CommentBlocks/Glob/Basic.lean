import CommentBlocks.Glob.Fault
import CommentBlocks.Glob.Part

namespace CommentBlocks

namespace Glob

/-- What has been read of a glob: the parts of the current branch, last part first, and for every
group that is open its finished branches and the parts that come before it. -/
structure Draft where
  branch : List Part
  groups : List (List (List Part) × List Part)

namespace Draft

def push (d : Draft) (p : Part) : Draft := { d with branch := p :: d.branch }

def openGroup (d : Draft) : Draft := ⟨[], ([], d.branch) :: d.groups⟩

def closeGroup (d : Draft) : Except GlobFault Draft :=
  match d.groups with
  | [] => .error .unopenedGroup
  | (finished, outer) :: groups =>
    .ok ⟨.choice ((d.branch :: finished).reverse.map List.reverse) :: outer, groups⟩

def comma (d : Draft) : Draft :=
  match d.groups with
  | [] => d.push (.literal ',')
  | (finished, outer) :: groups => ⟨[], (d.branch :: finished, outer) :: groups⟩

def deepen (d : Draft) (p : Part) : Draft :=
  match d.branch with
  | .leading :: _ => d
  | .trailing :: _ => d
  | _ :: rest => { d with branch := p :: rest }
  | [] => d

def twoStars (d : Draft) : Draft := (d.push .star).push .star

end Draft

/-- Reads two stars and a slash behind them. `last` is the character in front, and the result has
the character that was read last and the rest. -/
def deepStar (last : Option Char) (d : Draft) (s : List Char) : Draft × Char × List Char :=
  if d.branch.isEmpty then
    match s with
    | [] => (d.push .leading, '*', [])
    | c :: rest => if c = '/' then (d.push .leading, '/', rest) else (d.twoStars, '*', c :: rest)
  else if last ≠ some '/' ∧ (d.groups.isEmpty ∨ (last ≠ some ',' ∧ last ≠ some '\x7b')) then
    (d.twoStars, '*', s)
  else
    match s with
    | [] => (d.deepen .trailing, '*', [])
    | c :: rest =>
      if (c = ',' ∨ c = '\x7d') ∧ !d.groups.isEmpty then (d.deepen .trailing, '*', c :: rest)
      else if c = '/' then (d.deepen .between, '/', rest)
      else (d.twoStars, '*', c :: rest)

def endRange (c : Char) : List (Char × Char) → Except GlobFault (List (Char × Char))
  | [] => .ok [(c, c)]
  | (low, _) :: ranges => if c < low then .error (.invalidRange low c) else .ok ((low, c) :: ranges)

def classRanges (ranges : List (Char × Char)) (first inRange : Bool) :
    List Char → Except GlobFault (List (Char × Char) × List Char)
  | [] => .error .unclosedClass
  | c :: rest =>
    if first && (c == ']' || c == '-') then classRanges [(c, c)] false false rest
    else if c = ']' then .ok (if inRange then ('-', '-') :: ranges else ranges, rest)
    else if inRange then
      match endRange c ranges with
      | .error e => .error e
      | .ok ranges => classRanges ranges false false rest
    else if c = '-' then classRanges ranges false true rest
    else classRanges ((c, c) :: ranges) false false rest

def negation : List Char → Bool × List Char
  | [] => (false, [])
  | c :: rest => if c = '!' ∨ c = '^' then (true, rest) else (false, c :: rest)

def charClass (s : List Char) : Except GlobFault (Part × List Char) :=
  match classRanges [] true false (negation s).2 with
  | .error e => .error e
  | .ok (ranges, rest) => .ok (.oneOf (negation s).1 ranges.reverse, rest)

theorem length_deepStar_le (last : Option Char) (d : Draft) (s : List Char) :
    (deepStar last d s).2.2.length ≤ s.length := by
  unfold deepStar
  split
  · split
    · simp
    · split <;> simp
  · split
    · simp
    · split
      · simp
      · split
        · simp
        · split <;> simp

theorem length_le_of_classRanges {ranges out : List (Char × Char)} {first inRange : Bool}
    {s rest : List Char} (h : classRanges ranges first inRange s = .ok (out, rest)) :
    rest.length ≤ s.length := by
  fun_induction classRanges ranges first inRange s <;> simp_all <;> omega

theorem length_negation_le (s : List Char) : (negation s).2.length ≤ s.length := by
  unfold negation
  split
  · simp
  · split <;> simp

theorem length_le_of_charClass {s rest : List Char} {p : Part} (h : charClass s = .ok (p, rest)) :
    rest.length ≤ s.length := by
  unfold charClass at h
  split at h
  · simp at h
  · next hc =>
    obtain ⟨-, rfl⟩ := Prod.mk.inj (Except.ok.inj h)
    exact Nat.le_trans (length_le_of_classRanges hc) (length_negation_le s)

def readParts (last : Option Char) (d : Draft) (s : List Char) : Except GlobFault Draft :=
  match s with
  | [] => .ok d
  | '?' :: rest => readParts (some '?') (d.push .any) rest
  | '*' :: '*' :: rest =>
    readParts (some (deepStar last d rest).2.1) (deepStar last d rest).1 (deepStar last d rest).2.2
  | '*' :: rest => readParts (some '*') (d.push .star) rest
  | '[' :: rest =>
    match _h : charClass rest with
    | .error e => .error e
    | .ok (p, rest) => readParts (some ']') (d.push p) rest
  | '\\' :: [] => .error .danglingEscape
  | '\\' :: c :: rest => readParts (some c) (d.push (.literal c)) rest
  | c :: rest =>
    if c = '\x7b' then readParts (some c) d.openGroup rest
    else if c = '\x7d' then
      match d.closeGroup with
      | .error e => .error e
      | .ok d => readParts (some c) d rest
    else if c = ',' then readParts (some c) d.comma rest
    else readParts (some c) (d.push (.literal c)) rest
termination_by s.length
decreasing_by
  all_goals simp only [List.length_cons]
  · omega
  · have := length_deepStar_le last d rest
    omega
  · omega
  · have := length_le_of_charClass _h
    omega
  all_goals omega

end Glob

structure Glob where
  parts : List Glob.Part

def Glob.parse (spelling : String) : Except GlobFault Glob :=
  match readParts none ⟨[], []⟩ spelling.toList with
  | .error e => .error e
  | .ok d => if d.groups.isEmpty then .ok ⟨d.branch.reverse⟩ else .error .unclosedGroup

end CommentBlocks
