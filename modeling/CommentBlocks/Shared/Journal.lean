import CommentBlocks.Message.Translator
import CommentBlocks.Shared.Basic

namespace CommentBlocks

structure Journal where
  translator : Translator
  issues : List Issue

namespace Journal

def new (t : Translator) : Journal := ⟨t, []⟩

def write (i : Issue) (j : Journal) : Journal := { j with issues := j.issues ++ [i] }

def clear (j : Journal) : Journal := { j with issues := [] }

def messages (j : Journal) : List String := j.issues.map j.translator.report

inductive Request
  | create (t : Translator)
  | clone (handle : Nat)
  | write (handle : Nat) (i : Issue)
  | size (handle : Nat)
  | isEmpty (handle : Nat)
  | messages (handle : Nat)
  | take (handle : Nat)

inductive Answer
  | handle (n : Nat)
  | size (n : Nat)
  | isEmpty (b : Bool)
  | messages (texts : List String)
  | issues (is : List Issue)
  | unknown

/-- Answers a request. Taking leaves the journal empty. -/
def serve (s : Shared Journal) : Request → Shared Journal × Answer
  | .create t => ((s.create (new t)).1, .handle (s.create (new t)).2)
  | .clone h =>
    match s.clone? h with
    | some (s', n) => (s', .handle n)
    | none => (s, .unknown)
  | .write h i =>
    let s := s.modify h (write i)
    (s, (s.get? h).elim .unknown fun j => .size j.issues.length)
  | .size h => (s, (s.get? h).elim .unknown fun j => .size j.issues.length)
  | .isEmpty h => (s, (s.get? h).elim .unknown fun j => .isEmpty j.issues.isEmpty)
  | .messages h => (s, (s.get? h).elim .unknown fun j => .messages j.messages)
  | .take h => (s.modify h clear, (s.get? h).elim .unknown fun j => .issues j.issues)

def serveAll (s : Shared Journal) : List Request → Shared Journal × List Answer
  | [] => (s, [])
  | r :: rs =>
    let (s, a) := serve s r
    let (s, as) := serveAll s rs
    (s, a :: as)

end Journal

end CommentBlocks
