import CommentBlocks.Selection.Limits
import CommentBlocks.Shared.Signal
import CommentBlocks.Worker.Alone

namespace CommentBlocks

/-- Where the dispatcher stands: before a group, in a group, behind the look at the signal that
comes before a file is handed out, waiting for the workers from the next one on, or at its end. -/
inductive Dispatcher
  | between (groups : List (List Job))
  | within (jobs : List Job) (groups : List (List Job))
  | cleared (job : Job) (jobs : List Job) (groups : List (List Job))
  | joining (next : Nat)
  | returned
  deriving DecidableEq, Repr

/-- The last of the blocks received is the first of their list. -/
structure Run where
  dispatcher : Dispatcher
  workers : List (Job × Phase)
  commons : Commons
  signals : Signals
  received : List Block
  ended : Bool

inductive Event
  | dispatch
  | work (worker : Nat)
  | receive
  | leave
  | raise (requests : List Signal.Request)
  deriving DecidableEq, Repr

namespace Run

/-- The signal of a run is a clone of the one that the caller keeps. -/
def signal : Nat := 1

def start (limits : Limits) (groups : List (List Job)) : Run :=
  ⟨.between groups, [],
    .start (Limits.effective limits.files) (Limits.effective limits.capacity),
    (Signal.serveAll .empty [.create, .clone 0]).1, [], false⟩

def isRaised (r : Run) : Bool := (r.signals.isRaised? signal).getD false

/-- Whether nobody is left who could send into the stream or report an issue. -/
def isSilent (r : Run) : Bool :=
  match r.dispatcher with
  | .returned => r.workers.all (·.2.isOver)
  | _ => false

/-- The step of the dispatcher. It looks at the signal before every group and before every file, and
reports the breakdown of a worker that could not do so itself. -/
def dispatch? (r : Run) : Option Run :=
  match r.dispatcher with
  | .between [] => some { r with dispatcher := .joining 0 }
  | .between (g :: gs) =>
    some { r with dispatcher := if r.isRaised then .joining 0 else .within g gs }
  | .within [] gs => some { r with dispatcher := .between gs }
  | .within (j :: js) gs =>
    some { r with dispatcher := if r.isRaised then .joining 0 else .cleared j js gs }
  | .cleared j js gs =>
    some { r with dispatcher := .within js gs, workers := r.workers ++ [(j, .waiting)] }
  | .joining n =>
    match r.workers[n]? with
    | none => some { r with dispatcher := .returned }
    | some (_, .done) => some { r with dispatcher := .joining (n + 1) }
    | some (j, .broken text) =>
      some { r with
        dispatcher := .joining (n + 1)
        commons := r.commons.report (Outcome.breakdown j.path text) }
    | some _ => none
  | .returned => none

def work? (t : Tools) (i : Nat) (r : Run) : Option Run :=
  match r.workers[i]? with
  | none => none
  | some (job, p) =>
    match p.step? t job r.commons with
    | none => none
    | some (c, p) => some { r with commons := c, workers := r.workers.set i (job, p) }

def receive? (r : Run) : Option Run :=
  if !r.commons.isOpen || r.ended then none
  else
    match r.commons.stream with
    | b :: bs =>
      some { r with commons := { r.commons with stream := bs }, received := b :: r.received }
    | [] => if r.isSilent then some { r with ended := true } else none

def fire? (t : Tools) (r : Run) : Event → Option Run
  | .dispatch => r.dispatch?
  | .work i => r.work? t i
  | .receive => r.receive?
  | .leave => if r.commons.isOpen then some { r with commons := r.commons.close } else none
  | .raise requests =>
    let s := { r with signals := (Signal.serveAll r.signals requests).1 }
    if !r.isRaised && s.isRaised then some s else none

end Run

inductive Run.Step (t : Tools) : Run → Run → Prop
  | fire {r r' : Run} (e : Event) (h : r.fire? t e = some r') : Step t r r'

inductive Run.Steps (t : Tools) : Run → Run → Prop
  | refl (r : Run) : Steps t r r
  | tail {r s u : Run} (h : Steps t r s) (hs : Step t s u) : Steps t r u

end CommentBlocks
