import CommentBlocks.Shared.Basic

namespace CommentBlocks

/-- The value of a channel. Its number tells how often a value has been sent. -/
structure Watch (α : Type) where
  value : α
  number : Nat
  deriving DecidableEq, Repr

structure Receiver where
  channel : Nat
  seen : Nat
  deriving DecidableEq, Repr

/-- How far a wait for a value has come. A wait that is asleep has a receiver of its own; it fails
if nobody is left who could send. -/
inductive Stage
  | begun
  | asleep (r : Receiver)
  | met
  | failed
  deriving DecidableEq, Repr

def Stage.isOver : Stage → Bool
  | met | failed => true
  | begun | asleep _ => false

namespace Watch

variable {α : Type}

def send (a : α) (c : Watch α) : Watch α := ⟨a, c.number + 1⟩

def look (accepts : α → Bool) (closed : Bool) (c : Watch α) (r : Receiver) : Stage :=
  if accepts c.value then .met
  else if closed then .failed
  else .asleep { r with seen := c.number }

/-- What a wait comes to that is asleep: it looks at the value only if it has been sent anew. -/
def wake (accepts : α → Bool) (closed : Bool) (c : Watch α) (r : Receiver) : Stage :=
  if r.seen ≠ c.number then c.look accepts closed r
  else if closed then .failed
  else .asleep r

end Watch

/-- A signal is raised at a sender that it shares with its clones, and read at a receiver of its
own. -/
structure Signal where
  sender : Nat
  receiver : Receiver
  deriving DecidableEq, Repr

structure Wait where
  handle : Nat
  stage : Stage
  deriving DecidableEq, Repr

structure Signals where
  channels : List (Watch Bool)
  handles : List Signal
  waits : List Wait
  deriving DecidableEq, Repr

namespace Signals

def empty : Signals := ⟨[], [], []⟩

def isClosed (s : Signals) (channel : Nat) : Bool := s.handles.all (·.sender != channel)

def isRaised? (s : Signals) (handle : Nat) : Option Bool :=
  s.handles[handle]?.bind fun h => s.channels[h.receiver.channel]?.map (·.value)

def look (s : Signals) (r : Receiver) : Stage :=
  match s.channels[r.channel]? with
  | some c => c.look id (s.isClosed r.channel) r
  | none => .failed

def wake (s : Signals) (r : Receiver) : Stage :=
  match s.channels[r.channel]? with
  | some c => c.wake id (s.isClosed r.channel) r
  | none => .failed

/-- The stage of a wait behind a poll. With the first one it clones the receiver of its signal. -/
def poll (s : Signals) (w : Wait) : Stage :=
  match w.stage with
  | .begun =>
    match s.handles[w.handle]? with
    | some h => s.look h.receiver
    | none => .begun
  | .asleep r => s.wake r
  | .met => .met
  | .failed => .failed

end Signals

namespace Signal

/-- What a holder of signals may ask for. A wait goes on when it is polled; `waitOver` asks whether
a new one is over with its first poll. -/
inductive Request
  | create
  | clone (handle : Nat)
  | raise (handle : Nat)
  | isRaised (handle : Nat)
  | waitOver (handle : Nat)
  | wait (handle : Nat)
  | poll (wait : Nat)
  deriving DecidableEq, Repr

inductive Answer
  | handle (n : Nat)
  | wait (n : Nat)
  | done
  | holds (b : Bool)
  | unknown
  deriving DecidableEq, Repr

def serve (s : Signals) : Request → Signals × Answer
  | .create =>
    let n := s.channels.length
    ({ s with channels := s.channels ++ [⟨false, 0⟩], handles := s.handles ++ [⟨n, ⟨n, 0⟩⟩] },
      .handle s.handles.length)
  | .clone h =>
    match s.handles[h]? with
    | some signal => ({ s with handles := s.handles ++ [signal] }, .handle s.handles.length)
    | none => (s, .unknown)
  | .raise h =>
    match s.handles[h]? with
    | some signal =>
      ({ s with channels := s.channels.modify signal.sender (Watch.send true) }, .done)
    | none => (s, .unknown)
  | .isRaised h => (s, (s.isRaised? h).elim .unknown .holds)
  | .waitOver h =>
    match s.handles[h]? with
    | some _ => (s, .holds (s.poll ⟨h, .begun⟩).isOver)
    | none => (s, .unknown)
  | .wait h =>
    match s.handles[h]? with
    | some _ => ({ s with waits := s.waits ++ [⟨h, .begun⟩] }, .wait s.waits.length)
    | none => (s, .unknown)
  | .poll n =>
    match s.waits[n]? with
    | some w =>
      if w.stage.isOver then (s, .unknown)
      else
        ({ s with waits := s.waits.set n { w with stage := s.poll w } },
          .holds (s.poll w).isOver)
    | none => (s, .unknown)

def serveAll (s : Signals) : List Request → Signals × List Answer
  | [] => (s, [])
  | r :: rs =>
    let (s, a) := serve s r
    let (s, as) := serveAll s rs
    (s, a :: as)

end Signal

end CommentBlocks
