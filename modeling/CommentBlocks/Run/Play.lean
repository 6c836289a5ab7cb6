import CommentBlocks.Plan.All
import CommentBlocks.Run.Weight

namespace CommentBlocks.Run

/-- Makes plans of all selections, and begins a run with their files if nothing is wrong with
them. -/
def ofInputs (limits : Limits) (d : Disk) (ls : Languages) (inputs : List (Option Selection)) :
    Except Issue Run :=
  (Plan.ofInputs d ls inputs).map fun plans => start limits (plans.map Plan.jobs)

def workAmong? (t : Tools) (r : Run) : Nat → Option Run
  | 0 => none
  | n + 1 => (r.work? t n).or (r.workAmong? t n)

/-- The run behind the next event that is chosen. Blocks are received as they come. A new worker
goes on until it has to wait, and then the next file is handed out. -/
def next? (t : Tools) (listening : Bool) (r : Run) : Option Run :=
  (if listening then r.receive? else none).or
    ((r.work? t (r.workers.length - 1)).or (r.dispatch?.or (r.workAmong? t r.workers.length)))

theorem weight_workAmong?_lt {t : Tools} {r r' : Run} {n : Nat} (h : r.workAmong? t n = some r') :
    r'.weight t < r.weight t := by
  induction n with
  | zero => cases h
  | succ n ih =>
    rcases Option.or_eq_some_iff.mp h with h | ⟨-, h⟩
    · exact weight_work?_lt h
    · exact ih h

theorem weight_next?_lt {t : Tools} {listening : Bool} {r r' : Run}
    (h : r.next? t listening = some r') : r'.weight t < r.weight t := by
  rcases Option.or_eq_some_iff.mp h with h | ⟨-, h⟩
  · split at h
    · exact weight_receive?_lt h
    · cases h
  · rcases Option.or_eq_some_iff.mp h with h | ⟨-, h⟩
    · exact weight_work?_lt h
    · rcases Option.or_eq_some_iff.mp h with h | ⟨-, h⟩
      · exact weight_dispatch?_lt h
      · exact weight_workAmong?_lt h

def settle (t : Tools) (listening : Bool) (r : Run) : Run :=
  match _h : r.next? t listening with
  | none => r
  | some r' => r'.settle t listening
termination_by r.weight t
decreasing_by exact weight_next?_lt _h

def play (t : Tools) (events : List Event) (r : Run) : Run :=
  events.foldl (fun r e => (r.fire? t e).getD r) r

def raised (t : Tools) (r : Run) : Run := r.play t [.raise [.raise 0]]

def stepsInto (place : Nat) : List (List Job) → Option Nat
  | [] => none
  | g :: gs =>
    match place with
    | 0 => some 1
    | place + 1 => (stepsInto place gs).map (2 * g.length + 2 + ·)

def raisedIn (t : Tools) (place : Nat) (r : Run) : Run :=
  match r.dispatcher with
  | .between groups =>
    match stepsInto place groups with
    | some n => r.play t (List.replicate n .dispatch ++ [.raise [.raise 0]])
    | none => r
  | _ => r

/-- Asks for `n` blocks and leaves. The end of the stream is the last answer. -/
def receiveUpTo (t : Tools) (r : Run) : Nat → Run
  | 0 => (r.play t [.leave]).settle t false
  | n + 1 =>
    match _h : r.receive? with
    | some r' => if r'.ended then (r'.play t [.leave]).settle t false else r'.receiveUpTo t n
    | none =>
      match _h : r.next? t false with
      | some r' => r'.receiveUpTo t (n + 1)
      | none => r
termination_by r.weight t
decreasing_by
  · exact weight_receive?_lt _h
  · exact weight_next?_lt _h

def drained (t : Tools) (r : Run) : Run := r.settle t true

end CommentBlocks.Run
