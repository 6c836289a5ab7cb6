import CommentBlocks.Worker.Phase

namespace CommentBlocks

structure Yield where
  blocks : List Block
  issues : List Issue
  deriving DecidableEq, Repr

namespace Commons

def start (files capacity : Nat) : Commons := ⟨files, capacity, [], true, []⟩

def drain (c : Commons) : Commons := { c with stream := [] }

def collect (c : Commons) : Commons := { c with issues := [] }

end Commons

namespace Phase

def leftOver (path : String) : Phase → List Issue
  | broken text => [Outcome.breakdown path text]
  | _ => []

/-- Runs a worker until it cannot go on, and gives the blocks received meanwhile. -/
def runAlone (t : Tools) (job : Job) (c : Commons) (p : Phase) : Commons × Phase × List Block :=
  match _h : p.step? t job c.drain with
  | none => (c, p, [])
  | some (c', p') =>
    let (last, ending, blocks) := runAlone t job c'.drain p'
    (last, ending, c'.stream ++ blocks)
termination_by p.weight t job
decreasing_by
  have := weight_step?_lt _h
  simp only [Commons.drain, List.length_nil] at this
  omega

end Phase

namespace Commons

/-- Works on one file, up to the phase in which the work ends. -/
def execute (t : Tools) (job : Job) (c : Commons) : Commons × Phase × Yield :=
  let (last, ending, blocks) := Phase.waiting.runAlone t job c.collect
  (last.collect, ending, ⟨blocks, last.issues⟩)

/-- Works on one file and waits for the end of it, to report the breakdown that is left over. -/
def perform (t : Tools) (job : Job) (c : Commons) : Commons × Yield :=
  let (last, ending, y) := c.execute t job
  (last, { y with issues := y.issues ++ ending.leftOver job.path })

end Commons

end CommentBlocks
