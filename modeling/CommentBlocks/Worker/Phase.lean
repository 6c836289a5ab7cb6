import CommentBlocks.Worker.Outcome

namespace CommentBlocks

structure Job where
  plan : Plan
  path : String
  deriving DecidableEq, Repr

/-- The stream holds at most `capacity` blocks, and takes none once nobody listens. -/
structure Commons where
  free : Nat
  capacity : Nat
  stream : List Block
  isOpen : Bool
  issues : List Issue

namespace Commons

def takePermit (c : Commons) : Commons := { c with free := c.free - 1 }

def givePermit (c : Commons) : Commons := { c with free := c.free + 1 }

def report (i : Issue) (c : Commons) : Commons := { c with issues := c.issues ++ [i] }

def send (b : Block) (c : Commons) : Commons := { c with stream := c.stream ++ [b] }

def close (c : Commons) : Commons := { c with isOpen := false, stream := [] }

end Commons

/-- How far a worker has come. Done and broken workers have given their permits back; a broken one
has left it to others to report the breakdown. -/
inductive Phase
  | waiting
  | reading
  | extracting (b : Bytes)
  | reporting (issues : List Issue) (blocks : List Block)
  | sending (blocks : List Block)
  | done
  | broken (text : String)
  deriving DecidableEq, Repr

namespace Phase

def isOver : Phase → Bool
  | done | broken _ => true
  | _ => false

def handOver (path : String) (o : Outcome) : Phase := reporting (o.issues path) (o.blocks path)

/-- The next step of a worker, if it can take one: it may have to wait for a permit or for room in
the stream. -/
def step? (t : Tools) (job : Job) (c : Commons) : Phase → Option (Commons × Phase)
  | waiting => if c.free = 0 then none else some (c.takePermit, reading)
  | reading =>
    match t.reader job.path with
    | .failed e => some (c, handOver job.path (.unreadable e))
    | .broke => some (c.givePermit, broken (t.breakdown job.path))
    | .data b => some (c, extracting b)
  | extracting b => some (c, handOver job.path (.ofData t job.plan job.path b))
  | reporting [] bs => some (c, sending bs)
  | reporting (i :: is) bs => some (c.report i, reporting is bs)
  | sending [] => some (c.givePermit, done)
  | sending (b :: bs) =>
    if !c.isOpen then some (c.givePermit, done)
    else if c.stream.length < c.capacity then some (c.send b, sending bs)
    else none
  | done => none
  | broken _ => none

theorem isOpen_step? {t : Tools} {job : Job} {c c' : Commons} {p p' : Phase}
    (h : p.step? t job c = some (c', p')) : c'.isOpen = c.isOpen := by
  unfold step? at h
  split at h
  all_goals (repeat' split at h)
  all_goals cases h
  all_goals rfl

/-- The weight of the steps that are left once something is to be handed over. A block weighs
twice, since it has to be received too. -/
def handOverWeight (issues : List Issue) (blocks : List Block) : Nat :=
  issues.length + 2 * blocks.length + 2

def extractingWeight (t : Tools) (job : Job) (b : Bytes) : Nat :=
  let o := Outcome.ofData t job.plan job.path b
  handOverWeight (o.issues job.path) (o.blocks job.path) + 1

def readingWeight (t : Tools) (job : Job) : Nat :=
  match t.reader job.path with
  | .failed e => handOverWeight ((Outcome.unreadable e).issues job.path) [] + 1
  | .broke => 1
  | .data b => extractingWeight t job b + 1

def weight (t : Tools) (job : Job) : Phase → Nat
  | waiting => readingWeight t job + 1
  | reading => readingWeight t job
  | extracting b => extractingWeight t job b
  | reporting is bs => handOverWeight is bs
  | sending bs => 2 * bs.length + 1
  | done => 0
  | broken _ => 0

theorem weight_step?_lt {t : Tools} {job : Job} {c c' : Commons} {p p' : Phase}
    (h : p.step? t job c = some (c', p')) :
    p'.weight t job + c'.stream.length < p.weight t job + c.stream.length := by
  cases p with
  | waiting =>
    by_cases hf : c.free = 0
    · simp [step?, hf] at h
    · obtain ⟨rfl, rfl⟩ := by simpa [step?, hf] using h
      simp [weight, Commons.takePermit]
  | reading =>
    cases hr : t.reader job.path with
    | data b =>
      obtain ⟨rfl, rfl⟩ := by simpa [step?, hr] using h
      simp [weight, readingWeight, hr]
    | failed e =>
      obtain ⟨rfl, rfl⟩ := by simpa [step?, hr] using h
      simp [weight, readingWeight, hr, handOver, Outcome.blocks]
    | broke =>
      obtain ⟨rfl, rfl⟩ := by simpa [step?, hr] using h
      simp [weight, readingWeight, hr, Commons.givePermit]
  | extracting b =>
    obtain ⟨rfl, rfl⟩ := by simpa [step?] using h
    simp [weight, extractingWeight, handOver]
  | reporting is bs =>
    cases is with
    | nil =>
      obtain ⟨rfl, rfl⟩ := by simpa [step?] using h
      simp [weight, handOverWeight]
    | cons i is =>
      obtain ⟨rfl, rfl⟩ := by simpa [step?] using h
      simp [weight, handOverWeight, Commons.report]
  | sending bs =>
    cases bs with
    | nil =>
      obtain ⟨rfl, rfl⟩ := by simpa [step?] using h
      simp [weight, Commons.givePermit]
    | cons b bs =>
      rw [step?] at h
      split at h
      · obtain ⟨rfl, rfl⟩ := by simpa using h
        simp [weight, Commons.givePermit]
      · split at h
        · obtain ⟨rfl, rfl⟩ := by simpa using h
          simp only [weight, Commons.send, List.length_cons, List.length_append, List.length_nil]
          omega
        · simp at h
  | done => simp [step?] at h
  | broken text => simp [step?] at h

end Phase

end CommentBlocks
