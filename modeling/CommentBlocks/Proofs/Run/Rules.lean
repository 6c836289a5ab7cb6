import CommentBlocks.Run.Basic

namespace CommentBlocks

/-- The ways in which a worker goes on: what it does to the commons, and the phase behind. -/
inductive Phase.Advance (t : Tools) (job : Job) (c : Commons) : Phase → Commons → Phase → Prop
  | start (hf : c.free ≠ 0) : Advance t job c .waiting c.takePermit .reading
  | readFailed {e} (hr : t.reader job.path = .failed e) :
    Advance t job c .reading c (.handOver job.path (.unreadable e))
  | readBroke (hr : t.reader job.path = .broke) :
    Advance t job c .reading c.givePermit (.broken (t.breakdown job.path))
  | read {b} (hr : t.reader job.path = .data b) : Advance t job c .reading c (.extracting b)
  | extract {b} : Advance t job c (.extracting b) c
    (.handOver job.path (.ofData t job.plan job.path b))
  | report {i is bs} : Advance t job c (.reporting (i :: is) bs) (c.report i) (.reporting is bs)
  | reported {bs} : Advance t job c (.reporting [] bs) c (.sending bs)
  | send {b bs} (ho : c.isOpen = true) (hl : c.stream.length < c.capacity) :
    Advance t job c (.sending (b :: bs)) (c.send b) (.sending bs)
  | giveUp {b bs} (ho : c.isOpen = false) : Advance t job c (.sending (b :: bs)) c.givePermit .done
  | finish : Advance t job c (.sending []) c.givePermit .done

theorem Phase.advance_of_step? {t : Tools} {job : Job} {c c' : Commons} {p p' : Phase}
    (h : p.step? t job c = some (c', p')) : p.Advance t job c c' p' := by
  cases p with
  | waiting =>
    by_cases hf : c.free = 0
    · simp [step?, hf] at h
    · obtain ⟨rfl, rfl⟩ := by simpa [step?, hf] using h
      exact .start hf
  | reading =>
    cases hr : t.reader job.path with
    | data b =>
      obtain ⟨rfl, rfl⟩ := by simpa [step?, hr] using h
      exact .read hr
    | failed e =>
      obtain ⟨rfl, rfl⟩ := by simpa [step?, hr] using h
      exact .readFailed hr
    | broke =>
      obtain ⟨rfl, rfl⟩ := by simpa [step?, hr] using h
      exact .readBroke hr
  | extracting b =>
    obtain ⟨rfl, rfl⟩ := by simpa [step?] using h
    exact .extract
  | reporting is bs =>
    cases is <;> obtain ⟨rfl, rfl⟩ := by simpa [step?] using h
    · exact .reported
    · exact .report
  | sending bs =>
    cases bs with
    | nil =>
      obtain ⟨rfl, rfl⟩ := by simpa [step?] using h
      exact .finish
    | cons b bs =>
      cases ho : c.isOpen with
      | false =>
        obtain ⟨rfl, rfl⟩ := by simpa [step?, ho] using h
        exact .giveUp ho
      | true =>
        by_cases hl : c.stream.length < c.capacity
        · obtain ⟨rfl, rfl⟩ := by simpa [step?, ho, hl] using h
          exact .send ho hl
        · simp [step?, ho, hl] at h
  | done => simp [step?] at h
  | broken text => simp [step?] at h

namespace Dispatcher

inductive Looks : Dispatcher → Prop
  | group {g gs} : Looks (.between (g :: gs))
  | file {j js gs} : Looks (.within (j :: js) gs)

inductive Turn (raised : Bool) : Dispatcher → Dispatcher → Prop
  | allGiven : Turn raised (.between []) (.joining 0)
  | enter {g gs} (hr : raised = false) : Turn raised (.between (g :: gs)) (.within g gs)
  | pass {gs} : Turn raised (.within [] gs) (.between gs)
  | clear {j js gs} (hr : raised = false) : Turn raised (.within (j :: js) gs) (.cleared j js gs)
  | stop {d} (hl : d.Looks) (hr : raised = true) : Turn raised d (.joining 0)

end Dispatcher

namespace Run

inductive Dispatches (r : Run) : Run → Prop
  | turn {d} (hd : r.dispatcher.Turn r.isRaised d) : Dispatches r { r with dispatcher := d }
  | handOut {j js gs} (hd : r.dispatcher = .cleared j js gs) :
    Dispatches r { r with dispatcher := .within js gs, workers := r.workers ++ [(j, .waiting)] }
  | join {n j} (hd : r.dispatcher = .joining n) (hw : r.workers[n]? = some (j, .done)) :
    Dispatches r { r with dispatcher := .joining (n + 1) }
  | joinBroken {n j text} (hd : r.dispatcher = .joining n)
    (hw : r.workers[n]? = some (j, .broken text)) :
    Dispatches r { r with
      dispatcher := .joining (n + 1)
      commons := r.commons.report (Outcome.breakdown j.path text) }
  | allJoined {n} (hd : r.dispatcher = .joining n) (hw : r.workers[n]? = none) :
    Dispatches r { r with dispatcher := .returned }

inductive Move (t : Tools) (r : Run) : Run → Prop
  | dispatch {r'} (hd : r.Dispatches r') : Move t r r'
  | work {i job p c p'} (hw : r.workers[i]? = some (job, p)) (hp : p.Advance t job r.commons c p') :
    Move t r { r with commons := c, workers := r.workers.set i (job, p') }
  | receive {b bs} (ho : r.commons.isOpen = true) (he : r.ended = false)
    (hs : r.commons.stream = b :: bs) :
    Move t r { r with commons := { r.commons with stream := bs }, received := b :: r.received }
  | finish (ho : r.commons.isOpen = true) (he : r.ended = false) (hs : r.commons.stream = [])
    (hq : r.isSilent = true) : Move t r { r with ended := true }
  | leave (ho : r.commons.isOpen = true) : Move t r { r with commons := r.commons.close }
  | raise {requests} (hr : r.isRaised = false)
    (hr' : { r with signals := (Signal.serveAll r.signals requests).1 }.isRaised = true) :
    Move t r { r with signals := (Signal.serveAll r.signals requests).1 }

theorem dispatches_of_dispatch? {r r' : Run} (h : r.dispatch? = some r') : Dispatches r r' := by
  cases hd : r.dispatcher with
  | between gs =>
    cases gs with
    | nil =>
      obtain rfl := by simpa [dispatch?, hd] using h
      exact .turn (hd ▸ .allGiven)
    | cons g gs =>
      cases hr : r.isRaised <;> obtain rfl := by simpa [dispatch?, hd, hr] using h
      · exact .turn (hd ▸ .enter hr)
      · exact .turn (.stop (hd ▸ .group) hr)
  | within js gs =>
    cases js with
    | nil =>
      obtain rfl := by simpa [dispatch?, hd] using h
      exact .turn (hd ▸ .pass)
    | cons j js =>
      cases hr : r.isRaised <;> obtain rfl := by simpa [dispatch?, hd, hr] using h
      · exact .turn (hd ▸ .clear hr)
      · exact .turn (.stop (hd ▸ .file) hr)
  | cleared j js gs =>
    obtain rfl := by simpa [dispatch?, hd] using h
    exact .handOut hd
  | joining n =>
    simp only [dispatch?, hd] at h
    split at h
    · next hw =>
      cases h
      exact .allJoined hd hw
    · next hw =>
      cases h
      exact .join hd hw
    · next hw =>
      cases h
      exact .joinBroken hd hw
    · cases h
  | returned => simp [dispatch?, hd] at h

theorem advance_of_work? {t : Tools} {i : Nat} {r r' : Run} (h : r.work? t i = some r') :
    ∃ job p c p', r.workers[i]? = some (job, p) ∧ p.Advance t job r.commons c p' ∧
      r' = { r with commons := c, workers := r.workers.set i (job, p') } := by
  rw [work?] at h
  split at h
  · cases h
  · next job p hw =>
    split at h
    · cases h
    · next c p' hp =>
      cases h
      exact ⟨job, p, c, p', hw, Phase.advance_of_step? hp, rfl⟩

theorem move_of_work? {t : Tools} {i : Nat} {r r' : Run} (h : r.work? t i = some r') :
    Move t r r' := by
  obtain ⟨job, p, c, p', hw, hp, rfl⟩ := advance_of_work? h
  exact .work hw hp

theorem move_of_receive? (t : Tools) {r r' : Run} (h : r.receive? = some r') : Move t r r' := by
  rw [receive?] at h
  split at h
  · cases h
  · next hc =>
    obtain ⟨ho, he⟩ := by simpa using hc
    split at h
    · next hs =>
      cases h
      exact .receive ho he hs
    · next hs =>
      split at h
      · next hq =>
        cases h
        exact .finish ho he hs hq
      · cases h

theorem move_of_fire? {t : Tools} {r r' : Run} {e : Event} (h : r.fire? t e = some r') :
    Move t r r' := by
  cases e with
  | dispatch => exact .dispatch (dispatches_of_dispatch? h)
  | work i => exact move_of_work? h
  | receive => exact move_of_receive? t h
  | leave =>
    obtain ⟨ho, rfl⟩ := by simpa [fire?] using h
    exact .leave ho
  | raise requests =>
    obtain ⟨⟨hr, hr'⟩, rfl⟩ := by simpa [fire?] using h
    exact .raise hr hr'

/-- What every move keeps holds all along a run. -/
theorem Steps.keeps {t : Tools} {P : Run → Prop} {r r' : Run} (h : Steps t r r') (hr : P r)
    (hm : ∀ {s s'}, P s → Move t s s' → P s') : P r' := by
  induction h with
  | refl => exact hr
  | tail _ hs ih =>
    obtain ⟨e, he⟩ := hs
    exact hm ih (move_of_fire? he)

end Run

end CommentBlocks
