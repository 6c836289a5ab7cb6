import CommentBlocks.Run.Basic

namespace CommentBlocks.Run

def jobWeight (t : Tools) (job : Job) : Nat := Phase.waiting.weight t job + 3

def jobsWeight (t : Tools) : List Job → Nat
  | [] => 0
  | j :: js => jobWeight t j + jobsWeight t js

def groupsWeight (t : Tools) : List (List Job) → Nat
  | [] => 1
  | g :: gs => jobsWeight t g + 2 + groupsWeight t gs

/-- A bound on the steps of the dispatcher, and of the workers that it will set to work, where
`workers` are at work already. -/
def dispatchWeight (t : Tools) (workers : Nat) : Dispatcher → Nat
  | .between gs => groupsWeight t gs + workers + 1
  | .within js gs => jobsWeight t js + 1 + groupsWeight t gs + workers + 1
  | .cleared j js gs => jobWeight t j + jobsWeight t js + groupsWeight t gs + workers + 1
  | .joining n => workers - n + 1
  | .returned => 0

def workersWeight (t : Tools) : List (Job × Phase) → Nat
  | [] => 0
  | (job, p) :: ws => p.weight t job + workersWeight t ws

def weight (t : Tools) (r : Run) : Nat :=
  dispatchWeight t r.workers.length r.dispatcher + workersWeight t r.workers +
    r.commons.stream.length + (!r.ended).toNat + r.commons.isOpen.toNat + (!r.isRaised).toNat

theorem workersWeight_append (t : Tools) (ws vs : List (Job × Phase)) :
    workersWeight t (ws ++ vs) = workersWeight t ws + workersWeight t vs := by
  induction ws with
  | nil => simp only [List.nil_append, workersWeight, Nat.zero_add]
  | cons w ws ih =>
    simp only [List.cons_append, workersWeight, ih]
    omega

theorem workersWeight_set {t : Tools} {ws : List (Job × Phase)} {i : Nat} {job : Job}
    {p : Phase} (p' : Phase) (h : ws[i]? = some (job, p)) :
    workersWeight t (ws.set i (job, p')) + p.weight t job =
      workersWeight t ws + p'.weight t job := by
  induction ws generalizing i with
  | nil => simp at h
  | cons w ws ih =>
    cases i with
    | zero =>
      obtain rfl : w = (job, p) := by simpa using h
      simp only [workersWeight, List.set_cons_zero]
      omega
    | succ i =>
      have := ih (by simpa using h)
      simp only [workersWeight, List.set_cons_succ] at this ⊢
      omega

theorem weight_dispatch?_lt {t : Tools} {r r' : Run} (h : r.dispatch? = some r') :
    r'.weight t < r.weight t := by
  obtain ⟨d, ws, c, s, bs, e⟩ := r
  cases d with
  | between gs =>
    cases gs with
    | nil =>
      cases h
      simp only [weight, isRaised, dispatchWeight, groupsWeight]
      omega
    | cons g gs =>
      cases h
      cases hs : (s.isRaised? signal).getD false <;>
        simp only [weight, isRaised, dispatchWeight, groupsWeight, hs, if_true, if_false,
          Bool.false_eq_true] <;>
        omega
  | within js gs =>
    cases js with
    | nil =>
      cases h
      simp only [weight, isRaised, dispatchWeight, jobsWeight]
      omega
    | cons j js =>
      cases h
      cases hs : (s.isRaised? signal).getD false <;>
        simp only [weight, isRaised, dispatchWeight, jobsWeight, hs, if_true, if_false,
          Bool.false_eq_true] <;>
        omega
  | cleared j js gs =>
    cases h
    simp only [weight, isRaised, dispatchWeight, workersWeight_append, workersWeight, jobWeight,
      List.length_append, List.length_cons, List.length_nil]
    omega
  | joining n =>
    simp only [dispatch?] at h
    split at h
    · cases h
      simp only [weight, isRaised, dispatchWeight]
      omega
    · next hw =>
      cases h
      have := (List.getElem?_eq_some_iff.mp hw).1
      simp only [weight, isRaised, dispatchWeight]
      omega
    · next hw =>
      cases h
      have := (List.getElem?_eq_some_iff.mp hw).1
      simp only [weight, isRaised, dispatchWeight, Commons.report]
      omega
    · cases h
  | returned => cases h

theorem weight_work?_lt {t : Tools} {i : Nat} {r r' : Run} (h : r.work? t i = some r') :
    r'.weight t < r.weight t := by
  rw [work?] at h
  split at h
  · cases h
  · next job p hw =>
    split at h
    · cases h
    · next c p' hp =>
      cases h
      have hstep := Phase.weight_step?_lt hp
      have hset := workersWeight_set (t := t) p' hw
      have hopen := Phase.isOpen_step? hp
      simp only [weight, isRaised, List.length_set, hopen]
      omega

theorem weight_receive?_lt {t : Tools} {r r' : Run} (h : r.receive? = some r') :
    r'.weight t < r.weight t := by
  rw [receive?] at h
  split at h
  · cases h
  · next hl =>
    split at h
    · next hs =>
      cases h
      simp only [weight, isRaised, hs, List.length_cons]
      omega
    · next hs =>
      split at h
      · cases h
        have he : r.ended = false := by
          cases he : r.ended with
          | false => rfl
          | true => exact absurd (by rw [he, Bool.or_true]) hl
        simp only [weight, isRaised, hs, he, Bool.not_true, Bool.not_false, Bool.toNat_true,
          Bool.toNat_false]
        omega
      · cases h

theorem weight_leave_lt {t : Tools} {r r' : Run} (h : r.fire? t .leave = some r') :
    r'.weight t < r.weight t := by
  simp only [fire?] at h
  split at h
  · next ho =>
    cases h
    simp only [weight, isRaised, Commons.close, ho, List.length_nil, Bool.toNat_true,
      Bool.toNat_false]
    omega
  · cases h

theorem weight_raise_lt {t : Tools} {requests : List Signal.Request} {r r' : Run}
    (h : r.fire? t (.raise requests) = some r') : r'.weight t < r.weight t := by
  obtain ⟨⟨hr, hr'⟩, rfl⟩ := by simpa [fire?] using h
  simp only [weight, hr, hr', Bool.not_true, Bool.not_false, Bool.toNat_true, Bool.toNat_false]
  omega

/-- Every event makes a run lighter. -/
theorem weight_fire?_lt {t : Tools} {r r' : Run} {e : Event} (h : r.fire? t e = some r') :
    r'.weight t < r.weight t := by
  cases e with
  | dispatch => exact weight_dispatch?_lt h
  | work i => exact weight_work?_lt h
  | receive => exact weight_receive?_lt h
  | leave => exact weight_leave_lt h
  | raise requests => exact weight_raise_lt h

end CommentBlocks.Run
