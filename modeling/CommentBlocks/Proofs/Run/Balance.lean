import CommentBlocks.Proofs.Run.Rules
import CommentBlocks.Proofs.Run.Tally
import CommentBlocks.Run.Play

namespace CommentBlocks

namespace Job

def outcome (t : Tools) (job : Job) : Outcome := .of t job.plan job.path

def blocks (t : Tools) (job : Job) : List Block := (job.outcome t).blocks job.path

def issues (t : Tools) (job : Job) : List Issue := (job.outcome t).issues job.path

end Job

namespace Phase

def blocksLeft (t : Tools) (job : Job) : Phase → List Block
  | waiting | reading => job.blocks t
  | extracting b => (Outcome.ofData t job.plan job.path b).blocks job.path
  | reporting _ bs | sending bs => bs
  | done | broken _ => []

/-- The issues of a worker that nobody has reported yet. That of a broken worker is left to the
dispatcher. -/
def issuesLeft (t : Tools) (job : Job) : Phase → List Issue
  | waiting | reading => job.issues t
  | extracting b => (Outcome.ofData t job.plan job.path b).issues job.path
  | reporting is _ => is
  | broken text => [Outcome.breakdown job.path text]
  | sending _ | done => []

variable {t : Tools} {job : Job} {c c' : Commons} {p p' : Phase}

theorem Advance.isOver (h : p.Advance t job c c' p') : p.isOver = false := by
  cases h <;> rfl

theorem Advance.isOpen (h : p.Advance t job c c' p') : c'.isOpen = c.isOpen := by
  cases h <;> rfl

theorem Advance.issues (h : p.Advance t job c c' p') : ∃ is, c'.issues = c.issues ++ is := by
  cases h with
  | report => exact ⟨_, rfl⟩
  | start | readFailed | readBroke | read | extract | reported | send | giveUp | finish =>
    exact ⟨[], (List.append_nil _).symm⟩

theorem Advance.blocksLeft (h : p.Advance t job c c' p') (ho : c.isOpen = true) :
    c'.stream ++ p'.blocksLeft t job = c.stream ++ p.blocksLeft t job := by
  cases h with
  | start | reported | extract | finish | report => rfl
  | readFailed hr | readBroke hr | read hr =>
    simp [Phase.blocksLeft, Job.blocks, Job.outcome, Outcome.of, Outcome.blocks, handOver, hr,
      Commons.givePermit]
  | send => simp [Phase.blocksLeft, Commons.send]
  | giveUp hc => simp [ho] at hc

theorem Advance.issuesLeft (h : p.Advance t job c c' p') :
    c'.issues ++ p'.issuesLeft t job = c.issues ++ p.issuesLeft t job := by
  cases h with
  | start | reported | extract | finish | send | giveUp => rfl
  | readFailed hr | readBroke hr | read hr =>
    simp [Phase.issuesLeft, Job.issues, Job.outcome, Outcome.of, Outcome.issues, handOver, hr,
      Commons.givePermit]
  | report => simp [Phase.issuesLeft, Commons.report]

theorem blocksLeft_of_isOver (h : p.isOver = true) : p.blocksLeft t job = [] := by
  cases p <;> first | rfl | cases h

end Phase

namespace Run

def joined (r : Run) : Nat :=
  match r.dispatcher with
  | .joining n => n
  | .returned => r.workers.length
  | _ => 0

/-- The workers waited for are over, and behind the end of the stream nothing goes on. -/
structure Orderly (r : Run) : Prop where
  joined : ∀ {i job p}, i < r.joined → r.workers[i]? = some (job, p) → p.isOver = true
  ended : r.ended = true → r.dispatcher = .returned ∧ r.commons.stream = []

theorem joined_of_turn {r : Run} {d : Dispatcher} (h : r.dispatcher.Turn r.isRaised d) :
    r.joined = 0 ∧ joined { r with dispatcher := d } = 0 := by
  obtain ⟨d₀, ws, c, s, bs, e⟩ := r
  cases h with
  | allGiven | enter | pass | clear => exact ⟨rfl, rfl⟩
  | stop hl => cases hl <;> exact ⟨rfl, rfl⟩

theorem Orderly.joined_le {r : Run} (h : Orderly r) {i : Nat} {job : Job} {p : Phase}
    (hw : r.workers[i]? = some (job, p)) (hp : p.isOver = false) : r.joined ≤ i := by
  by_contra hi
  have := h.joined (by omega) hw
  simp [hp] at this

theorem Orderly.not_ended {r : Run} (h : Orderly r) {i : Nat} {job : Job} {p : Phase}
    (hw : r.workers[i]? = some (job, p)) (hp : p.isOver = false) : r.ended = false := by
  by_contra he
  have hj := h.joined_le hw hp
  have hi := (List.getElem?_eq_some_iff.mp hw).1
  simp only [Run.joined, (h.ended (by simpa using he)).1] at hj
  omega

theorem Orderly.start (limits : Limits) (groups : List (List Job)) :
    Orderly (start limits groups) := by
  constructor
  · intro i job p hi hw
    simp [Run.start] at hw
  · intro he
    cases he

theorem Orderly.next {r : Run} (h : Orderly r) {n : Nat} {job : Job} {p : Phase}
    (hd : r.dispatcher = .joining n) (hw : r.workers[n]? = some (job, p)) (hp : p.isOver = true)
    (c : Commons) : Orderly { r with dispatcher := .joining (n + 1), commons := c } := by
  constructor
  · intro i job' q hi hq
    obtain hi | rfl := Nat.lt_succ_iff_lt_or_eq.mp hi
    · exact h.joined (by simpa [Run.joined, hd] using hi) hq
    · obtain ⟨-, rfl⟩ := by simpa [hw] using hq
      exact hp
  · intro he
    simpa [hd] using (h.ended he).1

theorem Orderly.dispatch {r r' : Run} (h : Orderly r) (hd : r.Dispatches r') : Orderly r' := by
  cases hd with
  | turn hd =>
    obtain ⟨h₀, h₁⟩ := joined_of_turn hd
    constructor
    · intro i job p hi
      omega
    · intro he
      rw [(h.ended he).1] at hd
      cases hd with
      | stop hl => cases hl
  | handOut hd =>
    constructor
    · intro i job p hi
      simp [Run.joined] at hi
    · intro he
      simpa [hd] using (h.ended he).1
  | join hd hw => exact h.next hd hw rfl r.commons
  | joinBroken hd hw => exact h.next hd hw rfl _
  | @allJoined n hd hw =>
    constructor
    · intro i job p hi hp
      have hn := List.getElem?_eq_none_iff.mp hw
      have hi : i < r.workers.length := hi
      exact h.joined (by simp only [Run.joined, hd]; omega) hp
    · intro he
      simpa [hd] using (h.ended he).1

theorem Orderly.move {t : Tools} {r r' : Run} (h : Orderly r) (hm : Move t r r') : Orderly r' := by
  cases hm with
  | dispatch hd => exact h.dispatch hd
  | @work i job p c p' hw hp =>
    have hj := h.joined_le hw hp.isOver
    constructor
    · intro k job' q hk hq
      have hk : k < r.joined := by simpa [Run.joined] using hk
      rw [List.getElem?_set_ne (by omega)] at hq
      exact h.joined hk hq
    · intro he
      simp [h.not_ended hw hp.isOver] at he
  | receive ho he hs =>
    exact ⟨h.joined, fun he' => absurd he' (by simp [he])⟩
  | finish ho he hs hq =>
    refine ⟨h.joined, fun _ => ⟨?_, hs⟩⟩
    unfold isSilent at hq
    split at hq
    · assumption
    · cases hq
  | leave ho => exact ⟨h.joined, fun he => ⟨(h.ended he).1, rfl⟩⟩
  | raise hr => exact ⟨h.joined, h.ended⟩

/-- What has been handed over and what is left is what comes of the files of all workers. The blocks
balance as long as nobody has left a stream that was still going on. -/
structure Balanced (t : Tools) (r : Run) : Prop where
  orderly : Orderly r
  blocks : r.commons.isOpen = true ∨ r.ended = true →
    (r.received : Multiset Block) + r.commons.stream +
        tally (fun w => w.2.blocksLeft t w.1) r.workers =
      tally (fun w => w.1.blocks t) r.workers
  issues : (r.commons.issues : Multiset Issue) +
        tally (fun w => w.2.issuesLeft t w.1) (r.workers.drop r.joined) =
      tally (fun w => w.1.issues t) r.workers

variable {t : Tools} {r r' : Run}

theorem Balanced.start (limits : Limits) (groups : List (List Job)) :
    Balanced t (start limits groups) where
  orderly := .start limits groups
  blocks _ := rfl
  issues := rfl

theorem drop_of_getElem? {α : Type} {l : List α} {n : Nat} {a : α} (h : l[n]? = some a) :
    l.drop n = a :: l.drop (n + 1) := by
  obtain ⟨hn, rfl⟩ := List.getElem?_eq_some_iff.mp h
  exact List.drop_eq_getElem_cons hn

theorem Balanced.work {i : Nat} {job : Job} {p p' : Phase} {c : Commons} (h : Balanced t r)
    (hw : r.workers[i]? = some (job, p)) (hp : p.Advance t job r.commons c p') :
    Balanced t { r with commons := c, workers := r.workers.set i (job, p') } := by
  have hj := h.orderly.joined_le hw hp.isOver
  have hd : (r.workers.drop r.joined)[i - r.joined]? = some (job, p) := by
    rw [List.getElem?_drop, Nat.add_sub_cancel' hj, hw]
  constructor
  · exact h.orderly.move (.work hw hp)
  · intro ho
    have ho : r.commons.isOpen = true := by
      rw [← hp.isOpen]
      exact ho.resolve_right (by simp [h.orderly.not_ended hw hp.isOver])
    have hb := tally_set_of_eq (fun w => w.1.blocks t) (b := (job, p')) hw rfl
    have hl := coe_add_tally_set (fun w => w.2.blocksLeft t w.1) (b := (job, p')) hw
      (hp.blocksLeft ho)
    dsimp only
    rw [hb, ← h.blocks (.inl ho), add_assoc, hl, add_assoc]
  · have hs : (r.workers.set i (job, p')).drop r.joined =
        (r.workers.drop r.joined).set (i - r.joined) (job, p') := by
      rw [List.drop_set, if_neg (by omega)]
    have hr : joined { r with commons := c, workers := r.workers.set i (job, p') } = r.joined := by
      simp [joined]
    have hi := tally_set_of_eq (fun w => w.1.issues t) (b := (job, p')) hw rfl
    have hl := coe_add_tally_set (fun w => w.2.issuesLeft t w.1) (b := (job, p')) hd hp.issuesLeft
    rw [hr]
    dsimp only
    rw [hi, hs, hl, h.issues]

theorem Balanced.dispatch (h : Balanced t r) (hd : r.Dispatches r') : Balanced t r' := by
  have horderly := h.orderly.dispatch hd
  cases hd with
  | turn hd =>
    obtain ⟨h₀, h₁⟩ := joined_of_turn hd
    refine ⟨horderly, h.blocks, ?_⟩
    rw [h₁, ← h.issues, h₀]
  | @handOut j js gs hd =>
    have hj : r.joined = 0 := by simp [joined, hd]
    have hi := h.issues
    rw [hj, List.drop_zero] at hi
    refine ⟨horderly, fun ho => ?_, ?_⟩
    · rw [tally_append, tally_append, ← h.blocks ho, add_assoc _ (tally _ _) (tally _ _)]
      rfl
    · rw [tally_append, ← hi, add_assoc]
      exact congrArg _ (tally_append _ _ _)
  | @join n j hd hw =>
    have hi := h.issues
    simp only [joined, hd, drop_of_getElem? hw, tally_cons] at hi
    refine ⟨horderly, h.blocks, ?_⟩
    rw [← hi]
    exact congrArg _ (zero_add _).symm
  | @joinBroken n j text hd hw =>
    have hi := h.issues
    simp only [joined, hd, drop_of_getElem? hw, tally_cons] at hi
    refine ⟨horderly, h.blocks, ?_⟩
    rw [← hi, ← add_assoc]
    rfl
  | @allJoined n hd hw =>
    have hn := List.getElem?_eq_none_iff.mp hw
    have hi := h.issues
    simp only [joined, hd, List.drop_eq_nil_of_le hn] at hi
    refine ⟨horderly, h.blocks, ?_⟩
    simpa only [joined, List.drop_length] using hi

theorem Balanced.move (h : Balanced t r) (hm : Move t r r') : Balanced t r' := by
  have horderly := h.orderly.move hm
  cases hm with
  | dispatch hd => exact h.dispatch hd
  | work hw hp => exact h.work hw hp
  | @receive b bs ho he hs =>
    refine ⟨horderly, fun _ => ?_, h.issues⟩
    rw [← h.blocks (.inl ho), hs, ← Multiset.cons_coe, ← Multiset.cons_coe, Multiset.cons_add,
      Multiset.add_cons]
  | finish ho he hs hq => exact ⟨horderly, fun _ => h.blocks (.inl ho), h.issues⟩
  | leave ho =>
    refine ⟨horderly, fun he => ?_, h.issues⟩
    have he : r.ended = true := he.resolve_left (by simp [Commons.close])
    rw [← h.blocks (.inr he), (h.orderly.ended he).2]
    rfl
  | raise hr => exact ⟨horderly, h.blocks, h.issues⟩

theorem Balanced.steps (hs : Steps t r r') (h : Balanced t r) : Balanced t r' :=
  hs.keeps h Balanced.move

theorem Orderly.over_of_returned (h : Orderly r) (hd : r.dispatcher = .returned)
    {w : Job × Phase} (hw : w ∈ r.workers) : w.2.isOver = true := by
  obtain ⟨i, hi⟩ := List.mem_iff_getElem?.mp hw
  have hl := (List.getElem?_eq_some_iff.mp hi).1
  have hj : r.joined = r.workers.length := by simp only [Run.joined, hd]
  exact h.joined (hj ▸ hl) hi

theorem Balanced.issues_of_returned (h : Balanced t r) (hd : r.dispatcher = .returned) :
    (r.commons.issues : Multiset Issue) = tally (fun w => w.1.issues t) r.workers := by
  have hi := h.issues
  simp only [joined, hd, List.drop_length] at hi
  simpa using hi

theorem Balanced.of_ended (h : Balanced t r) (he : r.ended = true) :
    (r.received : Multiset Block) = tally (fun w => w.1.blocks t) r.workers ∧
      (r.commons.issues : Multiset Issue) = tally (fun w => w.1.issues t) r.workers := by
  obtain ⟨hd, hs⟩ := h.orderly.ended he
  have hb := h.blocks (.inr he)
  rw [hs, tally_eq_zero _ fun w hw =>
    Phase.blocksLeft_of_isOver (h.orderly.over_of_returned hd hw)] at hb
  exact ⟨by simpa using hb, h.issues_of_returned hd⟩

end Run

end CommentBlocks
