import CommentBlocks.Proofs.Run.Balance

namespace CommentBlocks

namespace Phase

def holdsPermit : Phase → Bool
  | waiting | done | broken _ => false
  | _ => true

variable {t : Tools} {job : Job} {c c' : Commons} {p p' : Phase}

theorem Advance.free (h : p.Advance t job c c' p') :
    c'.free + p'.holdsPermit.toNat = c.free + p.holdsPermit.toNat := by
  cases h with
  | start hf =>
    simp only [holdsPermit, Commons.takePermit, Bool.toNat_true, Bool.toNat_false]
    omega
  | _ => rfl

theorem Advance.capacity (h : p.Advance t job c c' p') : c'.capacity = c.capacity := by
  cases h <;> rfl

/-- With room in the stream, a worker that cannot go on is over or waits for a permit. -/
theorem isOver_or_waiting_of_step? (hr : c.stream.length < c.capacity)
    (h : p.step? t job c = none) : p.isOver = true ∨ p = .waiting ∧ c.free = 0 := by
  cases p with
  | waiting => exact .inr ⟨rfl, by simpa [step?] using h⟩
  | reading => cases hd : t.reader job.path <;> simp [step?, hd] at h
  | extracting b => simp [step?] at h
  | reporting is bs => cases is <;> simp [step?] at h
  | sending bs =>
    cases bs with
    | nil => simp [step?] at h
    | cons b bs => cases ho : c.isOpen <;> simp [step?, ho, hr] at h
  | done | broken => exact .inl rfl

theorem holdsPermit_of_isOver (h : p.isOver = true) : p.holdsPermit = false := by
  cases p <;> first | rfl | cases h

end Phase

namespace Run

def permitsHeld (r : Run) : Nat := (r.workers.map (·.2.holdsPermit.toNat)).sum

/-- No permit gets lost, and the stream keeps its room. -/
structure Supplied (limits : Limits) (r : Run) : Prop where
  permits : r.commons.free + r.permitsHeld = Limits.effective limits.files
  capacity : r.commons.capacity = Limits.effective limits.capacity

variable {t : Tools} {limits : Limits} {r r' : Run}

theorem permitsHeld_eq_zero (h : ∀ w ∈ r.workers, w.2.holdsPermit = false) :
    r.permitsHeld = 0 := by
  apply List.sum_eq_zero
  intro n hn
  obtain ⟨w, hw, rfl⟩ := List.mem_map.mp hn
  rw [h w hw]
  rfl

theorem Supplied.start (limits : Limits) (groups : List (List Job)) :
    Supplied limits (start limits groups) := ⟨rfl, rfl⟩

theorem Supplied.move (h : Supplied limits r) (hm : Move t r r') : Supplied limits r' := by
  cases hm with
  | dispatch hd =>
    cases hd with
    | handOut =>
      refine ⟨?_, h.capacity⟩
      simpa [permitsHeld, Phase.holdsPermit] using h.permits
    | turn | join | joinBroken | allJoined => exact ⟨h.permits, h.capacity⟩
  | @work i job p c p' hw hp =>
    refine ⟨?_, hp.capacity.trans h.capacity⟩
    have hs := sum_map_set (fun w : Job × Phase => w.2.holdsPermit.toNat) (job, p') hw
    have hf := hp.free
    rw [← h.permits]
    simp only [permitsHeld] at hs ⊢
    omega
  | receive | finish | leave | raise => exact ⟨h.permits, h.capacity⟩

structure AtRest (t : Tools) (r : Run) : Prop where
  dispatch : r.dispatch? = none
  work : ∀ i, r.work? t i = none
  receive : r.receive? = none

theorem returned_of_dispatch? (ho : ∀ w ∈ r.workers, w.2.isOver = true)
    (h : r.dispatch? = none) : r.dispatcher = .returned := by
  cases hd : r.dispatcher with
  | between gs => cases gs <;> simp [dispatch?, hd] at h
  | within js gs => cases js <;> simp [dispatch?, hd] at h
  | cleared j js gs => simp [dispatch?, hd] at h
  | joining n =>
    cases hw : r.workers[n]? with
    | none => simp [dispatch?, hd, hw] at h
    | some w =>
      obtain ⟨job, p⟩ := w
      have hp := ho _ (List.mem_of_getElem? hw)
      cases p <;> simp [dispatch?, hd, hw, Phase.isOver] at h hp
  | returned => rfl

theorem step?_eq_none_of_work? {i : Nat} {job : Job} {p : Phase}
    (hw : r.workers[i]? = some (job, p)) (h : r.work? t i = none) :
    p.step? t job r.commons = none := by
  cases hp : p.step? t job r.commons with
  | none => rfl
  | some cp => simp [work?, hw, hp] at h

theorem AtRest.over (h : AtRest t r) (hp : Supplied limits r)
    (hr : r.commons.stream.length < r.commons.capacity) {w : Job × Phase} (hw : w ∈ r.workers) :
    w.2.isOver = true := by
  have hstuck : ∀ w ∈ r.workers, w.2.isOver = true ∨ w.2 = .waiting ∧ r.commons.free = 0 := by
    intro w hw
    obtain ⟨i, hi⟩ := List.mem_iff_getElem?.mp hw
    exact Phase.isOver_or_waiting_of_step? hr (step?_eq_none_of_work? hi (h.work i))
  have hheld : r.permitsHeld = 0 := by
    apply permitsHeld_eq_zero
    intro w hw
    obtain ho | ⟨hw, -⟩ := hstuck w hw
    · exact Phase.holdsPermit_of_isOver ho
    · rw [hw]
      rfl
  have hfree : r.commons.free ≠ 0 := by
    have := hp.permits
    have := Limits.one_le_effective limits.files
    omega
  exact (hstuck w hw).resolve_right fun hf => hfree hf.2

/-- At rest and with nothing left in the stream, the dispatcher has returned. -/
theorem AtRest.returned_of_stream (h : AtRest t r) (hp : Supplied limits r)
    (hs : r.commons.stream = []) :
    r.dispatcher = .returned ∧ ∀ w ∈ r.workers, w.2.isOver = true := by
  have hroom : r.commons.stream.length < r.commons.capacity := by
    have := Limits.one_le_effective limits.capacity
    rw [hs, hp.capacity, List.length_nil]
    omega
  have hover : ∀ w ∈ r.workers, w.2.isOver = true := fun w hw => h.over hp hroom hw
  exact ⟨returned_of_dispatch? hover h.dispatch, hover⟩

theorem isSilent_of_over (hd : r.dispatcher = .returned)
    (ho : ∀ w ∈ r.workers, w.2.isOver = true) : r.isSilent = true := by
  simpa [isSilent, hd] using fun job p => ho (job, p)

theorem AtRest.ended (h : AtRest t r) (hp : Supplied limits r) (ho : r.commons.isOpen = true) :
    r.ended = true := by
  by_contra he
  have hr := h.receive
  cases hs : r.commons.stream with
  | cons b bs => simp [receive?, ho, he, hs] at hr
  | nil =>
    obtain ⟨hd, hover⟩ := h.returned_of_stream hp hs
    simp [receive?, ho, he, hs, isSilent_of_over hd hover] at hr

end Run

end CommentBlocks
