import CommentBlocks.Proofs.Run.Delivery
import CommentBlocks.Proofs.Run.Ending

namespace CommentBlocks

theorem Phase.sends_of_closed {c : Commons} (h : c.isOpen = false) (p : Phase) :
    p.sends c = [] := by
  unfold sends
  split
  · simp [h]
  · rfl

def Commons.Shut (c : Commons) : Prop := c.isOpen = false → c.stream = []

theorem Phase.Advance.shut {t : Tools} {job : Job} {c c' : Commons} {p p' : Phase}
    (h : p.Advance t job c c' p') (hc : c.Shut) : c'.Shut := by
  intro ho
  have ho : c.isOpen = false := h.isOpen ▸ ho
  rw [h.stream, hc ho, sends_of_closed ho, List.append_nil]

/-- A worker that comes to its end held a permit up to then. -/
theorem Phase.Advance.free_of_isOver {t : Tools} {job : Job} {c c' : Commons} {p p' : Phase}
    (h : p.Advance t job c c' p') (hp : p'.isOver = true) : c'.free = c.free + 1 := by
  cases h with
  | readBroke | giveUp | finish => rfl
  | start | readFailed | read | extract | report | reported | send => cases hp

namespace Run

variable {t : Tools} {limits : Limits} {groups : List (List Job)} {r s : Run}

theorem shut_move (h : r.commons.Shut) (hm : Move t r s) : s.commons.Shut := by
  intro ho
  cases hm with
  | dispatch hd => cases hd <;> exact h ho
  | work _ hp => exact hp.shut h ho
  | receive hc => simp [hc] at ho
  | leave => rfl
  | finish | raise => exact h ho

theorem AtRest.returned (h : AtRest t r) (hp : Supplied limits r) (ho : Orderly r)
    (hc : r.commons.Shut) :
    r.dispatcher = .returned ∧ ∀ w ∈ r.workers, w.2.isOver = true := by
  cases hopen : r.commons.isOpen with
  | false => exact h.returned_of_stream hp (hc hopen)
  | true =>
    have hd := (ho.ended (h.ended hp hopen)).1
    exact ⟨hd, fun w hw => ho.over_of_returned hd hw⟩

theorem exists_fire?_of_not_atRest (h : ¬ AtRest t r) :
    ∃ e s, e ≠ .leave ∧ (∀ requests, e ≠ .raise requests) ∧ r.fire? t e = some s := by
  by_contra hn
  have hnone {e : Event} (hl : e ≠ .leave) (hr : ∀ requests, e ≠ .raise requests) :
      r.fire? t e = none := by
    by_contra he
    obtain ⟨s, hs⟩ := Option.ne_none_iff_exists'.mp he
    exact hn ⟨e, s, hl, hr, hs⟩
  exact h ⟨hnone (e := .dispatch) nofun nofun, fun i => hnone (e := .work i) nofun nofun,
    hnone (e := .receive) nofun nofun⟩

theorem Supplied.free_of_over (h : Supplied limits r)
    (ho : ∀ w ∈ r.workers, w.2.isOver = true) :
    r.commons.free = Limits.effective limits.files := by
  have hheld := permitsHeld_eq_zero fun w hw => Phase.holdsPermit_of_isOver (ho w hw)
  have := h.permits
  omega

theorem add_weight_le {f : Nat → Run} {n : Nat} (h : ∀ k < n, Step t (f k) (f (k + 1))) :
    n + (f n).weight t ≤ (f 0).weight t := by
  induction n with
  | zero => omega
  | succ n ih =>
    have hn := ih fun k hk => h k (by omega)
    obtain ⟨e, he⟩ := h n (by omega)
    have := weight_fire?_lt he
    omega

/-- Every step costs weight, so that the steps from a state on are at most as many as it weighs. -/
theorem le_weight {f : Nat → Run} {n : Nat} (hf : f 0 = r)
    (h : ∀ k < n, Step t (f k) (f (k + 1))) : n ≤ r.weight t := by
  have := add_weight_le h
  rw [hf] at this
  omega

/-- No run gets stuck. While the dispatcher has not returned, it or a worker can take a step or a
block can be received, the latter only if nobody has left. Only so many steps are left, and when
none is left the dispatcher has returned and every worker is over. A permit that is not free is held
by a worker, which gives it back with its last step, whichever that is. -/
theorem no_deadlock (hs : Steps t (start limits groups) r) :
    (1 ≤ Limits.effective limits.files ∧ 1 ≤ r.commons.capacity) ∧
      (r.dispatcher ≠ .returned → ∃ e s, e ≠ .leave ∧ (∀ requests, e ≠ .raise requests) ∧
        (r.commons.isOpen = false → e ≠ .receive) ∧ r.fire? t e = some s) ∧
      (∀ (f : Nat → Run) n, f 0 = r → (∀ k < n, Step t (f k) (f (k + 1))) → n ≤ r.weight t) ∧
      (AtRest t r → r.dispatcher = .returned ∧ (∀ w ∈ r.workers, w.2.isOver = true) ∧
        r.commons.free = Limits.effective limits.files) ∧
      r.commons.free + r.permitsHeld = Limits.effective limits.files ∧
      ∀ i s job p, r.fire? t (.work i) = some s → s.workers[i]? = some (job, p) →
        p.isOver = true → s.commons.free = r.commons.free + 1 := by
  have hp : Supplied limits r := hs.keeps (.start limits groups) Supplied.move
  have ho : Orderly r := hs.keeps (.start limits groups) Orderly.move
  have hc : r.commons.Shut := hs.keeps (P := fun r => r.commons.Shut) (fun _ => rfl) shut_move
  refine ⟨⟨Limits.one_le_effective _, hp.capacity ▸ Limits.one_le_effective _⟩, fun hd => ?_,
    fun f n => le_weight, fun ha => ?_, hp.permits, fun i s job p hw hi hover => ?_⟩
  · have ha : ¬ AtRest t r := fun ha => hd (ha.returned hp ho hc).1
    obtain ⟨e, s, hl, hr, he⟩ := exists_fire?_of_not_atRest ha
    refine ⟨e, s, hl, hr, fun hopen hrec => ?_, he⟩
    subst hrec
    simp [fire?, receive?, hopen] at he
  · obtain ⟨hd, hover⟩ := ha.returned hp ho hc
    exact ⟨hd, hover, hp.free_of_over hover⟩
  · obtain ⟨job', p₀, c, p', hj, ha, rfl⟩ := advance_of_work? hw
    have hlt := (List.getElem?_eq_some_iff.mp hj).1
    rw [List.getElem?_set_self hlt] at hi
    obtain ⟨rfl, rfl⟩ := by simpa using hi
    exact ha.free_of_isOver hover

def sampleFull : List Event :=
  List.flatten [List.replicate 3 .dispatch, List.replicate 5 (.work 0), List.replicate 9 .dispatch]

theorem no_deadlock_sample :
    (sampleRun sampleFull).dispatch?.isNone = true ∧ (sampleRun sampleFull).commons.free = 0 ∧
      ∃ e s, e ≠ .leave ∧ (∀ requests, e ≠ .raise requests) ∧
        (sampleRun sampleFull).fire? sampleTools e = some s := by
  have hd : (sampleRun sampleFull).dispatcher = .joining 0 := by decide +kernel
  have hn : (sampleRun sampleFull).dispatch?.isNone = true := by decide +kernel
  have hf : (sampleRun sampleFull).commons.free = 0 := by decide +kernel
  have h := no_deadlock (steps_sample sampleFull)
  obtain ⟨e, s, hl, hr, -, he⟩ := h.2.1 (by simp [hd])
  exact ⟨hn, hf, e, s, hl, hr, he⟩

end Run

end CommentBlocks
