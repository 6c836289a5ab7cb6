import CommentBlocks.Proofs.Run.Balance
import CommentBlocks.Proofs.Shared.Raised

namespace CommentBlocks

def Dispatcher.ahead : Dispatcher → List Job
  | between gs => gs.flatten
  | within js gs => js ++ gs.flatten
  | cleared j js gs => j :: (js ++ gs.flatten)
  | joining _ | returned => []

inductive Dispatcher.Through : Dispatcher → Prop
  | joining {n} : Through (.joining n)
  | returned : Through .returned

/-- Whether the file of a worker has been read, or its reading has been tried. -/
def Phase.hasRead : Phase → Bool
  | waiting | reading => false
  | _ => true

theorem Phase.hasRead_of_isOver {p : Phase} (h : p.isOver = true) : p.hasRead = true := by
  cases p <;> first | rfl | cases h

namespace Run

def dispatched (r : Run) : List Job := r.workers.map (·.1)

def read (r : Run) : List Job := (r.workers.filter (·.2.hasRead)).map (·.1)

variable {t : Tools} {groups : List (List Job)} {r r' : Run}

theorem dispatched_work {i : Nat} {job : Job} {p : Phase} (c : Commons) (p' : Phase)
    (hw : r.workers[i]? = some (job, p)) :
    dispatched { r with commons := c, workers := r.workers.set i (job, p') } = r.dispatched := by
  obtain ⟨hi, he⟩ := List.getElem?_eq_some_iff.mp hw
  have hj := @List.set_getElem_self _ (r.workers.map (·.1)) i (by simpa using hi)
  rw [List.getElem_map, he] at hj
  simp only [dispatched, List.map_set, hj]

/-- What has been handed out and what lies ahead make up all files, save for those that the raised
signal has cut off. -/
def InOrder (groups : List (List Job)) (r : Run) : Prop :=
  ∃ cut, r.dispatched ++ r.dispatcher.ahead ++ cut = groups.flatten ∧
    (r.isRaised = false → cut = [])

theorem InOrder.start (limits : Limits) (groups : List (List Job)) :
    InOrder groups (start limits groups) :=
  ⟨[], by simp [Run.start, dispatched, Dispatcher.ahead], fun _ => rfl⟩

theorem InOrder.dispatch (h : InOrder groups r) (hd : r.Dispatches r') : InOrder groups r' := by
  obtain ⟨cut, hg, hc⟩ := h
  cases hd with
  | turn hd =>
    obtain ⟨d₀, ws, c, s, bs, e⟩ := r
    cases hd with
    | allGiven => exact ⟨cut, hg, hc⟩
    | enter hr | pass | clear hr => exact ⟨cut, by simpa [dispatched, Dispatcher.ahead] using hg, hc⟩
    | stop hl hr =>
      refine ⟨d₀.ahead ++ cut, ?_, fun hf => absurd (hr.symm.trans hf) (by simp)⟩
      simpa [Dispatcher.ahead, dispatched] using hg
  | handOut hd | join hd | joinBroken hd | allJoined hd =>
    exact ⟨cut, by simpa [hd, dispatched, Dispatcher.ahead] using hg, hc⟩

theorem InOrder.move (h : InOrder groups r) (hm : Move t r r') : InOrder groups r' := by
  cases hm with
  | dispatch hd => exact h.dispatch hd
  | @work i job p c p' hw hp =>
    obtain ⟨cut, hg, hc⟩ := h
    refine ⟨cut, ?_, hc⟩
    rw [dispatched_work c p' hw]
    exact hg
  | receive | finish | leave => exact h
  | raise hr =>
    obtain ⟨cut, hg, hc⟩ := h
    obtain rfl := hc hr
    exact ⟨[], hg, fun _ => rfl⟩

theorem InOrder.isPrefix (h : InOrder groups r) : r.dispatched <+: groups.flatten := by
  obtain ⟨cut, hg, -⟩ := h
  exact ⟨r.dispatcher.ahead ++ cut, by rw [← hg, List.append_assoc]⟩

theorem InOrder.dispatched_eq (h : InOrder groups r) (hd : r.dispatcher = .returned)
    (hr : r.isRaised = false) : r.dispatched = groups.flatten := by
  obtain ⟨cut, hg, hc⟩ := h
  rw [← hg, hc hr, hd]
  simp [Dispatcher.ahead]

theorem through_move {js : List Job} (h : r.dispatcher.Through ∧ r.dispatched = js)
    (hm : Move t r r') : r'.dispatcher.Through ∧ r'.dispatched = js := by
  obtain ⟨ht, hj⟩ := h
  cases hm with
  | dispatch hd =>
    cases hd with
    | turn hd =>
      obtain ⟨d₀, ws, c, s, bs, e⟩ := r
      cases ht <;> cases hd with
      | stop hl => cases hl
    | handOut hd =>
      rw [hd] at ht
      cases ht
    | join | joinBroken => exact ⟨.joining, hj⟩
    | allJoined => exact ⟨.returned, hj⟩
  | @work i job p c p' hw hp => exact ⟨ht, (dispatched_work c p' hw).trans hj⟩
  | receive | finish | leave | raise => exact ⟨ht, hj⟩

theorem through_of_looks (hl : r.dispatcher.Looks) (hr : r.isRaised = true)
    (h : r.dispatch? = some r') : r'.dispatcher.Through ∧ r'.dispatched = r.dispatched := by
  cases hd : r.dispatcher with
  | between gs =>
    cases gs with
    | nil => rw [hd] at hl; cases hl
    | cons g gs =>
      obtain rfl := by simpa [dispatch?, hd, hr] using h
      exact ⟨.joining, rfl⟩
  | within js gs =>
    cases js with
    | nil => rw [hd] at hl; cases hl
    | cons j js =>
      obtain rfl := by simpa [dispatch?, hd, hr] using h
      exact ⟨.joining, rfl⟩
  | cleared | joining | returned => rw [hd] at hl; cases hl

structure Untouched (r : Run) : Prop where
  raised : r.isRaised = true
  dispatcher : (∃ gs, r.dispatcher = .between gs) ∨ r.dispatcher.Through
  workers : r.workers = []
  stream : r.commons.stream = []
  received : r.received = []
  issues : r.commons.issues = []

theorem Untouched.dispatch (h : Untouched r) (hd : r.Dispatches r') : Untouched r' := by
  obtain ⟨hr, hb, hw, hs, hv, hi⟩ := h
  cases hd with
  | turn ht =>
    refine ⟨hr, .inr ?_, hw, hs, hv, hi⟩
    obtain ⟨d₀, ws, c, s, bs, e⟩ := r
    cases ht with
    | allGiven | stop => exact .joining
    | enter hf | clear hf => exact absurd hr (by simpa using hf)
    | pass => obtain ⟨gs, hb⟩ | hb := hb <;> cases hb
  | handOut hj =>
    obtain ⟨gs, hb⟩ | hb := hb
    · simp [hb] at hj
    · rw [hj] at hb
      cases hb
  | join _ hn | joinBroken _ hn => simp [hw] at hn
  | allJoined => exact ⟨hr, .inr .returned, hw, hs, hv, hi⟩

theorem Untouched.move (h : Untouched r) (hm : Move t r r') : Untouched r' := by
  obtain ⟨hr, hd, hw, hs, hb, hi⟩ := h
  cases hm with
  | dispatch ht => exact Untouched.dispatch ⟨hr, hd, hw, hs, hb, hi⟩ ht
  | work hn => simp [hw] at hn
  | receive _ _ hn => simp [hs] at hn
  | finish => exact ⟨hr, hd, hw, hs, hb, hi⟩
  | leave => exact ⟨hr, hd, hw, rfl, hb, hi⟩
  | raise hf => exact absurd hr (by simp [hf])

theorem isRaised_congr (h : r.signals = r'.signals) : r.isRaised = r'.isRaised := by
  rw [isRaised, isRaised, h]

/-- The signals of a run are what the requests so far have made of those it began with. -/
def FromRequests (history : List Signal.Request) (r : Run) : Prop :=
  r.signals = (Signal.serveAll .empty history).1 ∧ [.create, .clone 0] <+: history

theorem FromRequests.requested {history : List Signal.Request} (h : FromRequests history r)
    (requests : List Signal.Request) : FromRequests (history ++ requests)
      { r with signals := (Signal.serveAll r.signals requests).1 } := by
  obtain ⟨hr, hp⟩ := h
  refine ⟨?_, hp.trans (List.prefix_append _ _)⟩
  simp only [hr, Signal.serves.append]

variable {limits : Limits}

theorem exists_fromRequests (hs : Steps t (start limits groups) r) :
    ∃ history, FromRequests history r := by
  refine hs.keeps (P := fun r => ∃ history, FromRequests history r)
    ⟨[.create, .clone 0], rfl, List.prefix_rfl⟩ fun ⟨history, hr, hp⟩ hm => ?_
  cases hm with
  | dispatch hd => cases hd <;> exact ⟨history, hr, hp⟩
  | work | receive | finish | leave => exact ⟨history, hr, hp⟩
  | raise => exact ⟨_, FromRequests.requested ⟨hr, hp⟩ _⟩

theorem FromRequests.isRaised_iff {history : List Signal.Request} (h : FromRequests history r) :
    r.isRaised = true ↔ ∃ n, Shared.Kin (Signal.events history) signal n ∧
      (.raise n, .done) ∈ Signal.answered history := by
  obtain ⟨hr, more, rfl⟩ := h
  have hx : (Signal.serveAll .empty ([.create, .clone 0] ++ more)).1.handles[signal]? =
      some ⟨0, ⟨0, 0⟩⟩ := by
    rw [Signal.serves.append]
    exact Signal.getElem?_handles_serveAll rfl more
  have hs := Signal.sound ([.create, .clone 0] ++ more)
  obtain ⟨c, hc⟩ := hs.exists_watch hx
  rw [isRaised, hr, hs.isRaised? hx hc, Option.getD_some]
  exact Signal.value_iff hx hc

theorem tally_workers {α : Type} (f : Job → List α) (r : Run) :
    tally (fun w => f w.1) r.workers = tally f r.dispatched :=
  (tally_map f Prod.fst r.workers).symm

theorem Balanced.given (h : Balanced t r) (he : r.ended = true) :
    (r.received : Multiset Block) = tally (Job.blocks t) r.dispatched ∧
      (r.commons.issues : Multiset Issue) = tally (Job.issues t) r.dispatched := by
  rw [← tally_workers, ← tally_workers]
  exact h.of_ended he

/-- The issues do not depend on the order of the events, nor on whether somebody listens. -/
theorem issues_of_uncut (hs : Steps t (start limits groups) r) (hd : r.dispatcher = .returned)
    (hr : r.isRaised = false) :
    (r.commons.issues : Multiset Issue) = tally (Job.issues t) groups.flatten := by
  have hb : Balanced t r := .steps hs (.start limits groups)
  have ho : InOrder groups r := hs.keeps (.start limits groups) InOrder.move
  rw [← ho.dispatched_eq hd hr, ← tally_workers]
  exact hb.issues_of_returned hd

theorem given_of_uncut (hs : Steps t (start limits groups) r) (he : r.ended = true)
    (hr : r.isRaised = false) :
    (r.received : Multiset Block) = tally (Job.blocks t) groups.flatten ∧
      (r.commons.issues : Multiset Issue) = tally (Job.issues t) groups.flatten := by
  have hb : Balanced t r := .steps hs (.start limits groups)
  have ho : InOrder groups r := hs.keeps (.start limits groups) InOrder.move
  rw [← ho.dispatched_eq (hb.orderly.ended he).1 hr]
  exact hb.given he

end Run

end CommentBlocks
