import CommentBlocks.Proofs.Run.Dispatch

namespace CommentBlocks

def partOf {α : Type} (i : Nat) (log : List (Nat × α)) : List α :=
  (log.filter (·.1 == i)).map (·.2)

section partOf

variable {α : Type} (i : Nat)

@[simp]
theorem partOf_append (log log' : List (Nat × α)) :
    partOf i (log ++ log') = partOf i log ++ partOf i log' := by
  simp [partOf]

@[simp]
theorem partOf_map_self (as : List α) : partOf i (as.map (i, ·)) = as := by
  simp [partOf, List.filter_map, Function.comp_def]

theorem partOf_map_of_ne {i k : Nat} (h : k ≠ i) (as : List α) :
    partOf i (as.map (k, ·)) = [] := by
  simp [partOf, List.filter_map, Function.comp_def, h]

theorem partOf_append_self (log : List (Nat × α)) (as : List α) :
    partOf i (log ++ as.map (i, ·)) = partOf i log ++ as := by
  rw [partOf_append, partOf_map_self]

theorem partOf_append_of_ne {i k : Nat} (h : k ≠ i) (log : List (Nat × α)) (as : List α) :
    partOf i (log ++ as.map (k, ·)) = partOf i log := by
  rw [partOf_append, partOf_map_of_ne h, List.append_nil]

end partOf

theorem partOf_take_isPrefix {α : Type} (i n : Nat) (log : List (Nat × α)) :
    partOf i (log.take n) <+: partOf i log :=
  ((List.take_prefix n log).filter _).map _

theorem map_snd_eq_partOf {α : Type} {i : Nat} {log : List (Nat × α)}
    (h : ∀ k, k ≠ i → partOf k log = []) : log.map (·.2) = partOf i log := by
  rw [partOf, List.filter_eq_self.mpr]
  intro e he
  by_contra hi
  have hn : partOf e.1 log = [] := h e.1 (by simpa using hi)
  have hm : e.2 ∈ partOf e.1 log :=
    List.mem_map.mpr ⟨e, List.mem_filter.mpr ⟨he, beq_self_eq_true e.1⟩, rfl⟩
  simp [hn] at hm

namespace Phase

def sends (c : Commons) : Phase → List Block
  | sending (b :: _) => if c.isOpen then [b] else []
  | _ => []

variable {t : Tools} {job : Job} {c c' : Commons} {p p' : Phase}

theorem Advance.stream (h : p.Advance t job c c' p') : c'.stream = c.stream ++ p.sends c := by
  cases h with
  | send ho => simp [sends, ho, Commons.send]
  | giveUp ho => simp [sends, ho, Commons.givePermit]
  | _ => exact (List.append_nil _).symm

theorem sends_isPrefix (c : Commons) (p : Phase) : p.sends c <+: p.blocksLeft t job := by
  unfold sends
  split
  · split
    · exact ⟨_, rfl⟩
    · exact List.nil_prefix
  · exact List.nil_prefix

theorem Advance.sends_append (h : p.Advance t job c c' p')
    (ho : c.isOpen = true ∨ p'.isOver = false) :
    p.sends c ++ p'.blocksLeft t job = p.blocksLeft t job := by
  cases h with
  | start | reported | extract | finish | report => rfl
  | readFailed hr | readBroke hr | read hr =>
    simp [sends, Phase.blocksLeft, Job.blocks, Job.outcome, Outcome.of, Outcome.blocks, handOver,
      hr]
  | send hc => simp [sends, Phase.blocksLeft, hc]
  | giveUp hc => simp [Phase.isOver, hc] at ho

end Phase

namespace Run

def sent (r : Run) : Event → List (Nat × Block)
  | .work i => (r.workers[i]?.elim [] fun w => w.2.sends r.commons).map (i, ·)
  | _ => []

/-- A run comes to a state while a log is kept. -/
inductive Logged (t : Tools) (r₀ : Run) : List (Nat × Block) → Run → Prop
  | start : Logged t r₀ [] r₀
  | fire {log r r'} (e : Event) (h : Logged t r₀ log r) (he : r.fire? t e = some r') :
    Logged t r₀ (log ++ r.sent e) r'

variable {t : Tools} {r₀ r r' : Run} {log : List (Nat × Block)}

/-- Every run can be logged, and a log takes no part in it. -/
theorem exists_logged_iff : (∃ log, Logged t r₀ log r) ↔ Steps t r₀ r := by
  constructor
  · rintro ⟨log, h⟩
    induction h with
    | start => exact .refl r₀
    | fire e _ he ih => exact .tail ih ⟨e, he⟩
  · intro h
    induction h with
    | refl => exact ⟨[], .start⟩
    | tail _ hs ih =>
      obtain ⟨log, hl⟩ := ih
      obtain ⟨e, he⟩ := hs
      exact ⟨_, .fire e hl he⟩

theorem workers_dispatch? (h : r.dispatch? = some r') :
    r'.received = r.received ∧ r'.ended = r.ended ∧ r'.commons.stream = r.commons.stream ∧
      r'.commons.isOpen = r.commons.isOpen ∧
      ∃ jobs : List Job, r'.workers = r.workers ++ jobs.map (·, .waiting) := by
  cases dispatches_of_dispatch? h with
  | handOut => exact ⟨rfl, rfl, rfl, rfl, [_], rfl⟩
  | turn | join | joinBroken | allJoined =>
    exact ⟨rfl, rfl, rfl, rfl, [], (List.append_nil _).symm⟩

/-- What the log says of the blocks. While somebody listens or has heard all, nothing is missing. -/
structure Delivered (t : Tools) (log : List (Nat × Block)) (r : Run) : Prop where
  orderly : Orderly r
  received : r.received.reverse <+: log.map (·.2)
  stream : r.commons.isOpen = true ∨ r.ended = true →
    r.received.reverse ++ r.commons.stream = log.map (·.2)
  sent {i job p} : r.workers[i]? = some (job, p) → partOf i log <+: job.blocks t
  left {i job p} : r.workers[i]? = some (job, p) →
    p.isOver = false ∨ r.commons.isOpen = true ∨ r.ended = true →
    partOf i log ++ p.blocksLeft t job = job.blocks t
  others {i} : r.workers.length ≤ i → partOf i log = []

theorem Delivered.start (limits : Limits) (groups : List (List Job)) :
    Delivered t [] (start limits groups) where
  orderly := .start limits groups
  received := List.prefix_rfl
  stream _ := rfl
  sent h := by simp [Run.start] at h
  left h := by simp [Run.start] at h
  others _ := rfl

theorem getElem?_set_cases {α : Type} {l : List α} {i k : Nat} {a b : α}
    (h : (l.set i b)[k]? = some a) : k = i ∧ a = b ∨ k ≠ i ∧ l[k]? = some a := by
  by_cases hk : k = i
  · subst hk
    have hl : k < l.length := by simpa using (List.getElem?_eq_some_iff.mp h).1
    rw [List.getElem?_set_self hl] at h
    exact .inl ⟨rfl, (Option.some.inj h).symm⟩
  · rw [List.getElem?_set_ne (Ne.symm hk)] at h
    exact .inr ⟨hk, h⟩

theorem Delivered.work {i : Nat} {job : Job} {p p' : Phase} {c : Commons}
    (h : Delivered t log r) (hw : r.workers[i]? = some (job, p))
    (hp : p.Advance t job r.commons c p') :
    Delivered t (log ++ (p.sends r.commons).map (i, ·))
      { r with commons := c, workers := r.workers.set i (job, p') } := by
  have hleft := h.left hw (.inl hp.isOver)
  have he := h.orderly.not_ended hw hp.isOver
  have hopen : c.isOpen = true ∨ r.ended = true → r.commons.isOpen = true := by
    rw [hp.isOpen, he]
    simp
  constructor
  · exact h.orderly.move (.work hw hp)
  · rw [List.map_append]
    exact h.received.trans (List.prefix_append _ _)
  · intro ho
    have hs := h.stream (.inl (hopen ho))
    dsimp only
    rw [hp.stream, ← List.append_assoc, hs]
    simp [Function.comp_def]
  · intro k job' q hk
    obtain ⟨rfl, hq⟩ | ⟨hki, hk⟩ := getElem?_set_cases hk
    · obtain ⟨rfl, rfl⟩ := Prod.mk.inj hq
      rw [partOf_append_self, ← hleft]
      exact (List.prefix_append_right_inj _).mpr (p.sends_isPrefix r.commons)
    · rw [partOf_append_of_ne (Ne.symm hki)]
      exact h.sent hk
  · intro k job' q hk ho
    obtain ⟨rfl, hq⟩ | ⟨hki, hk⟩ := getElem?_set_cases hk
    · obtain ⟨rfl, rfl⟩ := Prod.mk.inj hq
      rw [partOf_append_self, List.append_assoc,
        hp.sends_append (ho.symm.imp_left hopen), hleft]
    · rw [partOf_append_of_ne (Ne.symm hki)]
      exact h.left hk (ho.imp_right (.inl ∘ hopen))
  · intro k hk
    have hi := (List.getElem?_eq_some_iff.mp hw).1
    have hk : r.workers.length ≤ k := by simpa using hk
    rw [partOf_append_of_ne (by omega), h.others hk]

theorem Delivered.dispatch (h : Delivered t log r) (hd : r.dispatch? = some r') :
    Delivered t log r' := by
  obtain ⟨hb, he, hs, ho, jobs, hw⟩ := workers_dispatch? hd
  -- a worker is an old one, or has yet to send all that it will
  have hget {i : Nat} {job : Job} {p : Phase} (hi : r'.workers[i]? = some (job, p)) :
      r.workers[i]? = some (job, p) ∨ p = .waiting ∧ partOf i log = [] := by
    rw [hw] at hi
    obtain hl | hl := Nat.lt_or_ge i r.workers.length
    · rw [List.getElem?_append_left hl] at hi
      exact .inl hi
    · rw [List.getElem?_append_right hl] at hi
      obtain ⟨_, -, hj⟩ := List.mem_map.mp (List.mem_of_getElem? hi)
      exact .inr ⟨(congrArg Prod.snd hj).symm, h.others hl⟩
  constructor
  · exact h.orderly.dispatch (dispatches_of_dispatch? hd)
  · rw [hb]
    exact h.received
  · rw [hb, he, hs, ho]
    exact h.stream
  · intro i job p hi
    obtain hi | ⟨rfl, hn⟩ := hget hi
    · exact h.sent hi
    · rw [hn]
      exact List.nil_prefix
  · intro i job p hi hp
    obtain hi | ⟨rfl, hn⟩ := hget hi
    · rw [he, ho] at hp
      exact h.left hi hp
    · rw [hn]
      rfl
  · intro i hi
    rw [hw, List.length_append] at hi
    exact h.others (by omega)

theorem Delivered.receive (h : Delivered t log r) (hr : r.receive? = some r') :
    Delivered t log r' := by
  have horderly := h.orderly.move (move_of_receive? t hr)
  rw [receive?] at hr
  split at hr
  · cases hr
  · next hc =>
    obtain ⟨ho, -⟩ := by simpa using hc
    have hall := h.stream (.inl ho)
    split at hr
    · next b bs hs =>
      cases hr
      rw [hs, List.append_cons, ← List.reverse_cons] at hall
      exact ⟨horderly, ⟨bs, hall⟩, fun _ => hall, h.sent, h.left, h.others⟩
    · split at hr
      · cases hr
        exact ⟨horderly, h.received, fun _ => hall, h.sent,
          fun hw _ => h.left hw (.inr (.inl ho)), h.others⟩
      · cases hr

theorem Delivered.leave (h : Delivered t log r) :
    Delivered t log { r with commons := r.commons.close } := by
  constructor
  · exact ⟨h.orderly.joined, fun he => ⟨(h.orderly.ended he).1, rfl⟩⟩
  · exact h.received
  · intro he
    have he : r.ended = true := he.resolve_left (by simp [Commons.close])
    rw [← h.stream (.inr he), (h.orderly.ended he).2]
    rfl
  · exact h.sent
  · intro i job p hw ho
    have ho : p.isOver = false ∨ r.ended = true := by simpa [Commons.close] using ho
    exact h.left hw (ho.imp_right .inr)
  · exact h.others

theorem Delivered.raise (h : Delivered t log r) (signals : Signals) :
    Delivered t log { r with signals } :=
  ⟨⟨h.orderly.joined, h.orderly.ended⟩, h.received, h.stream, h.sent, h.left, h.others⟩

theorem Delivered.fire {e : Event} (h : Delivered t log r) (he : r.fire? t e = some r') :
    Delivered t (log ++ r.sent e) r' := by
  cases e with
  | work i =>
    obtain ⟨job, p, c, p', hw, hp, rfl⟩ := advance_of_work? he
    simpa [Run.sent, hw] using h.work hw hp
  | dispatch => simpa [Run.sent] using h.dispatch he
  | receive => simpa [Run.sent] using h.receive he
  | leave =>
    obtain ⟨-, rfl⟩ := by simpa [fire?] using he
    simpa [Run.sent] using h.leave
  | raise requests =>
    obtain ⟨-, rfl⟩ := by simpa [fire?] using he
    simpa [Run.sent] using h.raise _

theorem Delivered.partOf_isPrefix (h : Delivered t log r) (i : Nat) :
    partOf i log <+: r.dispatched[i]?.elim [] (Job.blocks t) := by
  rw [dispatched, List.getElem?_map]
  cases hw : r.workers[i]? with
  | none => exact (h.others (List.getElem?_eq_none_iff.mp hw)).symm ▸ List.nil_prefix
  | some w => exact h.sent hw

theorem Delivered.received_eq (h : Delivered t log r) :
    (log.take r.received.length).map (·.2) = r.received.reverse := by
  rw [List.map_take, ← List.length_reverse]
  exact (List.prefix_iff_eq_take.mp h.received).symm

theorem Delivered.of_ended (h : Delivered t log r) (he : r.ended = true) :
    log.map (·.2) = r.received.reverse ∧
      ∀ i, partOf i log = r.dispatched[i]?.elim [] (Job.blocks t) := by
  obtain ⟨hd, hs⟩ := h.orderly.ended he
  constructor
  · rw [← h.stream (.inr he), hs, List.append_nil]
  · intro i
    rw [dispatched, List.getElem?_map]
    cases hw : r.workers[i]? with
    | none => exact h.others (List.getElem?_eq_none_iff.mp hw)
    | some w =>
      have hover := h.orderly.over_of_returned hd (List.mem_of_getElem? hw)
      simpa [Phase.blocksLeft_of_isOver hover] using h.left hw (.inr (.inr he))

theorem Logged.delivered {limits : Limits} {groups : List (List Job)}
    (h : Logged t (Run.start limits groups) log r) : Delivered t log r := by
  induction h with
  | start => exact .start limits groups
  | fire e _ he ih => exact ih.fire he

end Run

end CommentBlocks
