import CommentBlocks.Proofs.Shared.Families
import CommentBlocks.Shared.Signal

namespace CommentBlocks

/-- What a wait for a channel may have seen of it. A wait that is asleep has not seen `true`. -/
inductive Stage.Fits (k : Nat) (c : Watch Bool) : Stage → Prop
  | begun : Fits k c .begun
  | asleep {r : Receiver} (hk : r.channel = k) (hs : r.seen ≤ c.number)
    (hv : c.value = true → r.seen < c.number) : Fits k c (.asleep r)
  | met (hv : c.value = true) : Fits k c .met

variable {k n : Nat} {c : Watch Bool} {st : Stage} {r : Receiver} {x : Signal} {w : Wait}
  {s : Signals}

theorem Stage.Fits.send (h : Fits k c st) : Fits k (c.send true) st := by
  cases h with
  | begun => exact .begun
  | asleep hk hs hv => exact .asleep hk (Nat.le_succ_of_le hs) fun _ => Nat.lt_succ_of_le hs
  | met => exact .met rfl

theorem Stage.Fits.value_of_isOver (h : Fits k c st) (ho : st.isOver = true) : c.value = true := by
  cases h with
  | met hv => exact hv
  | begun | asleep => cases ho

namespace Watch

theorem fits_look (hk : r.channel = k) :
    (c.look id false r).Fits k c ∧ (c.look id false r).isOver = c.value := by
  cases hv : c.value with
  | true => simpa [look, hv, Stage.isOver] using Stage.Fits.met hv
  | false =>
    simpa [look, hv, Stage.isOver] using
      Stage.Fits.asleep (r := { r with seen := c.number }) hk Nat.le.refl (by simp [hv])

theorem fits_wake (h : Stage.Fits k c (.asleep r)) :
    (c.wake id false r).Fits k c ∧ (c.wake id false r).isOver = c.value := by
  cases h with
  | asleep hk hs hv =>
    by_cases hn : r.seen = c.number
    · have hf : c.value = false := by
        rw [← Bool.not_eq_true]
        intro ht
        have := hv ht
        omega
      simpa [wake, hn, hf, Stage.isOver] using Stage.Fits.asleep hk hs hv
    · simpa [wake, hn] using fits_look hk

end Watch

namespace Signals

def senders (s : Signals) : Shared (Watch Bool) := ⟨s.channels, s.handles.map (·.sender)⟩

/-- A signal is read where it is raised, and no wait has missed anything. -/
structure Sound (s : Signals) : Prop where
  reads : ∀ x ∈ s.handles, x.receiver.channel = x.sender ∧ x.sender < s.channels.length
  waits : ∀ w ∈ s.waits, ∃ x c, s.handles[w.handle]? = some x ∧
    s.channels[x.sender]? = some c ∧ w.stage.Fits x.sender c

theorem get?_senders (h : s.handles[n]? = some x) :
    s.senders.get? n = s.channels[x.sender]? := by
  simp [senders, Shared.get?, h]

theorem getElem?_holders_senders (s : Signals) (n : Nat) :
    s.senders.holders[n]? = s.handles[n]?.map (·.sender) := by
  simp [senders]

theorem isClosed_eq_false (hx : s.handles[n]? = some x) : s.isClosed x.sender = false := by
  have hm := List.mem_of_getElem? hx
  simp only [isClosed, List.all_eq_false]
  exact ⟨x, hm, by simp⟩

theorem Sound.exists_watch (h : Sound s) (hx : s.handles[n]? = some x) :
    ∃ c, s.channels[x.sender]? = some c :=
  ⟨_, List.getElem?_eq_getElem (h.reads x (List.mem_of_getElem? hx)).2⟩

theorem Sound.channel_receiver (h : Sound s) (hx : s.handles[n]? = some x) :
    x.receiver.channel = x.sender := (h.reads x (List.mem_of_getElem? hx)).1

theorem Sound.poll (h : Sound s) (hx : s.handles[w.handle]? = some x)
    (hc : s.channels[x.sender]? = some c) (hf : w.stage.Fits x.sender c) :
    (s.poll w).Fits x.sender c ∧ (w.stage.isOver = false → (s.poll w).isOver = c.value) := by
  have hopen := isClosed_eq_false hx
  have hr := h.channel_receiver hx
  obtain ⟨handle, stage⟩ := w
  cases stage with
  | begun =>
    have hp : s.poll ⟨handle, .begun⟩ = c.look id false x.receiver := by
      simp [Signals.poll, look, hx, hr, hc, hopen]
    rw [hp]
    exact (Watch.fits_look hr).imp_right fun ho _ => ho
  | asleep r =>
    have hk : r.channel = x.sender := by
      cases hf with
      | asleep hk => exact hk
    have hp : s.poll ⟨handle, .asleep r⟩ = c.wake id false r := by
      simp [Signals.poll, wake, hk, hc, hopen]
    rw [hp]
    exact (Watch.fits_wake hf).imp_right fun ho _ => ho
  | met => exact ⟨hf, by simp [Stage.isOver]⟩
  | failed => cases hf

theorem Sound.isRaised? (h : Sound s) (hx : s.handles[n]? = some x)
    (hc : s.channels[x.sender]? = some c) : s.isRaised? n = some c.value := by
  simp [Signals.isRaised?, hx, h.channel_receiver hx, hc]

theorem Sound.empty : Sound .empty := ⟨nofun, nofun⟩

theorem Sound.grow (h : Sound s) (cs : List (Watch Bool)) {y : Signal}
    (hy : y.receiver.channel = y.sender ∧ y.sender < s.channels.length + cs.length) :
    Sound { s with channels := s.channels ++ cs, handles := s.handles ++ [y] } := by
  constructor
  · intro x hx
    simp only [List.length_append]
    obtain hx | hx := List.mem_append.mp hx
    · exact ⟨(h.reads x hx).1, Nat.lt_add_right _ (h.reads x hx).2⟩
    · obtain rfl := List.mem_singleton.mp hx
      exact hy
  · intro w hw
    obtain ⟨x, c, hx, hc, hf⟩ := h.waits w hw
    refine ⟨x, c, Shared.getElem?_concat_eq_some_iff.mpr (.inl hx), ?_, hf⟩
    rw [List.getElem?_append_left (List.getElem?_eq_some_iff.mp hc).1, hc]

theorem Sound.send (h : Sound s) (k : Nat) :
    Sound { s with channels := s.channels.modify k (Watch.send true) } := by
  constructor
  · simpa using h.reads
  · intro w hw
    obtain ⟨x, c, hx, hc, hf⟩ := h.waits w hw
    by_cases hk : k = x.sender
    · exact ⟨x, c.send true, hx, by simp [hk, hc], hf.send⟩
    · exact ⟨x, c, hx, by simp [hk, hc], hf⟩

/-- What one request keeps. -/
theorem Sound.serve (h : Sound s) (q : Signal.Request) : Sound (Signal.serve s q).1 := by
  cases q with
  | create => exact h.grow [⟨false, 0⟩] ⟨rfl, by simp⟩
  | clone n =>
    rw [Signal.serve]
    split
    · next x hx =>
      have hx := h.reads x (List.mem_of_getElem? hx)
      simpa using h.grow [] hx
    · exact h
  | raise n =>
    rw [Signal.serve]
    split
    · exact h.send _
    · exact h
  | isRaised n => exact h
  | waitOver n =>
    rw [Signal.serve]
    split <;> exact h
  | wait n =>
    rw [Signal.serve]
    split
    · next x hx =>
      obtain ⟨c, hc⟩ := h.exists_watch hx
      refine ⟨h.reads, fun w hw => ?_⟩
      obtain hw | hw := List.mem_append.mp hw
      · exact h.waits w hw
      · obtain rfl := List.mem_singleton.mp hw
        exact ⟨x, c, hx, hc, .begun⟩
    · exact h
  | poll n =>
    rw [Signal.serve]
    split
    · next w hw =>
      split
      · exact h
      · obtain ⟨x, c, hx, hc, hf⟩ := h.waits w (List.mem_of_getElem? hw)
        refine ⟨h.reads, fun v hv => ?_⟩
        obtain hv | rfl := List.mem_or_eq_of_mem_set hv
        · exact h.waits v hv
        · exact ⟨x, c, hx, hc, (h.poll hx hc hf).1⟩
    · exact h

inductive Resent : Option (Watch Bool) → Option (Watch Bool) → Prop
  | same (o) : Resent o o
  | again {n m : Nat} (h : n ≤ m) : Resent (some ⟨true, n⟩) (some ⟨true, m⟩)

theorem Resent.send {o o' : Option (Watch Bool)} (h : Resent o o') :
    Resent (o.map (Watch.send true)) (o'.map (Watch.send true)) := by
  cases h with
  | same => exact .same _
  | again hn => exact .again (Nat.succ_le_succ hn)

/-- Two states that no request tells apart. -/
structure Alike (s s' : Signals) : Prop where
  handles : s'.handles = s.handles
  waits : s'.waits = s.waits
  length : s'.channels.length = s.channels.length
  channels (k : Nat) : Resent s.channels[k]? s'.channels[k]?

variable {s' : Signals}

theorem Alike.isRaised? (h : Alike s s') (n : Nat) : s'.isRaised? n = s.isRaised? n := by
  have hv (k : Nat) : s'.channels[k]?.map (·.value) = s.channels[k]?.map (·.value) := by
    have hc := h.channels k
    revert hc
    generalize s.channels[k]? = o, s'.channels[k]? = o'
    rintro (_ | _) <;> rfl
  simp only [Signals.isRaised?, h.handles, hv]

theorem Alike.isClosed (h : Alike s s') (k : Nat) : s'.isClosed k = s.isClosed k := by
  simp only [Signals.isClosed, h.handles]

theorem Alike.look (h : Alike s s') (r : Receiver) : s'.look r = s.look r := by
  have hc := h.channels r.channel
  rw [Signals.look, Signals.look, h.isClosed]
  revert hc
  generalize s.channels[r.channel]? = o, s'.channels[r.channel]? = o'
  rintro (_ | _) <;> rfl

/-- A wait that is asleep has not seen `true`, and wakes however often it has been sent. -/
theorem Alike.wake (h : Alike s s') (hc : s.channels[r.channel]? = some c)
    (hv : c.value = true → r.seen < c.number) : s'.wake r = s.wake r := by
  have hr := h.channels r.channel
  rw [Signals.wake, Signals.wake, h.isClosed]
  rw [hc] at hr ⊢
  generalize s'.channels[r.channel]? = o at hr ⊢
  cases hr with
  | same => rfl
  | @again n m hn =>
    have hs : r.seen < n := hv rfl
    have hn' : r.seen ≠ n := by omega
    have hm : r.seen ≠ m := by omega
    simp [Watch.wake, hn', hm, Watch.look]

theorem Alike.poll (h : Alike s s') (hs : Sound s) (hw : w ∈ s.waits ∨ w.stage = .begun) :
    s'.poll w = s.poll w := by
  obtain ⟨handle, stage⟩ := w
  cases stage with
  | begun =>
    simp only [Signals.poll, h.handles]
    cases s.handles[handle]? with
    | none => rfl
    | some x => exact h.look x.receiver
  | asleep r =>
    obtain ⟨x, c, -, hc, hf⟩ := hs.waits _ (hw.resolve_right nofun)
    cases hf with
    | asleep hk _ hv => exact h.wake (hk ▸ hc) hv
  | met => rfl
  | failed => rfl

theorem Alike.serve (h : Alike s s') (hs : Sound s) (q : Signal.Request) :
    Alike (Signal.serve s q).1 (Signal.serve s' q).1 ∧
      (Signal.serve s' q).2 = (Signal.serve s q).2 := by
  cases q with
  | create =>
    refine ⟨⟨?_, h.waits, ?_, fun k => ?_⟩, ?_⟩
    · simp [Signal.serve, h.handles, h.length]
    · simp [Signal.serve, h.length]
    · simp only [Signal.serve, List.getElem?_append, h.length]
      split
      · exact h.channels k
      · exact .same _
    · simp [Signal.serve, h.handles]
  | clone n =>
    simp only [Signal.serve, h.handles]
    cases s.handles[n]? with
    | none => exact ⟨h, rfl⟩
    | some x => exact ⟨⟨rfl, h.waits, h.length, h.channels⟩, rfl⟩
  | raise n =>
    simp only [Signal.serve, h.handles]
    cases s.handles[n]? with
    | none => exact ⟨h, rfl⟩
    | some x =>
      refine ⟨⟨rfl, h.waits, by simpa using h.length, fun k => ?_⟩, rfl⟩
      rw [List.getElem?_modify, List.getElem?_modify]
      split
      · exact (h.channels k).send
      · simpa using h.channels k
  | isRaised n => exact ⟨h, by simp [Signal.serve, h.isRaised?]⟩
  | waitOver n =>
    simp only [Signal.serve, h.handles, h.poll hs (w := ⟨n, .begun⟩) (.inr rfl)]
    cases s.handles[n]? with
    | none => exact ⟨h, rfl⟩
    | some x => exact ⟨h, rfl⟩
  | wait n =>
    simp only [Signal.serve, h.handles, h.waits]
    cases s.handles[n]? with
    | none => exact ⟨h, rfl⟩
    | some x => exact ⟨⟨rfl, rfl, h.length, h.channels⟩, rfl⟩
  | poll n =>
    simp only [Signal.serve, h.waits]
    cases hw : s.waits[n]? with
    | none => exact ⟨h, rfl⟩
    | some w =>
      dsimp only
      split
      · exact ⟨h, rfl⟩
      · rw [h.poll hs (.inl (List.mem_of_getElem? hw))]
        exact ⟨⟨h.handles, rfl, h.length, h.channels⟩, rfl⟩

end Signals

end CommentBlocks
