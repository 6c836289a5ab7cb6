import CommentBlocks.Proofs.Shared.Watched

namespace CommentBlocks.Signal

open Shared Signals

def Request.handle? : Request → Option Nat
  | create | poll _ => none
  | clone h | raise h | isRaised h | waitOver h | wait h => some h

def event? : Request × Answer → Option (Event (Watch Bool) Unit)
  | (.create, .handle n) => some (.made n ⟨false, 0⟩)
  | (.clone h, .handle n) => some (.cloned h n)
  | (.raise h, .done) => some (.used h ())
  | _ => none

def answered (requests : List Request) : List (Request × Answer) :=
  requests.zip (serveAll .empty requests).2

def events (requests : List Request) : List (Event (Watch Bool) Unit) :=
  (answered requests).filterMap event?

def Sends (c : Watch Bool) (_ : Unit) (c' : Watch Bool) : Prop := c' = c.send true

variable {es : List (Event (Watch Bool) Unit)} {s s' : Signals} {h k n : Nat} {x : Signal}
  {c c' : Watch Bool} {xs : List Unit} {requests : List Request}

theorem serves : Serves serve serveAll := ⟨fun _ => rfl, fun _ _ _ => rfl⟩

theorem sound (requests : List Request) : Sound (serveAll .empty requests).1 :=
  serves.keeps (P := fun _ s => Sound s) .empty (fun _ _ r h => h.serve r) requests

theorem logged_serve (hl : Logged Sends es s.senders) (hs : Sound s) (r : Request) :
    Logged Sends (es ++ (event? (r, (serve s r).2)).toList) (serve s r).1.senders := by
  cases r with
  | create =>
    have hm := hl.made ⟨false, 0⟩
    simpa [serve, senders, Shared.create, event?] using hm
  | clone h =>
    cases hx : s.handles[h]? with
    | none => simpa [serve, hx, event?] using hl
    | some x =>
      have hc : s.senders.clone? h =
          some (⟨s.channels, s.handles.map (·.sender) ++ [x.sender]⟩, s.handles.length) := by
        simp [senders, clone?, hx]
      simpa [serve, hx, event?, senders] using hl.cloned hc
  | raise h =>
    cases hx : s.handles[h]? with
    | none => simpa [serve, hx, event?] using hl
    | some x =>
      obtain ⟨c, hc⟩ := hs.exists_watch hx
      have hu := hl.used (x := ()) (f := Watch.send true) ((get?_senders hx).trans hc) rfl
      simpa [serve, hx, event?, senders, Shared.modify] using hu
  | isRaised h => simpa [serve, event?] using hl
  | waitOver h | wait h => cases hx : s.handles[h]? <;> simpa [serve, hx, event?, senders] using hl
  | poll n =>
    rw [serve]
    split
    · split <;> simpa [event?, senders] using hl
    · simpa [event?] using hl

theorem logged (requests : List Request) :
    Logged Sends (events requests) (serveAll .empty requests).1.senders :=
  (serves.logged (P := fun es (s : Signals) => Logged Sends es s.senders ∧ Sound s) ⟨.nil, .empty⟩
    (fun _ _ r hp => ⟨logged_serve hp.1 hp.2 r, hp.2.serve r⟩) requests).1

/-- A channel has the value `true` if something has been sent, and not before. -/
theorem value_iff_ne_nil (hp : Plays Sends ⟨false, 0⟩ xs c) : c.value = true ↔ xs ≠ [] := by
  cases hp with
  | nil => simp
  | concat _ hs =>
    obtain rfl := hs
    simp [Watch.send]

theorem used_mem_events_iff :
    .used n () ∈ events requests ↔ (.raise n, .done) ∈ answered requests := by
  rw [events, List.mem_filterMap]
  constructor
  · rintro ⟨entry, hm, he⟩
    unfold event? at he
    split at he <;> cases he
    exact hm
  · exact fun hm => ⟨_, hm, rfl⟩

theorem eq_of_made (hm : .made n c ∈ events requests) : c = ⟨false, 0⟩ := by
  obtain ⟨entry, -, he⟩ := List.mem_filterMap.mp hm
  unfold event? at he
  split at he <;> cases he
  rfl

theorem value_iff (hx : (serveAll .empty requests).1.handles[h]? = some x)
    (hc : (serveAll .empty requests).1.channels[x.sender]? = some c) :
    c.value = true ↔
      ∃ n, Kin (events requests) h n ∧ (.raise n, .done) ∈ answered requests := by
  obtain ⟨origin, first, -, hm, -, hp⟩ := (logged requests).plays ((get?_senders hx).trans hc)
  obtain rfl := eq_of_made hm
  rw [value_iff_ne_nil hp]
  simp only [← used_mem_events_iff]
  rw [← mem_uses]
  constructor
  · intro hn
    obtain ⟨⟨⟩, hm⟩ := List.exists_mem_of_ne_nil _ hn
    exact hm
  · exact List.ne_nil_of_mem

theorem exists_of_kin (hk : Kin es h n) (hl : Logged Sends es s.senders)
    (hx : s.handles[h]? = some x) : ∃ y, s.handles[n]? = some y ∧ y.sender = x.sender := by
  have hp := hk.holders_eq hl
  rw [getElem?_holders_senders, getElem?_holders_senders, hx] at hp
  exact Option.map_eq_some_iff.mp hp.symm

theorem serve_of_channel (hs : Sound s) (hx : s.handles[n]? = some x)
    (hc : s.channels[x.sender]? = some c) :
    serve s (.isRaised n) = (s, .holds c.value) ∧ serve s (.waitOver n) = (s, .holds c.value) ∧
      (serve s (.raise n)).2 = .done ∧ (serve s (.clone n)).2 = .handle s.handles.length := by
  have hp := (hs.poll (w := ⟨n, .begun⟩) hx hc .begun).2 rfl
  simp [serve, hs.isRaised? hx hc, hx, hp]

/-- What the answers tell of the waits: those begun, and those that a poll has ended. -/
structure Tracked (entries : List (Request × Answer)) (s : Signals) : Prop where
  begun {n w} : (.wait n, .wait w) ∈ entries → ∃ v, s.waits[w]? = some v ∧ v.handle = n
  ended {w} : (.poll w, .holds true) ∈ entries ↔ ∃ v, s.waits[w]? = some v ∧ v.stage.isOver = true

theorem Tracked.keep {entries : List (Request × Answer)} (h : Tracked entries s)
    (hw : s'.waits = s.waits) {r : Request} {a : Answer} (hb : ∀ n, r ≠ .wait n ∨ a = .unknown)
    (hp : ∀ n, r ≠ .poll n ∨ a ≠ .holds true) : Tracked (entries ++ [(r, a)]) s' := by
  constructor
  · intro n w hm
    rw [hw]
    obtain hm | hm := List.mem_append.mp hm
    · exact h.begun hm
    · obtain ⟨rfl, rfl⟩ : .wait n = r ∧ .wait w = a := by simpa using hm
      simpa using hb n
  · intro w
    rw [hw, ← h.ended, List.mem_append]
    refine or_iff_left fun hm => ?_
    obtain ⟨rfl, rfl⟩ : .poll w = r ∧ .holds true = a := by simpa using hm
    simpa using hp w

theorem Tracked.serve_wait {entries : List (Request × Answer)} (h : Tracked entries s) (n : Nat) :
    Tracked (entries ++ [(.wait n, (serve s (.wait n)).2)]) (serve s (.wait n)).1 := by
  rw [serve]
  split
  · constructor
    · intro m w hm
      obtain hm | hm := List.mem_append.mp hm
      · obtain ⟨v, hv, rfl⟩ := h.begun hm
        exact ⟨v, getElem?_concat_eq_some_iff.mpr (.inl hv), rfl⟩
      · obtain ⟨rfl, rfl⟩ : m = n ∧ w = s.waits.length := by simpa using hm
        exact ⟨_, List.getElem?_concat_length, rfl⟩
    · intro w
      have hm : (.poll w, .holds true) ∈ entries ++ [(.wait n, .wait s.waits.length)] ↔
          (.poll w, .holds true) ∈ entries := by simp
      rw [hm, h.ended]
      constructor
      · rintro ⟨v, hv, ho⟩
        exact ⟨v, getElem?_concat_eq_some_iff.mpr (.inl hv), ho⟩
      · rintro ⟨v, hv, ho⟩
        obtain hv | ⟨-, rfl⟩ := getElem?_concat_eq_some_iff.mp hv
        · exact ⟨v, hv, ho⟩
        · cases ho
  · exact h.keep rfl (by simp) (by simp)

theorem Tracked.serve_poll {entries : List (Request × Answer)} (h : Tracked entries s) (n : Nat) :
    Tracked (entries ++ [(.poll n, (serve s (.poll n)).2)]) (serve s (.poll n)).1 := by
  rw [serve]
  split
  · next w hw =>
    split
    · exact h.keep rfl (by simp) (by simp)
    · next ho =>
      have hl := (List.getElem?_eq_some_iff.mp hw).1
      constructor
      · intro m k hm
        obtain ⟨v, hv, rfl⟩ := h.begun (by simpa using hm)
        by_cases hk : n = k
        · subst hk
          obtain rfl : w = v := Option.some.inj (hw.symm.trans hv)
          exact ⟨_, List.getElem?_set_self hl, rfl⟩
        · exact ⟨v, (List.getElem?_set_ne hk).trans hv, rfl⟩
      · intro k
        rw [List.mem_append, h.ended]
        by_cases hk : n = k
        · subst hk
          simp [hw, ho, List.getElem?_set_self hl]
        · simp [List.getElem?_set_ne hk, Ne.symm hk]
  · exact h.keep rfl (by simp) (by simp)

theorem Tracked.serve {entries : List (Request × Answer)} (h : Tracked entries s) (r : Request) :
    Tracked (entries ++ [(r, (serve s r).2)]) (serve s r).1 := by
  cases r with
  | create | isRaised n =>
    refine h.keep ?_ (by simp) (by simp)
    rfl
  | clone n | raise n | waitOver n =>
    refine h.keep ?_ (by simp) (by simp)
    rw [Signal.serve]
    split <;> rfl
  | wait n => exact h.serve_wait n
  | poll n => exact h.serve_poll n

theorem tracked (requests : List Request) :
    Tracked (answered requests) (serveAll .empty requests).1 :=
  serves.keeps (P := fun entries s => Tracked entries s) ⟨nofun, by simp [Signals.empty]⟩
    (fun _ _ r h => h.serve r) requests

theorem serve_poll (hs : Sound s) {w : Nat} {v : Wait} (hv : s.waits[w]? = some v)
    (hx : s.handles[v.handle]? = some x) (hc : s.channels[x.sender]? = some c) :
    if v.stage.isOver then c.value = true ∧ serve s (.poll w) = (s, .unknown)
    else (serve s (.poll w)).2 = .holds c.value := by
  obtain ⟨y, d, hy, hd, hf⟩ := hs.waits v (List.mem_of_getElem? hv)
  obtain rfl : x = y := Option.some.inj (hx.symm.trans hy)
  obtain rfl : c = d := Option.some.inj (hc.symm.trans hd)
  split
  · next ho => exact ⟨hf.value_of_isOver ho, by simp [serve, hv, ho]⟩
  · next ho =>
    have ho : v.stage.isOver = false := by simpa using ho
    simp [serve, hv, ho, (hs.poll hx hc hf).2 ho]

theorem poll_of_answered {w : Nat} (hw : (.wait n, .wait w) ∈ answered requests)
    (hx : (serveAll .empty requests).1.handles[n]? = some x)
    (hc : (serveAll .empty requests).1.channels[x.sender]? = some c) :
    let s := (serveAll .empty requests).1
    ((.poll w, .holds true) ∈ answered requests →
      c.value = true ∧ serve s (.poll w) = (s, .unknown)) ∧
    ((.poll w, .holds true) ∉ answered requests → (serve s (.poll w)).2 = .holds c.value) := by
  obtain ⟨v, hv, rfl⟩ := (tracked requests).begun hw
  have hp := serve_poll (sound requests) hv hx hc
  have ho : (.poll w, .holds true) ∈ answered requests ↔ v.stage.isOver = true := by
    rw [(tracked requests).ended]
    constructor
    · rintro ⟨v', hv', ho⟩
      obtain rfl : v = v' := Option.some.inj (hv.symm.trans hv')
      exact ho
    · exact fun ho => ⟨v, hv, ho⟩
  rw [ho]
  constructor
  · intro ho
    rwa [if_pos ho] at hp
  · intro ho
    rwa [if_neg ho] at hp

theorem serveAll_of_alike (ha : Alike s s') (hs : Sound s) (more : List Request) :
    (serveAll s' more).2 = (serveAll s more).2 := by
  induction more generalizing s s' with
  | nil => rfl
  | cons r more ih =>
    obtain ⟨ha', he⟩ := ha.serve hs r
    simp only [serveAll, he, ih ha' (hs.serve r)]

/-- No request tells whether a raised signal has been raised once more. -/
theorem alike_raise (hx : s.handles[n]? = some x) (hc : s.channels[x.sender]? = some c)
    (hv : c.value = true) : Alike s (serve s (.raise n)).1 := by
  simp only [serve, hx]
  refine ⟨rfl, rfl, by simp, fun k => ?_⟩
  rw [List.getElem?_modify]
  split
  · next hk =>
    obtain ⟨v, m⟩ := c
    obtain rfl : v = true := hv
    rw [← hk, hc]
    exact .again (Nat.le_succ m)
  · simpa using Resent.same _

theorem channel_serve_of_not_kin (hl : Logged Sends es s.senders) (hx : s.handles[h]? = some x)
    (hc : s.channels[x.sender]? = some c) {r : Request}
    (hr : ∀ m, r.handle? = some m → ¬Kin es h m) :
    (serve s r).1.channels[x.sender]? = some c := by
  cases r with
  | create => exact getElem?_concat_eq_some_iff.mpr (.inl hc)
  | raise m =>
    simp only [serve]
    cases hm : s.handles[m]? with
    | none => exact hc
    | some y =>
      have hk := hr m rfl
      have hp : s.senders.holders[h]? = some x.sender := by
        rw [getElem?_holders_senders, hx]
        rfl
      rw [hl.kin_iff hp, getElem?_holders_senders, hm] at hk
      have hne : y.sender ≠ x.sender := by simpa using hk
      simpa [List.getElem?_modify, hne] using hc
  | clone m | waitOver m | wait m =>
    simp only [serve]
    split <;> exact hc
  | isRaised m => exact hc
  | poll m =>
    simp only [serve]
    split
    · split <;> exact hc
    · exact hc

theorem getElem?_handles_serve (hx : s.handles[n]? = some x) (r : Request) :
    (serve s r).1.handles[n]? = some x := by
  cases r with
  | create => exact getElem?_concat_eq_some_iff.mpr (.inl hx)
  | clone m =>
    simp only [serve]
    split
    · exact getElem?_concat_eq_some_iff.mpr (.inl hx)
    · exact hx
  | raise m | waitOver m | wait m =>
    simp only [serve]
    split <;> exact hx
  | isRaised m => exact hx
  | poll m =>
    simp only [serve]
    split
    · split <;> exact hx
    · exact hx

theorem getElem?_handles_serveAll (hx : s.handles[n]? = some x) (more : List Request) :
    (serveAll s more).1.handles[n]? = some x := by
  induction more generalizing s with
  | nil => exact hx
  | cons r more ih => exact ih (getElem?_handles_serve hx r)

theorem answered_subset (requests more : List Request) :
    answered requests ⊆ answered (requests ++ more) := by
  rw [answered, answered, serves.zip_append]
  exact List.subset_append_left _ _

theorem events_subset (requests more : List Request) :
    events requests ⊆ events (requests ++ more) := by
  rw [events, events, answered, answered, serves.zip_append, List.filterMap_append]
  exact List.subset_append_left _ _

theorem exists_raised_append (hx : (serveAll .empty requests).1.handles[h]? = some x)
    (hc : (serveAll .empty requests).1.channels[x.sender]? = some c) (hv : c.value = true)
    (more : List Request) :
    let s' := (serveAll .empty (requests ++ more)).1
    s'.handles[h]? = some x ∧ ∃ c', s'.channels[x.sender]? = some c' ∧ c'.value = true := by
  intro s'
  have hx' : s'.handles[h]? = some x := by
    simp only [s', serves.append]
    exact getElem?_handles_serveAll hx more
  obtain ⟨c', hc'⟩ := (sound (requests ++ more)).exists_watch hx'
  obtain ⟨n, hn, ha⟩ := (value_iff hx hc).mp hv
  exact ⟨hx', c', hc', (value_iff hx' hc').mpr
    ⟨n, hn.mono (events_subset requests more), answered_subset requests more ha⟩⟩

/-- After any requests, all signals of a family are found raised, and new waits for them over with
their first poll, if and only if one of them has been raised, whichever was made first. A wait begun
before is over when it is polled next, if it has not been over already. Raising a signal once more
has no effect on any later answer, a raised signal is so after all later requests too, and what is
requested of other families leaves it as it is. -/
theorem raised_through_family (requests : List Request) {h : Nat}
    (hh : h < (serveAll .empty requests).1.handles.length) :
    let s := (serveAll .empty requests).1
    let es := events requests
    ∃ b, (b = true ↔ ∃ n, Kin es h n ∧ (.raise n, .done) ∈ answered requests) ∧
      (∀ n, Kin es h n →
        serve s (.isRaised n) = (s, .holds b) ∧ serve s (.waitOver n) = (s, .holds b) ∧
          (serve s (.raise n)).2 = .done ∧ (serve s (.clone n)).2 = .handle s.handles.length ∧
          ∀ w, (.wait n, .wait w) ∈ answered requests →
            ((.poll w, .holds true) ∈ answered requests →
              b = true ∧ serve s (.poll w) = (s, .unknown)) ∧
            ((.poll w, .holds true) ∉ answered requests → (serve s (.poll w)).2 = .holds b)) ∧
      (b = true →
        (∀ n, Kin es h n → ∀ more,
          (serveAll (serve s (.raise n)).1 more).2 = (serveAll s more).2) ∧
          ∀ more, let s' := (serveAll .empty (requests ++ more)).1
            serve s' (.isRaised h) = (s', .holds true) ∧
              serve s' (.waitOver h) = (s', .holds true)) ∧
      ∀ r, (∀ n, r.handle? = some n → ¬Kin es h n) → ∀ n, Kin es h n →
        (serve (serve s r).1 (.isRaised n)).2 = .holds b ∧
          (serve (serve s r).1 (.waitOver n)).2 = .holds b := by
  intro s es
  have hs : Sound s := sound requests
  have hl : Logged Sends es s.senders := logged requests
  obtain ⟨x, hx⟩ : ∃ x, s.handles[h]? = some x := ⟨_, List.getElem?_eq_getElem hh⟩
  obtain ⟨c, hc⟩ := hs.exists_watch hx
  have hkin {n : Nat} (hn : Kin es h n) :
      ∃ y, s.handles[n]? = some y ∧ s.channels[y.sender]? = some c := by
    obtain ⟨y, hy, hk⟩ := exists_of_kin hn hl hx
    exact ⟨y, hy, hk ▸ hc⟩
  refine ⟨c.value, value_iff hx hc, fun n hn => ?_, fun hv => ⟨fun n hn more => ?_, fun more => ?_⟩,
    fun r hr n hn => ?_⟩
  · obtain ⟨y, hy, hcy⟩ := hkin hn
    obtain ⟨hraised, hover, hdone, hclone⟩ := serve_of_channel hs hy hcy
    exact ⟨hraised, hover, hdone, hclone, fun w hw => poll_of_answered hw hy hcy⟩
  · obtain ⟨y, hy, hcy⟩ := hkin hn
    exact serveAll_of_alike (alike_raise hy hcy hv) hs more
  · obtain ⟨hx', c', hc', hv'⟩ := exists_raised_append hx hc hv more
    have hserve := serve_of_channel (sound (requests ++ more)) hx' hc'
    rw [hv'] at hserve
    exact ⟨hserve.1, hserve.2.1⟩
  · obtain ⟨y, hy, hcy⟩ := hkin hn
    have hrn (m : Nat) (hm : r.handle? = some m) : ¬Kin es n m := fun hk =>
      hr m hm (hn.trans _ _ _ hk)
    obtain ⟨hraised, hover, -⟩ := serve_of_channel (hs.serve r) (getElem?_handles_serve hy r)
      (channel_serve_of_not_kin hl hy hcy hrn)
    exact ⟨congrArg Prod.snd hraised, congrArg Prod.snd hover⟩

theorem raised_through_family_late :
    let requests := [.create, .clone 0, .wait 1, .poll 0, .create, .raise 1, .clone 0, .clone 2]
    let s := (serveAll .empty requests).1
    3 < s.handles.length ∧ 4 < s.handles.length ∧
      serve s (.isRaised 3) = (s, .holds true) ∧ serve s (.waitOver 0) = (s, .holds true) ∧
      (serve s (.poll 0)).2 = .holds true ∧
      (∀ more, (serveAll (serve s (.raise 3)).1 more).2 = (serveAll s more).2) ∧
      serve s (.isRaised 4) = (s, .holds false) ∧
      (serve (serve s (.raise 4)).1 (.isRaised 2)).2 = .holds true ∧
      (serve (serve s (.raise 4)).1 (.waitOver 0)).2 = .holds true := by
  intro requests s
  have hl : Logged Sends (events requests) s.senders := logged requests
  have hfirst (n : Nat) : Kin (events requests) 3 n ↔ s.senders.holders[n]? = some 0 :=
    hl.kin_iff rfl
  have hsecond (n : Nat) : Kin (events requests) 4 n ↔ s.senders.holders[n]? = some 1 :=
    hl.kin_iff rfl
  have h3 : 3 < s.handles.length := by decide
  have h4 : 4 < s.handles.length := by decide
  obtain ⟨b, hb, hasked, hup, hother⟩ := raised_through_family requests h3
  obtain rfl : b = true := hb.mpr ⟨1, (hfirst 1).mpr rfl, by decide⟩
  obtain ⟨c, hc, hasked', -⟩ := raised_through_family requests h4
  obtain rfl : c = false := by
    rw [← Bool.not_eq_true, hc]
    rintro ⟨n, hk, ha⟩
    obtain ⟨rfl, -⟩ : n = 1 ∧ _ := by simpa [answered, requests, serveAll] using ha
    exact absurd ((hsecond 1).mp hk) (by decide)
  have hwait := (hasked 1 ((hfirst 1).mpr rfl)).2.2.2.2 0 (by decide)
  refine ⟨h3, h4, (hasked 3 (.refl 3)).1, (hasked 0 ((hfirst 0).mpr rfl)).2.1, hwait.2 (by decide),
    (hup rfl).1 3 (.refl 3), (hasked' 4 (.refl 4)).1, rfl, (hother (.raise 4) ?_ 0 ?_).2⟩
  · intro n hn
    obtain rfl := Option.some.inj hn
    rw [hfirst]
    decide
  · exact (hfirst 0).mpr rfl

end CommentBlocks.Signal
