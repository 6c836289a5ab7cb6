import CommentBlocks.Proofs.Run.Progress
import CommentBlocks.Run.Play

namespace CommentBlocks.Run

variable {t : Tools} {limits : Limits} {r s u : Run}

theorem Steps.trans (h : Steps t r s) (h' : Steps t s u) : Steps t r u := by
  induction h' with
  | refl => exact h
  | tail _ hs ih => exact .tail ih hs

theorem Step.steps (h : Step t r s) : Steps t r s := .tail (.refl r) h

theorem steps_play (t : Tools) (events : List Event) (r : Run) : Steps t r (r.play t events) := by
  induction events generalizing r with
  | nil => exact .refl r
  | cons e events ih =>
    have h := ih ((r.fire? t e).getD r)
    cases he : r.fire? t e with
    | none =>
      rw [he] at h
      simpa [play, he] using h
    | some s =>
      rw [he] at h
      simpa [play, he] using Steps.trans (Step.steps ⟨e, he⟩) h

theorem fire?_of_workAmong? {n : Nat} (h : r.workAmong? t n = some s) :
    ∃ i, r.fire? t (.work i) = some s := by
  induction n with
  | zero => cases h
  | succ n ih =>
    obtain h | ⟨-, h⟩ := Option.or_eq_some_iff.mp h
    · exact ⟨n, h⟩
    · exact ih h

theorem fire?_of_next? {listening : Bool} (h : r.next? t listening = some s) :
    ∃ e, e ≠ .leave ∧ (∀ requests, e ≠ .raise requests) ∧ (listening = false → e ≠ .receive) ∧
      r.fire? t e = some s := by
  obtain h | ⟨-, h⟩ := Option.or_eq_some_iff.mp h
  · cases listening with
    | true => exact ⟨.receive, nofun, nofun, nofun, h⟩
    | false => cases h
  · obtain h | ⟨-, h⟩ := Option.or_eq_some_iff.mp h
    · exact ⟨.work (r.workers.length - 1), nofun, nofun, nofun, h⟩
    · obtain h | ⟨-, h⟩ := Option.or_eq_some_iff.mp h
      · exact ⟨.dispatch, nofun, nofun, nofun, h⟩
      · obtain ⟨i, h⟩ := fire?_of_workAmong? h
        exact ⟨.work i, nofun, nofun, nofun, h⟩

theorem steps_settle (t : Tools) (listening : Bool) (r : Run) :
    Steps t r (r.settle t listening) := by
  fun_induction settle t listening r with
  | case1 => exact .refl _
  | case2 r s hs ih =>
    obtain ⟨e, -, -, -, he⟩ := fire?_of_next? hs
    exact (Step.steps ⟨e, he⟩).trans ih

theorem next?_settle (t : Tools) (listening : Bool) (r : Run) :
    (r.settle t listening).next? t listening = none := by
  fun_induction settle t listening r with
  | case1 r h => exact h
  | case2 r s hs ih => exact ih

theorem work?_eq_none_of_workAmong? {n i : Nat} (h : r.workAmong? t n = none) (hi : i < n) :
    r.work? t i = none := by
  induction n with
  | zero => omega
  | succ n ih =>
    obtain ⟨hw, hn⟩ := Option.or_eq_none_iff.mp h
    obtain hi | rfl := Nat.lt_succ_iff_lt_or_eq.mp hi
    · exact ih hn hi
    · exact hw

theorem atRest_of_next? (h : r.next? t true = none) : AtRest t r := by
  obtain ⟨hr, h⟩ := Option.or_eq_none_iff.mp h
  obtain ⟨-, h⟩ := Option.or_eq_none_iff.mp h
  obtain ⟨hd, hw⟩ := Option.or_eq_none_iff.mp h
  refine ⟨hd, fun i => ?_, by simpa using hr⟩
  by_cases hi : i < r.workers.length
  · exact work?_eq_none_of_workAmong? hw hi
  · simp [work?, List.getElem?_eq_none_iff.mpr (Nat.le_of_not_lt hi)]

/-- Nobody leaves or raises the signal unless he is said to, and only who listens is given blocks
or the end of the stream. -/
theorem frame_fire? {e : Event} (h : r.fire? t e = some s) :
    (e ≠ .leave → s.commons.isOpen = r.commons.isOpen) ∧
      ((∀ requests, e ≠ .raise requests) → s.signals = r.signals) ∧
      (e ≠ .receive → s.received = r.received ∧ s.ended = r.ended) := by
  cases e with
  | dispatch =>
    cases dispatches_of_dispatch? h with
    | turn | handOut | join | joinBroken | allJoined =>
      exact ⟨fun _ => rfl, fun _ => rfl, fun _ => ⟨rfl, rfl⟩⟩
  | work i =>
    obtain ⟨_, _, _, _, -, hp, rfl⟩ := advance_of_work? h
    exact ⟨fun _ => hp.isOpen, fun _ => rfl, fun _ => ⟨rfl, rfl⟩⟩
  | receive =>
    simp only [fire?, receive?] at h
    repeat' split at h
    all_goals cases h
    all_goals exact ⟨fun _ => rfl, fun _ => rfl, fun hn => absurd rfl hn⟩
  | leave =>
    obtain ⟨-, rfl⟩ := by simpa [fire?] using h
    exact ⟨fun hn => absurd rfl hn, fun _ => rfl, fun _ => ⟨rfl, rfl⟩⟩
  | raise requests =>
    obtain ⟨-, rfl⟩ := by simpa [fire?] using h
    exact ⟨fun _ => rfl, fun hn => absurd rfl (hn requests), fun _ => ⟨rfl, rfl⟩⟩

theorem frame_next? {listening : Bool} (h : r.next? t listening = some s) :
    s.commons.isOpen = r.commons.isOpen ∧ s.signals = r.signals ∧
      (listening = false → s.received = r.received ∧ s.ended = r.ended) := by
  obtain ⟨e, hl, hr, hn, he⟩ := fire?_of_next? h
  obtain ⟨ho, hs, hb⟩ := frame_fire? he
  exact ⟨ho hl, hs hr, fun hf => hb (hn hf)⟩

theorem frame_settle (t : Tools) (listening : Bool) (r : Run) :
    (r.settle t listening).commons.isOpen = r.commons.isOpen ∧
      (r.settle t listening).signals = r.signals ∧
      (listening = false → (r.settle t listening).received = r.received ∧
        (r.settle t listening).ended = r.ended) := by
  fun_induction settle t listening r with
  | case1 => exact ⟨rfl, rfl, fun _ => ⟨rfl, rfl⟩⟩
  | case2 r s hs ih =>
    obtain ⟨ho, hr, hb⟩ := frame_next? hs
    obtain ⟨ho', hr', hb'⟩ := ih
    exact ⟨ho'.trans ho, hr'.trans hr, fun hf =>
      ⟨(hb' hf).1.trans (hb hf).1, (hb' hf).2.trans (hb hf).2⟩⟩

theorem ended_drained (h : Supplied limits r) (ho : r.commons.isOpen = true) :
    (r.drained t).ended = true := by
  have hr : AtRest t (r.drained t) := atRest_of_next? (next?_settle t true r)
  have hs : Supplied limits (r.drained t) := (steps_settle t true r).keeps h Supplied.move
  exact hr.ended hs ((frame_settle t true r).1.trans ho)

end CommentBlocks.Run
