import CommentBlocks.Proofs.Run.Delivery
import CommentBlocks.Proofs.Run.Ending

namespace CommentBlocks.Run

variable {t : Tools} {limits : Limits} {groups : List (List Job)} {r s s' : Run}

def senders (r : Run) : Nat :=
  (match r.dispatcher with
    | .returned => 0
    | _ => 1) + r.workers.countP fun w => !w.2.isOver

theorem isSilent_iff : r.isSilent = true ↔ r.senders = 0 := by
  cases hd : r.dispatcher <;> simp [isSilent, senders, hd]

def BrokenByReader (t : Tools) (r : Run) : Prop :=
  ∀ job text, (job, .broken text) ∈ r.workers →
    t.reader job.path = .broke ∧ text = t.breakdown job.path

theorem BrokenByReader.start (limits : Limits) (groups : List (List Job)) :
    BrokenByReader t (start limits groups) := by
  intro job text hw
  simp [Run.start] at hw

theorem BrokenByReader.move (h : BrokenByReader t r) (hm : Move t r s) : BrokenByReader t s := by
  intro job text hw
  cases hm with
  | dispatch hd =>
    cases hd with
    | handOut =>
      obtain hw | hw := List.mem_append.mp hw
      · exact h job text hw
      · simp at hw
    | turn | join | joinBroken | allJoined => exact h job text hw
  | work _ hp =>
    obtain hw | hw := List.mem_or_eq_of_mem_set hw
    · exact h job text hw
    · obtain ⟨rfl, rfl⟩ := by simpa using hw
      cases hp with
      | readBroke hr => exact ⟨hr, rfl⟩
  | receive | finish | leave | raise => exact h job text hw

/-- Nothing of what a run has given has changed since the end of its stream. -/
structure Final (r s : Run) : Prop where
  ended : s.ended = true
  dispatcher : s.dispatcher = .returned
  workers : s.workers = r.workers
  stream : s.commons.stream = []
  received : s.received = r.received
  issues : s.commons.issues = r.commons.issues

theorem Final.move (ho : ∀ w ∈ r.workers, w.2.isOver = true) (h : Final r s) (hm : Move t s s') :
    Final r s' := by
  obtain ⟨he, hd, hw, hs, hb, hi⟩ := h
  cases hm with
  | dispatch hn =>
    cases hn with
    | turn hn =>
      rw [hd] at hn
      cases hn with
      | stop hl => cases hl
    | handOut hn | join hn | joinBroken hn | allJoined hn => simp [hd] at hn
  | work hn hp =>
    have := ho _ (hw ▸ List.mem_of_getElem? hn)
    simp [hp.isOver] at this
  | receive _ hn | finish _ hn => simp [he] at hn
  | leave => exact ⟨he, hd, hw, rfl, hb, hi⟩
  | raise => exact ⟨he, hd, hw, hs, hb, hi⟩

/-- Whoever has seen the end of the stream has received all that the files handed out come to, the
blocks of each file in their order, and all issues have been reported, also those of workers that
broke down. Nobody is left who could send or report, and nothing more is received or reported. -/
theorem nothing_behind_end (hs : Steps t (start limits groups) r) (he : r.ended = true) :
    ∃ outcome blocks issues, t.Gives outcome blocks issues ∧
      r.senders = 0 ∧ (∀ w ∈ r.workers, w.2.isOver = true) ∧
      ((∃ log, Logged t (start limits groups) log r) ∧
        ∀ log, Logged t (start limits groups) log r → log.map (·.2) = r.received.reverse ∧
          ∀ i, partOf i log = r.dispatched[i]?.elim [] blocks) ∧
      (r.received : Multiset Block) =
        (r.dispatched.map fun j => (blocks j : Multiset Block)).sum ∧
      (r.commons.issues : Multiset Issue) =
        (r.dispatched.map fun j => (issues j : Multiset Issue)).sum ∧
      (∀ job text, (job, .broken text) ∈ r.workers →
        outcome job = .readerBroke text ∧
          ⟨job.path, "", 0, .breakdown text⟩ ∈ r.commons.issues) ∧
      ∀ s, Steps t r s →
        s.workers = r.workers ∧ s.commons.stream = [] ∧ s.received = r.received ∧
          s.commons.issues = r.commons.issues ∧ s.ended = true := by
  have hb : Balanced t r := .steps hs (.start limits groups)
  have hbroken : BrokenByReader t r := hs.keeps (.start limits groups) BrokenByReader.move
  have hd := (hb.orderly.ended he).1
  have hover : ∀ w ∈ r.workers, w.2.isOver = true := fun w hw =>
    hb.orderly.over_of_returned hd hw
  obtain ⟨hblocks, hissues⟩ := hb.given he
  refine ⟨_, _, _, t.gives, isSilent_iff.mp (isSilent_of_over hd hover), hover,
    ⟨exists_logged_iff.mpr hs, fun log hl => hl.delivered.of_ended he⟩, hblocks, hissues,
    fun job text hw => ?_, fun s hs' => ?_⟩
  · obtain ⟨hr, rfl⟩ := hbroken job text hw
    have hc : job.ComesTo t _ _ _ := .readerBroke hr
    refine ⟨hc.eq.1.symm, ?_⟩
    rw [← Multiset.mem_coe, (hb.of_ended he).2]
    refine (mem_tally _).mpr ⟨_, hw, ?_⟩
    rw [← hc.eq.2.2]
    exact List.mem_singleton_self _
  · have hf : Final r s :=
      hs'.keeps ⟨he, hd, rfl, (hb.orderly.ended he).2, rfl, rfl⟩ (Final.move hover)
    exact ⟨hf.workers, hf.stream, hf.received, hf.issues, hf.ended⟩

theorem nothing_behind_end_sample :
    (sampleRun sampleEvents).ended = true ∧ (sampleRun sampleEvents).senders = 0 ∧
      ((sampleRun sampleEvents).received : Multiset Block) =
        ([⟨"a", 1, [65]⟩, ⟨"a", 3, [66]⟩] : List Block) ∧
      ((sampleRun sampleEvents).commons.issues : Multiset Issue) =
        ([⟨"b", "", 0, .breakdown "b broke"⟩, ⟨"c", "", 0, .io (.plain .notFound)⟩] :
          List Issue) ∧
      ⟨"b", "", 0, .breakdown "b broke"⟩ ∈ (sampleRun sampleEvents).commons.issues := by
  have he : (sampleRun sampleEvents).ended = true := by decide +kernel
  have hw : (sampleRun sampleEvents).workers[1]? =
      some (⟨⟨["a", "b"], none, sampleLanguage⟩, "b"⟩, .broken "b broke") := by decide +kernel
  have hd : (sampleRun sampleEvents).dispatched = samplePlans.flatMap Plan.jobs := by decide +kernel
  obtain ⟨_, _, _, hg, hsenders, -, -, hblocks, hissues, hbroken, -⟩ :=
    nothing_behind_end (steps_sample sampleEvents) he
  obtain ⟨-, rfl, rfl⟩ := hg.eq
  refine ⟨he, hsenders, ?_, ?_, (hbroken _ _ (List.mem_of_getElem? hw)).2⟩
  · rw [hblocks, hd]
    decide +kernel
  · rw [hissues, hd]
    decide +kernel

end CommentBlocks.Run
