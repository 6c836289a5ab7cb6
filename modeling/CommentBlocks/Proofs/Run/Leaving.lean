import CommentBlocks.Proofs.Run.Liveness

namespace CommentBlocks

theorem Job.pairwise_blocks (t : Tools) (job : Job) :
    (job.blocks t).Pairwise (·.line < ·.line) := by
  unfold Job.blocks Outcome.blocks
  split
  · next e _ => exact List.pairwise_map.mpr e.blocks.ascending
  · exact .nil

namespace Run

variable {limits : Limits} {d : Disk} {ls : Languages} {inputs : List (Option Selection)}
  {plans : List Plan} {groups : List (List Job)} {job : Job} {t : Tools} {r₀ r s : Run}

/-- What the first `n` calls for a block have been answered with, as far as they have been answered.
Behind the last block the answer to every call is that there are no more. -/
def answers (r : Run) (n : Nat) : List (Option Block) :=
  (r.received.reverse.map some ++ if r.ended then List.replicate n none else []).take n

theorem received_of_single (hs : Steps t (start limits groups) r) (hg : groups.flatten = [job])
    (hr : r.isRaised = false) :
    r.received.reverse <+: job.blocks t ∧
      (r.ended = true → r.received.reverse = job.blocks t) := by
  obtain ⟨log, hl⟩ := exists_logged_iff.mpr hs
  have hd := hl.delivered
  have ho : InOrder groups r := hs.keeps (.start limits groups) InOrder.move
  have hprefix : r.dispatched <+: [job] := hg ▸ ho.isPrefix
  have hone : log.map (·.2) = partOf 0 log := by
    apply map_snd_eq_partOf
    intro k hk
    have hn : r.dispatched[k]? = none := by
      have := hprefix.length_le
      rw [List.length_singleton] at this
      exact List.getElem?_eq_none_iff.mpr (by omega)
    have := hd.partOf_isPrefix k
    rw [hn] at this
    exact List.prefix_nil.mp this
  constructor
  · have hsent := hd.partOf_isPrefix 0
    refine (hone ▸ hd.received).trans (hsent.trans ?_)
    cases hj : r.dispatched with
    | nil => exact List.nil_prefix
    | cons j js =>
      obtain ⟨rfl, -⟩ := List.cons_prefix_cons.mp (hj ▸ hprefix)
      exact List.prefix_rfl
  · intro he
    obtain ⟨hlog, hsent⟩ := hd.of_ended he
    rw [← hlog, hone, hsent 0, ho.dispatched_eq (hd.orderly.ended he).1 hr, hg]
    rfl

theorem answers_isPrefix {blocks : List Block} (h : r.received.reverse <+: blocks)
    (he : r.ended = true → r.received.reverse = blocks) (n : Nat) :
    r.answers n <+: blocks.map some ++ List.replicate n none := by
  unfold answers
  cases hr : r.ended with
  | true =>
    rw [he hr, if_pos rfl]
    exact List.take_prefix _ _
  | false =>
    rw [if_neg Bool.false_ne_true, List.append_nil]
    exact (List.take_prefix _ _).trans ((h.map some).trans (List.prefix_append _ _))

theorem answers_eq {blocks : List Block} {n : Nat} (h : r.received.reverse <+: blocks)
    (he : r.ended = true → r.received.reverse = blocks)
    (hn : r.ended = true ∨ n ≤ r.received.length) :
    r.answers n = (blocks.map some ++ List.replicate n none).take n := by
  have hlen : (r.answers n).length = n := by
    unfold answers
    rw [List.length_take, List.length_append, List.length_map, List.length_reverse]
    obtain hr | hr := hn
    · rw [if_pos hr, List.length_replicate]
      omega
    · omega
  have hp := List.prefix_iff_eq_take.mp (answers_isPrefix h he n)
  rw [hlen] at hp
  exact hp

theorem settle_left (t : Tools) (r : Run) :
    Steps t r ((r.play t [.leave]).settle t false) ∧
      ((r.play t [.leave]).settle t false).signals = r.signals ∧
      ((r.play t [.leave]).settle t false).received = r.received ∧
      ((r.play t [.leave]).settle t false).ended = r.ended := by
  obtain ⟨-, hr, hb⟩ := frame_settle t false (r.play t [.leave])
  obtain ⟨hb, he⟩ := hb rfl
  have hl : (r.play t [.leave]).signals = r.signals ∧ (r.play t [.leave]).received = r.received ∧
      (r.play t [.leave]).ended = r.ended := by
    cases ho : r.commons.isOpen <;> simp [play, fire?, ho]
  exact ⟨(steps_play t [.leave] r).trans (steps_settle t false _), hr.trans hl.1,
    hb.trans hl.2.1, he.trans hl.2.2⟩

theorem answered_of_receive? (h : r.receive? = some s) :
    if s.ended then s.received = r.received
    else s.received.length = r.received.length + 1 := by
  rw [receive?] at h
  split at h
  · cases h
  · next hc =>
    obtain ⟨-, he⟩ := by simpa using hc
    split at h
    · cases h
      simp [he]
    · split at h
      · cases h
        simp
      · cases h

/-- Of `n` calls for a block each one is answered with a block, or the last answer is that there are
no more. -/
theorem receiveUpTo_spec (hp : Supplied limits r) (ho : r.commons.isOpen = true)
    (he : r.ended = false) (n : Nat) :
    Steps t r (r.receiveUpTo t n) ∧ (r.receiveUpTo t n).signals = r.signals ∧
      if (r.receiveUpTo t n).ended then
        (r.receiveUpTo t n).received.length < r.received.length + n
      else (r.receiveUpTo t n).received.length = r.received.length + n := by
  fun_induction receiveUpTo t r n with
  | case1 r =>
    obtain ⟨hs, hr, hb, hf⟩ := settle_left t r
    exact ⟨hs, hr, by simp [hb, hf, he]⟩
  | case2 r n r' hr hended =>
    obtain ⟨hs, hsig, hb, hf⟩ := settle_left t r'
    obtain ⟨-, hsig', -⟩ := frame_fire? (t := t) (e := .receive) hr
    have ha := answered_of_receive? hr
    rw [if_pos hended] at ha
    refine ⟨(Step.steps ⟨.receive, hr⟩).trans hs, hsig.trans (hsig' nofun), ?_⟩
    rw [hf, if_pos hended, hb, ha]
    omega
  | case3 r n r' hr hended ih =>
    obtain ⟨hopen, hsig, -⟩ := frame_fire? (t := t) (e := .receive) hr
    have ha := answered_of_receive? hr
    rw [if_neg hended] at ha
    obtain ⟨hs, hsig', hn⟩ := ih (hp.move (move_of_receive? t hr)) ((hopen nofun).trans ho)
      (by simpa using hended)
    refine ⟨(Step.steps ⟨.receive, hr⟩).trans hs, hsig'.trans (hsig nofun), ?_⟩
    rw [ha, Nat.add_right_comm, Nat.add_assoc] at hn
    exact hn
  | case4 r n hr r' hn ih =>
    obtain ⟨e, -, -, -, hfire⟩ := fire?_of_next? hn
    obtain ⟨hopen, hsig, hb⟩ := frame_next? hn
    obtain ⟨hb, hf⟩ := hb rfl
    obtain ⟨hs, hsig', hc⟩ := ih (hp.move (move_of_fire? hfire)) (hopen.trans ho) (hf.trans he)
    rw [hb] at hc
    exact ⟨(Step.steps ⟨e, hfire⟩).trans hs, hsig'.trans hsig, hc⟩
  | case5 r n hr hn =>
    have hrest : AtRest t r := by
      apply atRest_of_next?
      simpa [next?, hr] using hn
    simp [hrest.ended hp ho] at he

/-- A run whose signal is not raised works on all files and reports the same issues as one whose
stream is drained, at whichever moment somebody leaves. It can always be brought to its end, and
comes to it after so many steps. What has been received of a file is a first part of its blocks, in
the order of their lines. With a single file the calls for a block are answered with its blocks one
after another, and behind the last one with the end of the stream. -/
theorem leaving_loses_blocks_only (hv : Plan.ofInputs d ls inputs = .ok plans)
    (h₀ : ofInputs limits d ls inputs = .ok r₀) (hs : Steps t r₀ r)
    (hr : r.isRaised = false) :
    ∃ outcome blocks issues, t.Gives outcome blocks issues ∧
      (∃ s, Steps t r₀ s ∧ s.isRaised = false ∧ s.ended = true) ∧
      (r.dispatcher = .returned →
        (r.commons.issues : Multiset Issue) =
          ((plans.flatMap Plan.jobs).map fun j => (issues j : Multiset Issue)).sum ∧
        ∀ s, Steps t r₀ s → s.isRaised = false → s.ended = true →
          (r.commons.issues : Multiset Issue) = s.commons.issues) ∧
      (∃ s, Steps t r s ∧ s.isRaised = false ∧ AtRest t s) ∧
      (∀ (f : Nat → Run) n, f 0 = r → (∀ k < n, Step t (f k) (f (k + 1))) → n ≤ r.weight t) ∧
      (AtRest t r → r.dispatcher = .returned ∧ r.dispatched = plans.flatMap Plan.jobs ∧
        ∀ w ∈ r.workers, w.2.isOver = true) ∧
      ((∃ log, Logged t r₀ log r) ∧ ∀ log, Logged t r₀ log r →
        (log.take r.received.length).map (·.2) = r.received.reverse ∧
        ∀ i, partOf i (log.take r.received.length) <+:
            r.dispatched[i]?.elim [] blocks ∧
          (partOf i (log.take r.received.length)).Pairwise (·.line < ·.line)) ∧
      ∀ job, plans.flatMap Plan.jobs = [job] →
        (blocks job).Pairwise (·.line < ·.line) ∧
        ∀ n, r.answers n <+: (blocks job).map some ++ List.replicate n none ∧
          (AtRest t r → r.commons.isOpen = true →
            r.answers n = ((blocks job).map some ++ List.replicate n none).take n) ∧
          (r₀.receiveUpTo t n).answers n =
            ((blocks job).map some ++ List.replicate n none).take n := by
  obtain rfl := eq_start_of_ofInputs hv h₀
  have hp₀ : Supplied limits (start limits (plans.map Plan.jobs)) := .start limits _
  have hp : Supplied limits r := hs.keeps (.start limits _) Supplied.move
  have ho : Orderly r := hs.keeps (.start limits _) Orderly.move
  have hin : InOrder (plans.map Plan.jobs) r := hs.keeps (.start limits _) InOrder.move
  have hc : r.commons.Shut := hs.keeps (P := fun r => r.commons.Shut) (fun _ => rfl) shut_move
  rw [List.flatMap_def]
  refine ⟨_, _, _, t.gives, ⟨_, steps_settle t true _, ?_, ended_drained hp₀ rfl⟩,
    fun hd => ⟨issues_of_uncut hs hd hr, fun s hs' hr' he => ?_⟩,
    ⟨_, steps_settle t true r, ?_, atRest_of_next? (next?_settle t true r)⟩,
    fun f n => le_weight, fun ha => ?_, ⟨exists_logged_iff.mpr hs, fun log hl => ?_⟩,
    fun job hg => ⟨job.pairwise_blocks t, fun n => ?_⟩⟩
  · exact isRaised_congr (frame_settle t true _).2.1
  · have ho' : Orderly s := hs'.keeps (.start limits _) Orderly.move
    rw [issues_of_uncut hs hd hr, issues_of_uncut hs' (ho'.ended he).1 hr']
  · rw [isRaised_congr (frame_settle t true r).2.1, hr]
  · obtain ⟨hd, hover⟩ := ha.returned hp ho hc
    exact ⟨hd, hin.dispatched_eq hd hr, hover⟩
  · refine ⟨hl.delivered.received_eq, fun i => ?_⟩
    have hpre := (partOf_take_isPrefix i r.received.length log).trans
      (hl.delivered.partOf_isPrefix i)
    refine ⟨hpre, .sublist hpre.sublist ?_⟩
    cases r.dispatched[i]? with
    | none => exact .nil
    | some job => exact job.pairwise_blocks t
  · obtain ⟨hpre, hall⟩ := received_of_single hs hg hr
    refine ⟨answers_isPrefix hpre hall n,
      fun ha hopen => answers_eq hpre hall (.inl (ha.ended hp hopen)), ?_⟩
    obtain ⟨hu, hsig, hcount⟩ := receiveUpTo_spec (t := t) hp₀ rfl rfl n
    obtain ⟨hpre, hall⟩ := received_of_single hu hg (isRaised_congr hsig)
    apply answers_eq hpre hall
    split at hcount
    · exact .inl ‹_›
    · exact .inr (by simp [hcount])

def sampleLeft : List Event :=
  List.flatten [sampleFull, [.receive, .leave, .work 0], List.replicate 2 (.work 1),
    List.replicate 5 (.work 2), List.replicate 4 .dispatch]

def singlePlans : List Plan := [⟨["a"], none, sampleLanguage⟩]

def singleStart : Run := start ⟨0, 0⟩ (singlePlans.map Plan.jobs)

theorem ofInputs_single :
    Plan.ofInputs sampleDisk ⟨[sampleLanguage]⟩ [some ⟨["a"], "go", none, false, []⟩] =
      .ok singlePlans := by
  simp [Plan.ofInputs, Plan.ofInputsFrom, Plan.ofInput, Plan.ofSelection, Plan.charset?,
    language?_sample, Selection.candidates, entryFiles_sample, Selection.firstSpellings,
    Except.map, Except.mapError, singlePlans]

theorem ofInputs_singleStart :
    ofInputs ⟨0, 0⟩ sampleDisk ⟨[sampleLanguage]⟩ [some ⟨["a"], "go", none, false, []⟩] =
      .ok singleStart := by
  rw [ofInputs, ofInputs_single]
  rfl

theorem leaving_loses_blocks_only_sample :
    (sampleRun sampleLeft).received = [⟨"a", 1, [65]⟩] ∧ (sampleRun sampleLeft).ended = false ∧
      ((sampleRun sampleLeft).commons.issues : Multiset Issue) =
        ([⟨"b", "", 0, .breakdown "b broke"⟩, ⟨"c", "", 0, .io (.plain .notFound)⟩] :
          List Issue) ∧
      ((sampleRun sampleLeft).commons.issues : Multiset Issue) =
        (sampleRun sampleEvents).commons.issues ∧
      (singleStart.receiveUpTo sampleTools 4).answers 4 =
        [some ⟨"a", 1, [65]⟩, some ⟨"a", 3, [66]⟩, none, none] := by
  have hb : (sampleRun sampleLeft).received = [⟨"a", 1, [65]⟩] := by decide +kernel
  have hf : (sampleRun sampleLeft).ended = false := by decide +kernel
  have hd : (sampleRun sampleLeft).dispatcher = .returned := by decide +kernel
  have hr : (sampleRun sampleLeft).isRaised = false := by decide +kernel
  have hr' : (sampleRun sampleEvents).isRaised = false := by decide +kernel
  have he : (sampleRun sampleEvents).ended = true := by decide +kernel
  obtain ⟨_, _, _, hg, -, hissues, -⟩ :=
    leaving_loses_blocks_only ofInputs_sample ofInputs_sampleStart (steps_sample _) hr
  obtain ⟨_, _, _, hg₁, -, -, -, -, -, -, hsingle⟩ :=
    leaving_loses_blocks_only (t := sampleTools) ofInputs_single ofInputs_singleStart (.refl _) rfl
  obtain ⟨-, rfl, rfl⟩ := hg.eq
  obtain ⟨-, rfl, rfl⟩ := hg₁.eq
  obtain ⟨hissues, hsame⟩ := hissues hd
  refine ⟨hb, hf, ?_, hsame _ (steps_sample sampleEvents) hr' he, ?_⟩
  · rw [hissues]
    decide +kernel
  · rw [((hsingle _ rfl).2 4).2.2]
    decide +kernel

end Run

end CommentBlocks
