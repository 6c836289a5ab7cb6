import CommentBlocks.Proofs.Run.Liveness
import CommentBlocks.Proofs.Worker.Alone

namespace CommentBlocks

inductive Commons.Listens (c : Commons) : Commons → Prop
  | receive {b bs} (ho : c.isOpen = true) (hs : c.stream = b :: bs) :
    Listens c { c with stream := bs }
  | close (ho : c.isOpen = true) : Listens c c.close

inductive Phase.Goes (t : Tools) (job : Job) (c₀ : Commons) (p₀ : Phase) :
    List Block → Commons → Phase → Prop
  | start : Goes t job c₀ p₀ [] c₀ p₀
  | step {bs c p c' p'} (h : Goes t job c₀ p₀ bs c p) (hs : p.step? t job c = some (c', p')) :
    Goes t job c₀ p₀ (bs ++ p.sends c) c' p'
  | listen {bs c p c'} (h : Goes t job c₀ p₀ bs c p) (hl : c.Listens c') :
    Goes t job c₀ p₀ bs c' p

/-- The work on one file of a session: whether somebody listened when it began and when it ended,
the blocks sent and the issues reported, and the phase in which it ended. -/
structure Call where
  job : Job
  openBefore : Bool
  openAfter : Bool
  blocks : List Block
  issues : List Issue
  ending : Phase

/-- Files are worked on one after another, each to its end. -/
inductive Session (t : Tools) (c₀ : Commons) : List Call → Commons → Prop
  | start : Session t c₀ [] c₀
  | listen {calls c c'} (h : Session t c₀ calls c) (hl : c.Listens c') : Session t c₀ calls c'
  | call {calls c job bs c' p is} (h : Session t c₀ calls c)
    (hg : Phase.waiting.Goes t job c bs c' p) (hp : p.isOver = true)
    (hi : c'.issues = c.issues ++ is) :
    Session t c₀ (calls ++ [⟨job, c.isOpen, c'.isOpen, bs, is, p⟩]) c'

variable {t : Tools} {job : Job} {c₀ c c' : Commons} {p₀ p p' : Phase} {bs : List Block}
  {calls : List Call}

namespace Commons

theorem Listens.frame (h : c.Listens c') :
    c.isOpen = true ∧ c'.free = c.free ∧ c'.capacity = c.capacity ∧ c'.issues = c.issues ∧
      c'.Shut := by
  cases h with
  | receive ho => exact ⟨ho, rfl, rfl, rfl, fun hc => absurd ho (by simp_all)⟩
  | close ho => exact ⟨ho, rfl, rfl, rfl, fun _ => rfl⟩

end Commons

namespace Phase

/-- What the outcome of its file says of the phase that a worker is in. -/
def Agrees (t : Tools) (job : Job) : Phase → Prop
  | waiting | reading => True
  | extracting b => t.reader job.path = .data b
  | reporting _ _ | sending _ | done => (job.outcome t).ending = .done
  | broken text => (job.outcome t).ending = .broken text

theorem Advance.agrees (h : p.Advance t job c c' p') (hp : p.Agrees t job) : p'.Agrees t job := by
  cases h with
  | start => trivial
  | readFailed hr | readBroke hr =>
    simp only [Agrees, handOver, Job.outcome, Outcome.of, hr]
    rfl
  | read hr => exact hr
  | extract =>
    have hr : t.reader job.path = _ := hp
    simp only [Agrees, handOver, Job.outcome, Outcome.of, hr, Outcome.ofData]
    split
    · rfl
    · split <;> rfl
  | report | reported | send | giveUp | finish => exact hp

theorem Agrees.of_isOver (h : p.Agrees t job) (hp : p.isOver = true) :
    p = (job.outcome t).ending ∧ p.issuesLeft t job = p.leftOver job.path := by
  cases p with
  | done | broken => exact ⟨h.symm, rfl⟩
  | waiting | reading | extracting | reporting | sending => cases hp

/-- What holds all along the work on a file: nobody begins to listen, a permit taken is held, and
the blocks sent and the issues reported are the first of those that were left. No block is missing
unless the worker gave up. -/
structure Kept (t : Tools) (job : Job) (c₀ : Commons) (p₀ : Phase) (bs : List Block) (c : Commons)
    (p : Phase) : Prop where
  closed : c₀.isOpen = false → c.isOpen = false ∧ bs = []
  free : c.free + p.holdsPermit.toNat = c₀.free + p₀.holdsPermit.toNat
  capacity : c.capacity = c₀.capacity
  issues : c.issues ++ p.issuesLeft t job = c₀.issues ++ p₀.issuesLeft t job
  sent : bs <+: p₀.blocksLeft t job
  left : c.isOpen = true ∨ p.isOver = false → bs ++ p.blocksLeft t job = p₀.blocksLeft t job
  agrees : p₀.Agrees t job → p.Agrees t job
  shut : c₀.Shut → c.Shut

theorem Kept.start : Kept t job c₀ p₀ [] c₀ p₀ where
  closed ho := ⟨ho, rfl⟩
  free := rfl
  capacity := rfl
  issues := rfl
  sent := List.nil_prefix
  left _ := rfl
  agrees hp := hp
  shut hc := hc

theorem Kept.step (h : Kept t job c₀ p₀ bs c p) (ha : p.Advance t job c c' p') :
    Kept t job c₀ p₀ (bs ++ p.sends c) c' p' where
  closed ho := by
    obtain ⟨hc, rfl⟩ := h.closed ho
    exact ⟨ha.isOpen.trans hc, sends_of_closed hc p⟩
  free := ha.free.trans h.free
  capacity := ha.capacity.trans h.capacity
  issues := ha.issuesLeft.trans h.issues
  sent := by
    rw [← h.left (.inr ha.isOver)]
    exact (List.prefix_append_right_inj bs).mpr (sends_isPrefix c p)
  left ho := by
    rw [List.append_assoc, ha.sends_append (ha.isOpen ▸ ho), h.left (.inr ha.isOver)]
  agrees hp := ha.agrees (h.agrees hp)
  shut hc := ha.shut (h.shut hc)

theorem Kept.listen (h : Kept t job c₀ p₀ bs c p) (hl : c.Listens c') :
    Kept t job c₀ p₀ bs c' p := by
  obtain ⟨ho, hfree, hcapacity, hissues, hshut⟩ := hl.frame
  exact {
    closed := fun hc => absurd (h.closed hc).1 (by simp [ho])
    free := hfree ▸ h.free
    capacity := hcapacity ▸ h.capacity
    issues := hissues ▸ h.issues
    sent := h.sent
    left := fun _ => h.left (.inl ho)
    agrees := h.agrees
    shut := fun _ => hshut }

theorem Goes.issues (h : p₀.Goes t job c₀ bs c p) : ∃ is, c.issues = c₀.issues ++ is := by
  induction h with
  | start => exact ⟨[], (List.append_nil _).symm⟩
  | step _ hs ih =>
    obtain ⟨is, hi⟩ := ih
    obtain ⟨is', hi'⟩ := (advance_of_step? hs).issues
    exact ⟨is ++ is', by rw [hi', hi, List.append_assoc]⟩
  | listen _ hl ih => exact hl.frame.2.2.2.1 ▸ ih

theorem Goes.kept (h : p₀.Goes t job c₀ bs c p) : Kept t job c₀ p₀ bs c p := by
  induction h with
  | start => exact .start
  | step _ hs ih => exact ih.step (advance_of_step? hs)
  | listen _ hl ih => exact ih.listen hl

theorem Goes.trans {cs : List Block} (h : p₀.Goes t job c₀ bs c p) (h' : p.Goes t job c cs c' p') :
    p₀.Goes t job c₀ (bs ++ cs) c' p' := by
  induction h' with
  | start => exact (List.append_nil bs).symm ▸ h
  | step _ hs ih => exact (List.append_assoc _ _ _) ▸ ih.step hs
  | listen _ hl ih => exact ih.listen hl

theorem goes_drain (hc : c.Shut) : p.Goes t job c [] c.drain p := by
  obtain ⟨free, capacity, stream, isOpen, issues⟩ := c
  cases isOpen with
  | false =>
    obtain rfl : stream = [] := hc rfl
    exact .start
  | true =>
    clear hc
    induction stream with
    | nil => exact .start
    | cons b bs ih => exact (Goes.listen .start (.receive rfl rfl)).trans ih

theorem Advance.ne_waiting (h : p.Advance t job c c' p') : p' ≠ .waiting := by
  cases h <;> nofun

theorem exists_goes_isOver (hc : c.Shut) (hn : c.capacity ≠ 0) (hf : p = .waiting → c.free ≠ 0) :
    ∃ bs c' p', p.Goes t job c bs c' p' ∧ p'.isOver = true ∧ c'.isOpen = c.isOpen := by
  induction hw : p.weight t job using Nat.strong_induction_on generalizing c p with
  | _ n ih =>
    have hd : p.Goes t job c [] c.drain p := goes_drain hc
    cases hs : p.step? t job c.drain with
    | none =>
      -- there is room in the stream and a permit is free, so nothing but the end stops the worker
      have hroom : c.drain.stream.length < c.drain.capacity := Nat.pos_of_ne_zero hn
      have hover := isOver_or_waiting_of_step? hroom hs
      exact ⟨[], c.drain, p, hd, hover.resolve_right fun h => hf h.1 h.2, rfl⟩
    | some found =>
      obtain ⟨c', p'⟩ := found
      have ha := advance_of_step? hs
      have hlt := weight_step?_lt hs
      have hdrain : c.drain.stream.length = 0 := rfl
      have hcapacity : c'.capacity = c.capacity := ha.capacity
      obtain ⟨cs, last, ending, hg, hover, ho⟩ := ih (p'.weight t job) (by omega)
        (ha.shut fun _ => rfl) (hcapacity ▸ hn) (fun h => absurd h ha.ne_waiting) rfl
      exact ⟨_, last, ending, (hd.step hs).trans hg, hover, ho.trans ha.isOpen⟩

end Phase

namespace Commons

def under (limits : Limits) : Commons :=
  .start (Limits.effective limits.files) (Limits.effective limits.capacity)

theorem free_under (limits : Limits) : (under limits).free ≠ 0 :=
  Nat.pos_iff_ne_zero.mp (Limits.one_le_effective limits.files)

theorem capacity_under (limits : Limits) : (under limits).capacity ≠ 0 :=
  Nat.pos_iff_ne_zero.mp (Limits.one_le_effective limits.capacity)

end Commons

/-- What a call of a session has given: its outcome, but for blocks that nobody was left to hear. -/
structure Call.Right (t : Tools) (k : Call) : Prop where
  ending : k.ending = (k.job.outcome t).ending
  issues : k.issues = (k.job.outcome t).reported k.job.path
  sent : k.blocks <+: k.job.blocks t
  all : k.openAfter = true → k.blocks = k.job.blocks t
  none : k.openBefore = false → k.blocks = []

structure Session.Kept (t : Tools) (c₀ : Commons) (calls : List Call) (c : Commons) : Prop where
  free : c.free = c₀.free
  capacity : c.capacity = c₀.capacity
  shut : c.Shut
  right : ∀ k ∈ calls, k.Right t

namespace Session

theorem Kept.listen (h : Kept t c₀ calls c) (hl : c.Listens c') : Kept t c₀ calls c' := by
  obtain ⟨-, hfree, hcapacity, -, hshut⟩ := hl.frame
  exact ⟨hfree.trans h.free, hcapacity.trans h.capacity, hshut, h.right⟩

theorem Kept.call {is : List Issue} (h : Kept t c₀ calls c) (hg : Phase.waiting.Goes t job c bs c' p)
    (hp : p.isOver = true) (hi : c'.issues = c.issues ++ is) :
    Kept t c₀ (calls ++ [⟨job, c.isOpen, c'.isOpen, bs, is, p⟩]) c' := by
  have hk := hg.kept
  have hfree := hk.free
  rw [Phase.holdsPermit_of_isOver hp] at hfree
  refine ⟨hfree.trans h.free, hk.capacity.trans h.capacity, hk.shut h.shut, fun k hmem => ?_⟩
  obtain hmem | hmem := List.mem_append.mp hmem
  · exact h.right k hmem
  · obtain rfl := List.mem_singleton.mp hmem
    obtain ⟨hend, hleft⟩ := (hk.agrees trivial).of_isOver hp
    refine ⟨hend, ?_, hk.sent, fun ho => ?_, fun ho => (hk.closed ho).2⟩
    · have hissues := hk.issues
      rw [hi, List.append_assoc, hleft, hend] at hissues
      exact List.append_cancel_right ((List.append_cancel_left hissues).trans
        (Outcome.reported_append_leftOver job.path (job.outcome t)).symm)
    · have hl := hk.left (.inl ho)
      rw [Phase.blocksLeft_of_isOver hp, List.append_nil] at hl
      exact hl

end Session

theorem Session.kept (h : Session t c₀ calls c) (hc : c₀.Shut) : Kept t c₀ calls c := by
  induction h with
  | start => exact ⟨rfl, rfl, hc, by simp⟩
  | listen _ hl ih => exact ih.listen hl
  | call _ hg hp hi ih => exact ih.call hg hp hi

namespace Session

variable {limits : Limits}

theorem Kept.free_ne_zero (h : Kept t (.under limits) calls c) : c.free ≠ 0 :=
  h.free ▸ Commons.free_under limits

theorem Kept.capacity_ne_zero (h : Kept t (.under limits) calls c) : c.capacity ≠ 0 :=
  h.capacity ▸ Commons.capacity_under limits

theorem exists_end (h : Session t (.under limits) calls c)
    (hg : Phase.waiting.Goes t job c bs c' p) :
    ∃ cs last ending is, p.Goes t job c' cs last ending ∧ ending.isOver = true ∧
      last.isOpen = c'.isOpen ∧
      Session t (.under limits) (calls ++ [⟨job, c.isOpen, last.isOpen, bs ++ cs, is, ending⟩])
        last := by
  have hk := h.kept fun _ => rfl
  have hg' := hg.kept
  have hwait : p = .waiting → c'.free ≠ 0 := by
    rintro rfl
    have := hg'.free
    have := hk.free_ne_zero
    omega
  obtain ⟨cs, last, ending, hgoes, hover, ho⟩ :=
    Phase.exists_goes_isOver (hg'.shut hk.shut) (hg'.capacity ▸ hk.capacity_ne_zero) hwait
  have hall := hg.trans hgoes
  obtain ⟨is, hissues⟩ := hall.issues
  exact ⟨cs, last, ending, is, hgoes, hover, ho, .call h hall hover hissues⟩

theorem exists_calls (h : Session t (.under limits) calls c) (jobs : List Job) :
    ∃ ks last, Session t (.under limits) (calls ++ ks) last ∧ ks.map Call.job = jobs ∧
      last.isOpen = c.isOpen ∧ ∀ k ∈ ks, k.openBefore = c.isOpen ∧ k.openAfter = c.isOpen := by
  induction jobs generalizing calls c with
  | nil => exact ⟨[], c, (List.append_nil calls).symm ▸ h, rfl, rfl, by simp⟩
  | cons job jobs ih =>
    have hg : Phase.waiting.Goes t job c [] c .waiting := .start
    obtain ⟨cs, last, ending, is, -, -, ho, hs⟩ := h.exists_end hg
    obtain ⟨ks, final, hs', hjobs, hfinal, hks⟩ := ih hs
    refine ⟨_ :: ks, final, by simpa using hs', by rw [List.map_cons, hjobs], hfinal.trans ho, ?_⟩
    intro k hk
    obtain rfl | hk := List.mem_cons.mp hk
    · exact ⟨rfl, ho⟩
    · rw [← ho]
      exact hks k hk

end Session

def Job.alone (t : Tools) (limits : Limits) (job : Job) : Phase × Yield :=
  ((Commons.under limits).execute t job).2

theorem Job.alone_eq (t : Tools) (limits : Limits) (job : Job) :
    job.alone t limits =
      ((job.outcome t).ending, ⟨job.blocks t, (job.outcome t).reported job.path⟩) :=
  congrArg Prod.snd
    (Commons.execute_eq (Commons.free_under limits) (Commons.capacity_under limits) t job)

/-- Working on files one after another leaves no trace. However the calls before it ended, and
whenever somebody stopped listening, a call ends and gives what it does on its own, under whatever
limits: all issues, and the blocks up to the point at which nobody listens any more. Between the
calls all permits are free. So the next call gives the same again; from wherever it stands it can be
brought to its end, which makes it part of the session, and any files can be worked on behind it. -/
theorem no_memory {limits : Limits} (h : Session t (.under limits) calls c) (limits' : Limits) :
    c.free = Limits.effective limits.files ∧
      (∀ k ∈ calls, k.ending = (k.job.alone t limits').1 ∧
        k.issues = (k.job.alone t limits').2.issues ∧
        k.blocks <+: (k.job.alone t limits').2.blocks ∧
        (k.openAfter = true → k.blocks = (k.job.alone t limits').2.blocks) ∧
        (k.openBefore = false → k.blocks = [])) ∧
      (∀ job, (c.execute t job).2 = ((job.alone t limits').1,
            ⟨if c.isOpen then (job.alone t limits').2.blocks else [],
              (job.alone t limits').2.issues⟩) ∧
        ∀ bs c' p, Phase.waiting.Goes t job c bs c' p → ∃ cs last ending is,
          p.Goes t job c' cs last ending ∧ ending.isOver = true ∧ last.isOpen = c'.isOpen ∧
          Session t (.under limits) (calls ++ [⟨job, c.isOpen, last.isOpen, bs ++ cs, is, ending⟩])
            last) ∧
      ∀ jobs, ∃ ks last, Session t (.under limits) (calls ++ ks) last ∧ ks.map Call.job = jobs ∧
        last.isOpen = c.isOpen ∧ ∀ k ∈ ks, k.openBefore = c.isOpen ∧ k.openAfter = c.isOpen := by
  have hk := h.kept fun _ => rfl
  refine ⟨hk.free, fun k hm => ?_, fun job => ⟨?_, fun bs c' p => h.exists_end⟩, h.exists_calls⟩
  · have hr := hk.right k hm
    rw [Job.alone_eq]
    exact ⟨hr.ending, hr.issues, hr.sent, hr.all, hr.none⟩
  · rw [Job.alone_eq]
    exact congrArg Prod.snd (Commons.execute_eq hk.free_ne_zero hk.capacity_ne_zero t job)

def sampleSession : List Job :=
  [⟨⟨[], none, Run.sampleLanguage⟩, "b"⟩, ⟨⟨[], none, Run.sampleLanguage⟩, "c"⟩,
    ⟨⟨[], some .replacement, Run.sampleLanguage⟩, "a"⟩,
    ⟨⟨[], none, { Run.sampleLanguage with rules := [.block [] []] }⟩, "a"⟩,
    ⟨⟨[], none, Run.sampleLanguage⟩, "a"⟩]

theorem no_memory_sample :
    ∃ calls calls' c, Session Run.sampleTools (.under ⟨0, 0⟩) (calls ++ calls') c ∧ c.free = 1 ∧
      calls.map (fun k => (k.ending, k.blocks, k.issues)) =
        [(.broken "b broke", [], []), (.done, [], [.inFile "c" (.io (.plain .notFound))]),
          (.done, [], [.inFile "a" (.message ⟨.undecodable, ["replacement"]⟩)]),
          (.done, [], [.inFile "a" (.breakdown "a broke")]),
          (.done, [⟨"a", 1, [65]⟩, ⟨"a", 3, [66]⟩], [])] ∧
      calls'.map (fun k => (k.ending, k.blocks, k.issues)) =
        calls.map fun k => (k.ending, [], k.issues) := by
  have hstart : Session Run.sampleTools (.under ⟨0, 0⟩) [] (.under ⟨0, 0⟩) := .start
  obtain ⟨calls, c, hs, hjobs, ho, hopen⟩ := (no_memory hstart ⟨0, 0⟩).2.2.2 sampleSession
  obtain ⟨calls', c', hs', hjobs', -, hclosed⟩ :=
    (no_memory (hs.listen (.close ho)) ⟨0, 0⟩).2.2.2 sampleSession
  obtain ⟨hfree, hright, -⟩ := no_memory hs' ⟨0, 0⟩
  have hgiven : calls.map (fun k => (k.ending, k.blocks, k.issues)) =
      sampleSession.map fun job => ((job.alone Run.sampleTools ⟨0, 0⟩).1,
        (job.alone Run.sampleTools ⟨0, 0⟩).2.blocks,
        (job.alone Run.sampleTools ⟨0, 0⟩).2.issues) := by
    rw [← hjobs, List.map_map]
    refine List.map_congr_left fun k hk => ?_
    obtain ⟨hend, hissues, -, hall, -⟩ := hright k (by simp [hk])
    rw [hend, hissues, hall (hopen k hk).2]
    rfl
  have hsilent : calls'.map (fun k => (k.ending, k.blocks, k.issues)) =
      sampleSession.map fun job => ((job.alone Run.sampleTools ⟨0, 0⟩).1, [],
        (job.alone Run.sampleTools ⟨0, 0⟩).2.issues) := by
    rw [← hjobs', List.map_map]
    refine List.map_congr_left fun k hk => ?_
    obtain ⟨hend, hissues, -, -, hnone⟩ := hright k (by simp [hk])
    rw [hend, hissues, hnone (hclosed k hk).1]
    rfl
  refine ⟨calls, calls', c', by simpa using hs', hfree, ?_, ?_⟩
  · rw [hgiven]
    decide +kernel
  · rw [hsilent]
    have hends := congrArg (List.map fun g => (g.1, ([] : List Block), g.2.2)) hgiven
    simpa [List.map_map, Function.comp_def] using hends.symm

end CommentBlocks
