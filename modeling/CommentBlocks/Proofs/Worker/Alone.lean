import CommentBlocks.Worker.Alone

namespace CommentBlocks

namespace Outcome

def ending : Outcome → Phase
  | readerBroke text => .broken text
  | _ => .done

def reported (path : String) : Outcome → List Issue
  | readerBroke _ => []
  | o => o.issues path

theorem reported_append_leftOver (path : String) (o : Outcome) :
    o.reported path ++ o.ending.leftOver path = o.issues path := by
  cases o with
  | readerBroke => rfl
  | unreadable | undecodable | extractorBroke | extracted => exact List.append_nil _

end Outcome

namespace Commons

def heard (c : Commons) (bs : List Block) : List Block := if c.isOpen then bs else []

end Commons

namespace Phase

variable {t : Tools} {job : Job} {c c' : Commons} {p p' : Phase}

theorem runAlone_of_step (h : p.step? t job c.drain = some (c', p')) :
    p.runAlone t job c =
      ((p'.runAlone t job c'.drain).1, (p'.runAlone t job c'.drain).2.1,
        c'.stream ++ (p'.runAlone t job c'.drain).2.2) := by
  rw [runAlone]
  split <;> simp_all

theorem runAlone_of_isOver (h : p.isOver = true) : p.runAlone t job c = (c, p, []) := by
  cases p with
  | done | broken =>
    rw [runAlone]
    rfl
  | waiting | reading | extracting | reporting | sending => cases h

theorem runAlone_of_silent_step (h : p.step? t job c.drain = some (c', p')) (hs : c'.drain = c') :
    p.runAlone t job c = p'.runAlone t job c' := by
  have hn : c'.stream = [] := by rw [← hs, Commons.drain]
  rw [runAlone_of_step h, hs, hn]
  rfl

theorem runAlone_sending (hc : c.capacity ≠ 0) (bs : List Block) :
    (sending bs).runAlone t job c = (c.drain.givePermit, .done, c.heard bs) := by
  induction bs generalizing c with
  | nil =>
    have hs : (sending []).step? t job c.drain = some (c.drain.givePermit, .done) := rfl
    rw [runAlone_of_silent_step hs rfl, runAlone_of_isOver rfl]
    simp [Commons.heard]
  | cons b bs ih =>
    cases ho : c.isOpen with
    | false =>
      have hs : (sending (b :: bs)).step? t job c.drain = some (c.drain.givePermit, .done) := by
        simp [step?, Commons.drain, ho]
      rw [runAlone_of_silent_step hs rfl, runAlone_of_isOver rfl]
      simp [Commons.heard, ho]
    | true =>
      have hs : (sending (b :: bs)).step? t job c.drain = some (c.drain.send b, sending bs) := by
        simp [step?, Commons.drain, ho, Nat.pos_of_ne_zero hc]
      have hd : (c.drain.send b).drain = c.drain := rfl
      have hc' : c.drain.capacity ≠ 0 := hc
      rw [runAlone_of_step hs, hd, ih hc']
      simp [Commons.heard, Commons.drain, Commons.send, ho]

theorem runAlone_reporting (hc : c.capacity ≠ 0) (is : List Issue) (bs : List Block) :
    (reporting is bs).runAlone t job c =
      ({ c.drain.givePermit with issues := c.issues ++ is }, .done, c.heard bs) := by
  induction is generalizing c with
  | nil =>
    have hs : (reporting [] bs).step? t job c.drain = some (c.drain, sending bs) := rfl
    have hc' : c.drain.capacity ≠ 0 := hc
    rw [runAlone_of_silent_step hs rfl, runAlone_sending hc', List.append_nil]
    rfl
  | cons i is ih =>
    have hs : (reporting (i :: is) bs).step? t job c.drain =
        some (c.drain.report i, reporting is bs) := rfl
    have hc' : (c.drain.report i).capacity ≠ 0 := hc
    rw [runAlone_of_silent_step hs rfl, ih hc', List.append_cons]
    rfl

theorem runAlone_handOver (hc : c.capacity ≠ 0) (path : String) (o : Outcome) :
    (handOver path o).runAlone t job c =
      ({ c.drain.givePermit with issues := c.issues ++ o.issues path }, .done,
        c.heard (o.blocks path)) :=
  runAlone_reporting hc _ _

end Phase

namespace Commons

/-- The commons in the work on one file, from the time it has a permit. -/
def begun (c : Commons) : Commons := c.collect.drain.takePermit

theorem collect_givePermit_begun {c : Commons} (hf : c.free ≠ 0) (is : List Issue) :
    collect { c.begun.drain.givePermit with issues := is } = c.drain.collect := by
  simp [begun, collect, drain, takePermit, givePermit, Nat.sub_add_cancel (Nat.pos_of_ne_zero hf)]

/-- What the work on one file yields is its outcome, save for the blocks if nobody listens, and it
leaves nothing behind but a breakdown of the reader. -/
theorem execute_eq {c : Commons} (hf : c.free ≠ 0) (hc : c.capacity ≠ 0) (t : Tools) (job : Job) :
    let o := Outcome.of t job.plan job.path
    c.execute t job =
      (c.drain.collect, o.ending, ⟨c.heard (o.blocks job.path), o.reported job.path⟩) := by
  intro o
  have hw : Phase.waiting.step? t job c.collect.drain = some (c.begun, .reading) := if_neg hf
  have hc' : c.begun.capacity ≠ 0 := hc
  unfold execute
  rw [Phase.runAlone_of_silent_step hw rfl]
  cases hr : t.reader job.path with
  | data b =>
    have ho : o = .ofData t job.plan job.path b := by simp only [o, Outcome.of, hr]
    have hs : Phase.reading.step? t job c.begun.drain = some (c.begun, .extracting b) := by
      simp only [Phase.step?, hr]
      rfl
    have he : (Phase.extracting b).step? t job c.begun.drain =
        some (c.begun, .handOver job.path o) := by
      rw [ho]
      rfl
    have hd : o.ending = .done ∧ o.reported job.path = o.issues job.path := by
      rw [ho, Outcome.ofData]
      split
      · exact ⟨rfl, rfl⟩
      · split <;> exact ⟨rfl, rfl⟩
    rw [Phase.runAlone_of_silent_step hs rfl, Phase.runAlone_of_silent_step he rfl,
      Phase.runAlone_handOver hc', hd.1, hd.2]
    exact Prod.ext (collect_givePermit_begun hf _) rfl
  | failed e =>
    have ho : o = .unreadable e := by simp only [o, Outcome.of, hr]
    have hs : Phase.reading.step? t job c.begun.drain =
        some (c.begun, .handOver job.path o) := by
      simp only [Phase.step?, hr, ho]
      rfl
    rw [Phase.runAlone_of_silent_step hs rfl, Phase.runAlone_handOver hc', ho]
    exact Prod.ext (collect_givePermit_begun hf _) rfl
  | broke =>
    have ho : o = .readerBroke (t.breakdown job.path) := by simp only [o, Outcome.of, hr]
    have hs : Phase.reading.step? t job c.begun.drain =
        some (c.begun.givePermit, .broken (t.breakdown job.path)) := by
      simp only [Phase.step?, hr]
      rfl
    rw [Phase.runAlone_of_silent_step hs rfl, Phase.runAlone_of_isOver rfl, ho]
    refine Prod.ext (collect_givePermit_begun hf _) ?_
    simp [Outcome.blocks, Outcome.ending, Outcome.reported, heard, begun, collect, takePermit,
      givePermit, drain]

theorem perform_eq {c : Commons} (hf : c.free ≠ 0) (hc : c.capacity ≠ 0) (t : Tools) (job : Job) :
    let o := Outcome.of t job.plan job.path
    c.perform t job = (c.drain.collect, ⟨c.heard (o.blocks job.path), o.issues job.path⟩) := by
  intro o
  simp only [perform, execute_eq hf hc, Outcome.reported_append_leftOver, o]

end Commons

end CommentBlocks
