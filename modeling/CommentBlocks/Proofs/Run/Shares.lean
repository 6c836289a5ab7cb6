import CommentBlocks.Proofs.Run.Close
import CommentBlocks.Proofs.Run.Leaving
import CommentBlocks.Proofs.Worker.Endings

namespace CommentBlocks.Run

def subject (r : Run) : Event → Nat
  | .work i => i
  | _ => r.joined

/-- A run comes to a state while logs are kept of the blocks sent and of the issues reported. -/
inductive Recorded (t : Tools) (r₀ : Run) : List (Nat × Block) → List (Nat × Issue) → Run → Prop
  | start : Recorded t r₀ [] [] r₀
  | fire {log notes r r' is} (e : Event) (h : Recorded t r₀ log notes r) (he : r.fire? t e = some r')
    (hi : r'.commons.issues = r.commons.issues ++ is) :
    Recorded t r₀ (log ++ r.sent e) (notes ++ is.map (r.subject e, ·)) r'

variable {t : Tools} {limits : Limits} {groups : List (List Job)} {r₀ r r' : Run}
  {log : List (Nat × Block)} {notes : List (Nat × Issue)} {is : List Issue}

theorem Recorded.logged (h : Recorded t r₀ log notes r) : Logged t r₀ log r := by
  induction h with
  | start => exact .start
  | fire e _ he _ ih => exact .fire e ih he

theorem Move.issues (h : Move t r r') : ∃ is, r'.commons.issues = r.commons.issues ++ is := by
  cases h with
  | dispatch hd =>
    cases hd with
    | joinBroken => exact ⟨_, rfl⟩
    | turn | handOut | join | allJoined => exact ⟨[], (List.append_nil _).symm⟩
  | work _ hp => exact hp.issues
  | receive | finish | leave | raise => exact ⟨[], (List.append_nil _).symm⟩

theorem exists_recorded_iff : (∃ log notes, Recorded t r₀ log notes r) ↔ Steps t r₀ r := by
  constructor
  · rintro ⟨log, notes, h⟩
    exact exists_logged_iff.mp ⟨log, h.logged⟩
  · intro h
    induction h with
    | refl => exact ⟨[], [], .start⟩
    | tail _ hs ih =>
      obtain ⟨log, notes, hr⟩ := ih
      obtain ⟨e, he⟩ := hs
      obtain ⟨is, hi⟩ := (move_of_fire? he).issues
      exact ⟨_, _, .fire e hr he hi⟩

/-- What the notes say of the issues: with those that a worker has left they are those of its file,
and nothing is left once it has been waited for. -/
structure Noted (t : Tools) (notes : List (Nat × Issue)) (r : Run) : Prop where
  orderly : Orderly r
  issues : r.commons.issues = notes.map (·.2)
  left {i job p} : r.workers[i]? = some (job, p) → r.joined ≤ i →
    partOf i notes ++ p.issuesLeft t job = job.issues t
  told {i job p} : r.workers[i]? = some (job, p) → i < r.joined → partOf i notes = job.issues t
  others {i} : r.workers.length ≤ i → partOf i notes = []

theorem Noted.start (limits : Limits) (groups : List (List Job)) :
    Noted t [] (start limits groups) where
  orderly := .start limits groups
  issues := rfl
  left h := by simp [Run.start] at h
  told h := by simp [Run.start] at h
  others _ := rfl

theorem Noted.work {i : Nat} {job : Job} {p p' : Phase} {c : Commons} (h : Noted t notes r)
    (hw : r.workers[i]? = some (job, p)) (hp : p.Advance t job r.commons c p')
    (hi : c.issues = r.commons.issues ++ is) :
    Noted t (notes ++ is.map (i, ·)) { r with commons := c, workers := r.workers.set i (job, p') } := by
  have hj := h.orderly.joined_le hw hp.isOver
  have hleft : is ++ p'.issuesLeft t job = p.issuesLeft t job := by
    have ha := hp.issuesLeft
    rw [hi, List.append_assoc] at ha
    exact List.append_cancel_left ha
  constructor
  · exact h.orderly.move (.work hw hp)
  · dsimp only
    rw [hi, h.issues]
    simp [Function.comp_def]
  · intro k job' q hk hjk
    obtain ⟨rfl, hq⟩ | ⟨hki, hk⟩ := getElem?_set_cases hk
    · obtain ⟨rfl, rfl⟩ := Prod.mk.inj hq
      rw [partOf_append_self, List.append_assoc, hleft, h.left hw hj]
    · rw [partOf_append_of_ne (Ne.symm hki)]
      exact h.left hk (by simpa [Run.joined] using hjk)
  · intro k job' q hk hjk
    have hjk : k < r.joined := by simpa [Run.joined] using hjk
    rw [List.getElem?_set_ne (by omega)] at hk
    rw [partOf_append_of_ne (by omega)]
    exact h.told hk hjk
  · intro k hk
    have hl := (List.getElem?_eq_some_iff.mp hw).1
    have hk : r.workers.length ≤ k := by simpa using hk
    rw [partOf_append_of_ne (by omega), h.others hk]

theorem Noted.silent (h : Noted t notes r) (ho : Orderly r') (hw : r'.workers = r.workers)
    (hj : r'.joined = r.joined) (hi : r'.commons.issues = r.commons.issues) : Noted t notes r' where
  orderly := ho
  issues := hi ▸ h.issues
  left hk hl := h.left (hw ▸ hk) (hj ▸ hl)
  told hk hl := h.told (hw ▸ hk) (hj ▸ hl)
  others hl := h.others (hw ▸ hl)

/-- The dispatcher reports what a worker has left over when it has waited for it. -/
theorem Noted.next {n : Nat} {job : Job} {p : Phase} {c : Commons} (h : Noted t notes r)
    (hd : r.dispatcher = .joining n) (hw : r.workers[n]? = some (job, p)) (hp : p.isOver = true)
    (hi : c.issues = r.commons.issues ++ p.issuesLeft t job) :
    Noted t (notes ++ (p.issuesLeft t job).map (n, ·))
      { r with dispatcher := .joining (n + 1), commons := c } := by
  have hj : r.joined = n := by simp only [Run.joined, hd]
  have hn := h.left hw hj.le
  constructor
  · exact h.orderly.next hd hw hp c
  · dsimp only
    rw [hi, h.issues]
    simp [Function.comp_def]
  · intro k job' q hk hjk
    have hjk : n < k := hjk
    rw [partOf_append_of_ne (by omega)]
    exact h.left hk (by omega)
  · intro k job' q hk hjk
    obtain hkn | rfl := Nat.lt_succ_iff_lt_or_eq.mp hjk
    · rw [partOf_append_of_ne (by omega)]
      exact h.told hk (by omega)
    · obtain ⟨rfl, rfl⟩ := Prod.mk.inj (Option.some.inj (hw.symm.trans hk))
      rw [partOf_append_self, hn]
  · intro k hk
    have hl := (List.getElem?_eq_some_iff.mp hw).1
    have hk : r.workers.length ≤ k := hk
    rw [partOf_append_of_ne (by omega), h.others hk]

theorem Noted.dispatch (h : Noted t notes r) (hd : Dispatches r r')
    (hi : r'.commons.issues = r.commons.issues ++ is) :
    Noted t (notes ++ is.map (r.joined, ·)) r' := by
  have ho := h.orderly.dispatch hd
  have hsilent {is : List Issue} {c : List Issue} (hc : c = c ++ is) :
      notes ++ is.map (r.joined, ·) = notes := by
    rw [List.self_eq_append_right.mp hc]
    exact List.append_nil notes
  cases hd with
  | turn hd =>
    obtain ⟨h₀, h₁⟩ := joined_of_turn hd
    rw [hsilent hi]
    exact h.silent ho rfl (h₁.trans h₀.symm) rfl
  | @handOut j js gs hd =>
    have hj : r.joined = 0 := by simp only [Run.joined, hd]
    rw [hsilent hi]
    refine ⟨ho, h.issues, fun {i job p} hk _ => ?_, fun _ hl => absurd hl (Nat.not_lt_zero _),
      fun hl => h.others ?_⟩
    · obtain hl | hl := Nat.lt_or_ge i r.workers.length
      · rw [List.getElem?_append_left hl] at hk
        exact h.left hk (by omega)
      · -- the new worker has all of its issues left
        rw [List.getElem?_append_right hl] at hk
        obtain ⟨rfl, rfl⟩ := by simpa using List.mem_of_getElem? hk
        rw [h.others hl]
        rfl
    · rw [List.length_append] at hl
      omega
  | @join n j hd hw =>
    have hn := h.next (c := r.commons) hd hw rfl (List.append_nil _).symm
    rw [hsilent hi]
    simpa [Phase.issuesLeft] using hn
  | @joinBroken n j text hd hw =>
    have hj : r.joined = n := by simp only [Run.joined, hd]
    have hb : is = [Outcome.breakdown j.path text] := (List.append_cancel_left hi).symm
    rw [hb, hj]
    exact h.next hd hw rfl rfl
  | @allJoined n hd hw =>
    have hl := List.getElem?_eq_none_iff.mp hw
    have hj : r.joined = n := by simp only [Run.joined, hd]
    rw [hsilent hi]
    refine ⟨ho, h.issues, fun hk hjk => ?_, fun hk _ => ?_, h.others⟩
    · have := (List.getElem?_eq_some_iff.mp hk).1
      exact absurd hjk (Nat.not_le_of_lt this)
    · have hlt : _ < r.workers.length := (List.getElem?_eq_some_iff.mp hk).1
      exact h.told hk (by omega)

theorem unchanged_of_fire? {e : Event} (h : r.fire? t e = some r') (hd : e ≠ .dispatch)
    (hw : ∀ i, e ≠ .work i) :
    r'.workers = r.workers ∧ r'.joined = r.joined ∧ r'.commons.issues = r.commons.issues := by
  cases e with
  | dispatch => exact absurd rfl hd
  | work i => exact absurd rfl (hw i)
  | receive =>
    simp only [fire?, receive?] at h
    repeat' split at h
    all_goals cases h
    all_goals exact ⟨rfl, rfl, rfl⟩
  | leave =>
    obtain ⟨-, rfl⟩ := by simpa [fire?] using h
    exact ⟨rfl, rfl, rfl⟩
  | raise requests =>
    obtain ⟨-, rfl⟩ := by simpa [fire?] using h
    exact ⟨rfl, rfl, rfl⟩

theorem Noted.fire {e : Event} (h : Noted t notes r) (he : r.fire? t e = some r')
    (hi : r'.commons.issues = r.commons.issues ++ is) :
    Noted t (notes ++ is.map (r.subject e, ·)) r' := by
  cases e with
  | work i =>
    obtain ⟨job, p, c, p', hw, hp, rfl⟩ := advance_of_work? he
    exact h.work hw hp hi
  | dispatch => exact h.dispatch (dispatches_of_dispatch? he) hi
  | receive | leave | raise =>
    obtain ⟨hw, hj, hc⟩ := unchanged_of_fire? he nofun nofun
    obtain rfl : is = [] := List.self_eq_append_right.mp (hc.symm.trans hi)
    simpa using h.silent (h.orderly.move (move_of_fire? he)) hw hj hc

theorem Recorded.noted (h : Recorded t (Run.start limits groups) log notes r) : Noted t notes r := by
  induction h with
  | start => exact .start limits groups
  | fire e _ he hi ih => exact ih.fire he hi

theorem Noted.of_done (h : Noted t notes r) {i : Nat} {job : Job}
    (hw : r.workers[i]? = some (job, .done)) : partOf i notes = job.issues t := by
  obtain hj | hj := Nat.lt_or_ge i r.joined
  · exact h.told hw hj
  · simpa [Phase.issuesLeft] using h.left hw hj

theorem Noted.of_broken (h : Noted t notes r) (hb : BrokenByReader t r) {i : Nat} {job : Job}
    {text : String} (hw : r.workers[i]? = some (job, .broken text)) :
    job.outcome t = .readerBroke text ∧
      partOf i notes = if i < r.joined then job.issues t else [] := by
  obtain ⟨hr, rfl⟩ := hb job text (List.mem_of_getElem? hw)
  have ho : job.outcome t = .readerBroke (t.breakdown job.path) := by
    simp only [Job.outcome, Outcome.of, hr]
  refine ⟨ho, ?_⟩
  obtain hj | hj := Nat.lt_or_ge i r.joined
  · rw [if_pos hj, h.told hw hj]
  · have hl := h.left hw hj
    have hi : job.issues t = [Outcome.breakdown job.path (t.breakdown job.path)] := by
      rw [Job.issues, ho, Outcome.issues]
    rw [hi] at hl
    rw [if_neg (by omega)]
    exact List.append_cancel_right (hl.trans (List.nil_append _).symm)

theorem exists_worker {i : Nat} {job : Job} {p : Phase} (hs : Steps t r r')
    (hw : r.workers[i]? = some (job, p)) : ∃ q, r'.workers[i]? = some (job, q) := by
  refine hs.keeps (P := fun s => ∃ q, s.workers[i]? = some (job, q)) ⟨p, hw⟩ ?_
  rintro s s' ⟨q, hq⟩ hm
  cases hm with
  | dispatch hd =>
    cases hd with
    | handOut =>
      exact ⟨q, (List.getElem?_append_left (List.getElem?_eq_some_iff.mp hq).1).trans hq⟩
    | turn | join | joinBroken | allJoined => exact ⟨q, hq⟩
  | @work k _ _ _ p' hk =>
    by_cases hki : k = i
    · subst hki
      obtain ⟨rfl, rfl⟩ := Prod.mk.inj (Option.some.inj (hk.symm.trans hq))
      exact ⟨p', List.getElem?_set_self (List.getElem?_eq_some_iff.mp hq).1⟩
    · exact ⟨q, (List.getElem?_set_ne hki).trans hq⟩
  | receive | finish | leave | raise => exact ⟨q, hq⟩

theorem returned_settle (hs : Steps t (start limits groups) r) :
    (r.settle t true).dispatcher = .returned := by
  have hs' := hs.trans (steps_settle t true r)
  have hp : Supplied limits (r.settle t true) := hs'.keeps (.start limits groups) Supplied.move
  have ho : Orderly (r.settle t true) := hs'.keeps (.start limits groups) Orderly.move
  have hc : (r.settle t true).commons.Shut :=
    hs'.keeps (P := fun r => r.commons.Shut) (fun _ => rfl) shut_move
  exact ((atRest_of_next? (next?_settle t true r)).returned hp ho hc).1

/-- Every file that is handed out comes to exactly one end, and its worker gives what belongs to
that end and nothing else. At every moment it has sent a first part of the blocks, in ascending
order of their lines, and it or the dispatcher for it has reported a first part of the issues. While
somebody listens, a worker that is over has sent all blocks. All issues of a worker that is done
have been reported, so that the dispatcher has none to add; only where the reader broke down it
reports the breakdown when it has waited for the worker, as in the end it can for every worker. -/
theorem comes_to_one_end (h : Recorded t (start limits groups) log notes r) {i : Nat} {job : Job}
    {p : Phase} (hw : r.workers[i]? = some (job, p)) :
    ∃ o blocks issues, (∀ o' bs is, job.ComesTo t o' bs is ↔ o' = o ∧ bs = blocks ∧ is = issues) ∧
      blocks.Pairwise (·.line < ·.line) ∧
      (partOf i log <+: blocks ∧
        (p.isOver = true → r.commons.isOpen = true → partOf i log = blocks)) ∧
      (partOf i notes <+: issues ∧ (p = .done → partOf i notes = issues) ∧
        (∀ text, p = .broken text →
          o = .readerBroke text ∧ partOf i notes = if i < r.joined then issues else []) ∧
        (i < r.joined → p.isOver = true ∧ partOf i notes = issues)) ∧
      r.commons.issues = notes.map (·.2) ∧
      (r.commons.isOpen = true ∨ r.ended = true →
        r.received.reverse ++ r.commons.stream = log.map (·.2)) ∧
      ∃ s q, Steps t r s ∧ s.commons.isOpen = r.commons.isOpen ∧ s.workers[i]? = some (job, q) ∧
        i < s.joined := by
  have hs : Steps t (start limits groups) r := exists_recorded_iff.mp ⟨log, notes, h⟩
  have hn := h.noted
  have hd := h.logged.delivered
  have hb : BrokenByReader t r := hs.keeps (.start limits groups) BrokenByReader.move
  have hend := steps_settle t true r
  have hreturned := returned_settle hs
  obtain ⟨q, hq⟩ := exists_worker hend hw
  refine ⟨job.outcome t, job.blocks t, job.issues t, fun _ _ _ => Job.comesTo_iff,
    job.pairwise_blocks t, ⟨hd.sent hw, fun hover ho => ?_⟩, ⟨?_, ?_, ?_, fun hj => ?_⟩, hn.issues,
    hd.stream, _, q, hend, (frame_settle t true r).1, hq, ?_⟩
  · simpa [Phase.blocksLeft_of_isOver hover] using hd.left hw (.inr (.inl ho))
  · obtain hj | hj := Nat.lt_or_ge i r.joined
    · rw [hn.told hw hj]
    · exact ⟨_, hn.left hw hj⟩
  · rintro rfl
    exact hn.of_done hw
  · rintro text rfl
    exact hn.of_broken hb hw
  · exact ⟨hn.orderly.joined hj hw, hn.told hw hj⟩
  · simp only [Run.joined, hreturned]
    exact (List.getElem?_eq_some_iff.mp hq).1

/-- Five files, one for every end. GBK is declared, but a byte order mark tells of UTF-8. -/
def endingPlan : Plan := ⟨["a", "b", "c", "d", "e"], some .gbk, sampleLanguage⟩

def unclosedAt (file : String) (line : Nat) : Issue := ⟨file, "", line, .message (.just .unclosed)⟩

def endingTools : Tools where
  reader path :=
    if path = "a" then .data [65]
    else if path = "b" then .broke
    else if path = "c" then .data [0xEF, 0xBB, 0xBF, 0xFF]
    else if path = "d" then .data []
    else .failed (.plain .notFound)
  extractor path data _ :=
    if path = "d" then none
    else some ⟨.ofFound [(3, data), (1, data)], [unclosedAt "" 1, unclosedAt "x" 2]⟩
  breakdown path := path ++ " broke"

def endingStart : Run := start ⟨0, 0⟩ [endingPlan.jobs]

def endingRun : Run := endingStart.settle endingTools true

def endingJob (path : String) : Job := ⟨endingPlan, path⟩

theorem workers_endingRun :
    endingRun.workers = [(endingJob "a", .done), (endingJob "b", .broken "b broke"),
      (endingJob "c", .done), (endingJob "d", .done), (endingJob "e", .done)] := by decide +kernel

theorem comes_to_one_end_sample :
    ∃ log notes, Recorded endingTools endingStart log notes endingRun ∧
      (partOf 0 log = [⟨"a", 1, [65]⟩, ⟨"a", 3, [65]⟩] ∧
        partOf 0 notes = [unclosedAt "a" 1, unclosedAt "x" 2]) ∧
      (partOf 1 log = [] ∧ partOf 1 notes = [⟨"b", "", 0, .breakdown "b broke"⟩]) ∧
      (partOf 2 log = [] ∧ partOf 2 notes = [⟨"c", "", 0, .message ⟨.undecodable, ["UTF-8"]⟩⟩]) ∧
      (partOf 3 log = [] ∧ partOf 3 notes = [⟨"d", "", 0, .breakdown "d broke"⟩]) ∧
      (partOf 4 log = [] ∧ partOf 4 notes = [⟨"e", "", 0, .io (.plain .notFound)⟩]) := by
  have hopen : endingRun.commons.isOpen = true := by decide +kernel
  have hjoined : endingRun.joined = 5 := by decide +kernel
  obtain ⟨log, notes, hr⟩ :=
    exists_recorded_iff.mpr (steps_settle endingTools true endingStart)
  have hshare {i : Nat} {job : Job} {p : Phase} {o : Outcome} {bs : List Block} {is : List Issue}
      (hw : endingRun.workers[i]? = some (job, p)) (hi : i < 5)
      (hc : job.ComesTo endingTools o bs is) : partOf i log = bs ∧ partOf i notes = is := by
    obtain ⟨o', blocks, issues, hall, -, hsent, htold, -⟩ := comes_to_one_end hr hw
    obtain ⟨-, rfl, rfl⟩ := (hall o bs is).mp hc
    obtain ⟨hover, htold⟩ := htold.2.2.2 (hjoined ▸ hi)
    exact ⟨hsent.2 hover hopen, htold⟩
  have hw := workers_endingRun
  have hu : Charset.Used .gbk ([0xEF, 0xBB, 0xBF] ++ [0xFF]) .utf8 [0xFF] :=
    .marked (by simp [Charset.marks])
  have hn (c : Charset) (mark : Bytes) (hm : (c, mark) ∈ Charset.marks) : ¬ mark <+: [] := by
    rw [List.prefix_nil]
    rintro rfl
    simp [Charset.marks] at hm
  have hempty : Charset.Taken (some .gbk) [] (Bytes.ofChars []) :=
    .decoded (.unmarked hn) (by decide +kernel)
  have hblocks : [⟨"a", 1, [65]⟩, ⟨"a", 3, [65]⟩] = (endingJob "a").blocks endingTools := by
    decide +kernel
  have hissues : [unclosedAt "a" 1, unclosedAt "x" 2] = (endingJob "a").issues endingTools := by
    decide +kernel
  exact ⟨log, notes, hr,
    hshare (by rw [hw]; rfl) (by omega) (Job.comesTo_iff.mpr ⟨rfl, hblocks, hissues⟩),
    hshare (by rw [hw]; rfl) (by omega) (.readerBroke rfl),
    hshare (by rw [hw]; rfl) (by omega) (.undecodable rfl rfl hu (by decide +kernel)),
    hshare (by rw [hw]; rfl) (by omega) (.extractorBroke rfl hempty rfl),
    hshare (by rw [hw]; rfl) (by omega) (.unreadable rfl)⟩

end CommentBlocks.Run
