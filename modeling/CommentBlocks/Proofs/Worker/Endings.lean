import CommentBlocks.Proofs.Run.Balance

namespace CommentBlocks

namespace Charset

def marks : List (Charset × Bytes) :=
  [(utf8, [0xEF, 0xBB, 0xBF]), (utf16Little, [0xFF, 0xFE]), (utf16Big, [0xFE, 0xFF])]

/-- The encoding used for the bytes of a file, and the bytes that are to be decoded: those behind
the byte order mark in its encoding, or all of them in the declared one. -/
inductive Used (declared : Charset) : Bytes → Charset → Bytes → Prop
  | marked {c mark body} (hm : (c, mark) ∈ marks) : Used declared (mark ++ body) c body
  | unmarked {b} (hm : ∀ c mark, (c, mark) ∈ marks → ¬ mark <+: b) : Used declared b declared b

inductive Taken : Option Charset → Bytes → Bytes → Prop
  | plain {b} : Taken none b b
  | decoded {declared b c body text} (hu : Used declared b c body) (hd : c.decode body = some text) :
    Taken (some declared) b (Bytes.ofChars text)

variable {declared c : Charset} {b body text : Bytes}

theorem ofMark?_mark {mark : Bytes} (hm : (c, mark) ∈ marks) (body : Bytes) :
    ofMark? (mark ++ body) = some (c, body) := by
  simp only [marks, List.mem_cons, Prod.mk.injEq, List.not_mem_nil, or_false] at hm
  obtain ⟨rfl, rfl⟩ | ⟨rfl, rfl⟩ | ⟨rfl, rfl⟩ := hm <;> rfl

theorem exists_mark_of_ofMark? (h : ofMark? b = some (c, body)) :
    ∃ mark, (c, mark) ∈ marks ∧ b = mark ++ body := by
  unfold ofMark? at h
  split at h
  · obtain ⟨rfl, rfl⟩ := by simpa using h
    exact ⟨[0xEF, 0xBB, 0xBF], by simp [marks], rfl⟩
  · obtain ⟨rfl, rfl⟩ := by simpa using h
    exact ⟨[0xFF, 0xFE], by simp [marks], rfl⟩
  · obtain ⟨rfl, rfl⟩ := by simpa using h
    exact ⟨[0xFE, 0xFF], by simp [marks], rfl⟩
  · cases h

theorem used_iff : Used declared b c body ↔ detect declared b = (c, body) := by
  constructor
  · intro h
    cases h with
    | marked hm => rw [detect, ofMark?_mark hm, Option.getD_some]
    | unmarked hm =>
      have hn : ofMark? b = none := by
        rw [Option.eq_none_iff_forall_not_mem]
        rintro ⟨c, body⟩ h
        obtain ⟨mark, hc, rfl⟩ := exists_mark_of_ofMark? h
        exact hm c mark hc (List.prefix_append mark body)
      rw [detect, hn, Option.getD_none]
  · intro h
    unfold detect at h
    cases ho : ofMark? b with
    | some found =>
      rw [ho, Option.getD_some] at h
      subst h
      obtain ⟨mark, hm, rfl⟩ := exists_mark_of_ofMark? ho
      exact .marked hm
    | none =>
      rw [ho, Option.getD_none] at h
      obtain ⟨rfl, rfl⟩ := Prod.mk.inj h
      refine .unmarked fun c mark hm hp => ?_
      obtain ⟨body, rfl⟩ := hp
      rw [ofMark?_mark hm] at ho
      cases ho

theorem toUtf8_eq_ok_iff {declared : Option Charset} :
    toUtf8 declared b = .ok text ↔ Taken declared b text := by
  constructor
  · intro h
    cases declared with
    | none =>
      obtain rfl := Except.ok.inj h
      exact .plain
    | some declared =>
      cases hd : (detect declared b).1.decode (detect declared b).2 with
      | none => simp [toUtf8, hd] at h
      | some chars =>
        obtain rfl : Bytes.ofChars chars = text := by simpa [toUtf8, hd] using h
        exact .decoded (used_iff.mpr rfl) hd
  · intro h
    cases h with
    | plain => rfl
    | decoded hu hd => simp [toUtf8, used_iff.mp hu, hd]

theorem toUtf8_eq_error_iff {declared : Option Charset} :
    toUtf8 declared b = .error c ↔
      ∃ d body, declared = some d ∧ Used d b c body ∧ c.decode body = none := by
  constructor
  · intro h
    cases declared with
    | none => cases h
    | some d =>
      cases hd : (detect d b).1.decode (detect d b).2 with
      | some chars => simp [toUtf8, hd] at h
      | none =>
        obtain rfl : (detect d b).1 = c := by simpa [toUtf8, hd] using h
        exact ⟨d, _, rfl, used_iff.mpr rfl, hd⟩
  · rintro ⟨d, body, rfl, hu, hd⟩
    simp [toUtf8, used_iff.mp hu, hd]

end Charset

namespace Job

/-- What the work on a file can come to, with its blocks and issues. -/
inductive ComesTo (t : Tools) (job : Job) : Outcome → List Block → List Issue → Prop
  | unreadable {e} (hr : t.reader job.path = .failed e) :
    ComesTo t job (.unreadable e) [] [⟨job.path, "", 0, .io e⟩]
  | readerBroke (hr : t.reader job.path = .broke) :
    ComesTo t job (.readerBroke (t.breakdown job.path)) []
      [⟨job.path, "", 0, .breakdown (t.breakdown job.path)⟩]
  | undecodable {b declared c body} (hr : t.reader job.path = .data b)
    (hc : job.plan.charset = some declared) (hu : Charset.Used declared b c body)
    (hd : c.decode body = none) :
    ComesTo t job (.undecodable c) [] [⟨job.path, "", 0, .message ⟨.undecodable, [c.name]⟩⟩]
  | extractorBroke {b text} (hr : t.reader job.path = .data b)
    (ht : Charset.Taken job.plan.charset b text)
    (he : t.extractor job.path text job.plan.language = none) :
    ComesTo t job (.extractorBroke (t.breakdown job.path)) []
      [⟨job.path, "", 0, .breakdown (t.breakdown job.path)⟩]
  | extracted {b text e} (hr : t.reader job.path = .data b)
    (ht : Charset.Taken job.plan.charset b text)
    (he : t.extractor job.path text job.plan.language = some e) :
    ComesTo t job (.extracted e) (e.blocks.entries.map fun (line, data) => ⟨job.path, line, data⟩)
      (e.issues.map fun i => { i with file := if i.file = "" then job.path else i.file })

variable {t : Tools} {job : Job} {o : Outcome} {bs : List Block} {is : List Issue}

theorem ComesTo.eq (h : job.ComesTo t o bs is) :
    o = job.outcome t ∧ bs = job.blocks t ∧ is = job.issues t := by
  unfold blocks issues outcome
  cases h with
  | unreadable hr | readerBroke hr =>
    simp [Outcome.of, hr, Outcome.blocks, Outcome.issues, Outcome.breakdown, Issue.inFile]
  | undecodable hr hc hu hd =>
    have hx := Charset.toUtf8_eq_error_iff.mpr ⟨_, _, hc, hu, hd⟩
    simp [Outcome.of, hr, Outcome.ofData, hx, Outcome.blocks, Outcome.issues, Issue.inFile]
  | extractorBroke hr ht he =>
    have hx := Charset.toUtf8_eq_ok_iff.mpr ht
    simp [Outcome.of, hr, Outcome.ofData, hx, he, Outcome.blocks, Outcome.issues, Outcome.breakdown,
      Issue.inFile]
  | extracted hr ht he =>
    have hx := Charset.toUtf8_eq_ok_iff.mpr ht
    have hi (i : Issue) : { i with file := if i.file = "" then job.path else i.file } =
        if i.file.isEmpty then { i with file := job.path } else i := by
      by_cases hf : i.file = "" <;> simp [hf]
    simp [Outcome.of, hr, Outcome.ofData, hx, he, Outcome.blocks, Outcome.issues, hi]

theorem exists_comesTo (t : Tools) (job : Job) : ∃ o bs is, job.ComesTo t o bs is := by
  cases hr : t.reader job.path with
  | failed e => exact ⟨_, _, _, .unreadable hr⟩
  | broke => exact ⟨_, _, _, .readerBroke hr⟩
  | data b =>
    cases hx : Charset.toUtf8 job.plan.charset b with
    | error c =>
      obtain ⟨declared, body, hc, hu, hd⟩ := Charset.toUtf8_eq_error_iff.mp hx
      exact ⟨_, _, _, .undecodable hr hc hu hd⟩
    | ok text =>
      have ht := Charset.toUtf8_eq_ok_iff.mp hx
      cases he : t.extractor job.path text job.plan.language with
      | none => exact ⟨_, _, _, .extractorBroke hr ht he⟩
      | some e => exact ⟨_, _, _, .extracted hr ht he⟩

theorem comesTo_iff :
    job.ComesTo t o bs is ↔ o = job.outcome t ∧ bs = job.blocks t ∧ is = job.issues t := by
  refine ⟨ComesTo.eq, ?_⟩
  rintro ⟨rfl, rfl, rfl⟩
  obtain ⟨o, bs, is, h⟩ := exists_comesTo t job
  obtain ⟨rfl, rfl, rfl⟩ := h.eq
  exact h

end Job

/-- The outcome, the blocks and the issues of a file are what the work on it comes to, and it comes
to nothing else. -/
def Tools.Gives (t : Tools) (outcome : Job → Outcome) (blocks : Job → List Block)
    (issues : Job → List Issue) : Prop :=
  ∀ job o bs is, job.ComesTo t o bs is ↔ o = outcome job ∧ bs = blocks job ∧ is = issues job

theorem Tools.gives (t : Tools) : t.Gives (Job.outcome t) (Job.blocks t) (Job.issues t) :=
  fun _ _ _ _ => Job.comesTo_iff

theorem Tools.Gives.eq {t : Tools} {outcome : Job → Outcome} {blocks : Job → List Block}
    {issues : Job → List Issue} (h : t.Gives outcome blocks issues) :
    outcome = Job.outcome t ∧ blocks = Job.blocks t ∧ issues = Job.issues t := by
  have hj (job : Job) := (h job _ _ _).mp (Job.comesTo_iff.mpr ⟨rfl, rfl, rfl⟩)
  exact ⟨funext fun job => (hj job).1.symm, funext fun job => (hj job).2.1.symm,
    funext fun job => (hj job).2.2.symm⟩

end CommentBlocks
