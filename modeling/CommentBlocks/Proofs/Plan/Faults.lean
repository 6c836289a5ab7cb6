import CommentBlocks.Proofs.Disk.SameTree
import CommentBlocks.Run.Play
import Mathlib.Data.List.Forall2

namespace CommentBlocks

theorem exists_first_cons {α : Type} {good : α → Prop} {bad : List α → α → Prop} {a : α}
    {l : List α} :
    (∃ before x behind, a :: l = before ++ x :: behind ∧ (∀ y ∈ before, good y) ∧ bad before x) ↔
      bad [] a ∨ good a ∧ ∃ before x behind,
        l = before ++ x :: behind ∧ (∀ y ∈ before, good y) ∧ bad (a :: before) x := by
  constructor
  · rintro ⟨before, x, behind, hl, hg, hb⟩
    cases before with
    | nil =>
      obtain ⟨rfl, -⟩ := List.cons.inj hl
      exact .inl hb
    | cons y before =>
      obtain ⟨rfl, rfl⟩ := List.cons.inj hl
      obtain ⟨ha, hg⟩ := List.forall_mem_cons.mp hg
      exact .inr ⟨ha, before, x, behind, rfl, hg, hb⟩
  · rintro (hb | ⟨ha, before, x, behind, rfl, hg, hb⟩)
    · exact ⟨[], a, l, rfl, by simp, hb⟩
    · exact ⟨a :: before, x, behind, rfl, List.forall_mem_cons.mpr ⟨ha, hg⟩, hb⟩

namespace Selection

variable {s : Selection} {d : Disk} {language : Language}

/-- An entry stands for the same files on disks that have the same tree. -/
theorem entryFiles_sameTree {d' : Disk} (h : d.SameTree d') (entry : String) :
    s.entryFiles d' language entry = s.entryFiles d language entry := by
  simp only [entryFiles, globFiles, h.isDirectory, h.walk]
  split
  · rfl
  · have hl := h.lookup entry
    cases hd : d.lookup entry with
    | error e =>
      cases hd' : d'.lookup entry <;> simp_all [Except.map]
    | ok n =>
      cases hd' : d'.lookup entry with
      | error e => simp [hd, hd', Except.map] at hl
      | ok n' => cases n <;> cases n' <;> simp_all [Except.map, Node.bare]

theorem candidates_sameTree {d' : Disk} (h : d.SameTree d') (entries : List String) :
    s.candidates d' language entries = s.candidates d language entries := by
  induction entries with
  | nil => rfl
  | cons entry rest ih => simp only [candidates, entryFiles_sameTree h, ih]

theorem firstSpellings_sameTree {d' : Disk} (h : d.SameTree d') (seen : List (List Component))
    (paths : List String) : firstSpellings d' seen paths = firstSpellings d seen paths := by
  induction paths generalizing seen with
  | nil => rfl
  | cons path rest ih => simp only [firstSpellings, h.identity, ih]

theorem candidates_eq_error_iff {entries : List String} {i : Issue} :
    s.candidates d language entries = .error i ↔ ∃ before entry behind,
      entries = before ++ entry :: behind ∧
        (∀ e ∈ before, ∃ files, s.entryFiles d language e = .ok files) ∧
        ∃ cause, s.entryFiles d language entry = .error cause ∧ i = ⟨entry, "paths", 0, cause⟩ := by
  induction entries with
  | nil => simp [candidates]
  | cons entry rest ih =>
    rw [exists_first_cons, ← ih, candidates]
    cases s.entryFiles d language entry with
    | error cause => simp [eq_comm]
    | ok files => cases s.candidates d language rest <;> simp [Except.map]

end Selection

namespace Plan

variable {d : Disk} {ls : Languages} {s : Selection} {i : Issue}

theorem ofSelection_sameTree {d' : Disk} (h : d.SameTree d') (ls : Languages) (s : Selection) :
    ofSelection d' ls s = ofSelection d ls s := by
  simp only [ofSelection, Selection.candidates_sameTree h, Selection.firstSpellings_sameTree h]

theorem ofInputs_sameTree {d' : Disk} (h : d.SameTree d') (ls : Languages)
    (inputs : List (Option Selection)) : ofInputs d' ls inputs = ofInputs d ls inputs := by
  have hfrom (place : Nat) : ofInputsFrom d' ls place inputs = ofInputsFrom d ls place inputs := by
    induction inputs generalizing place with
    | nil => rfl
    | cons input rest ih =>
      cases input with
      | none => rfl
      | some s => simp only [ofInputsFrom, ofInput, ofSelection_sameTree h, ih]
  rw [ofInputs, ofInputs, hfrom]

def KnownEncoding (encoding : Option String) : Prop :=
  ∀ name, encoding = some name →
    Text.trim name = "" ∨ ∃ c, Charset.ofLabel? (Text.trim name) = some c

/-- What is wrong with a selection. Each reason counts only where those before it do not hold. -/
inductive Fault (d : Disk) (ls : Languages) (s : Selection) : Issue → Prop
  | encoding {name} (he : s.encoding = some name) (hn : Text.trim name ≠ "")
    (hc : Charset.ofLabel? (Text.trim name) = none) :
    Fault d ls s ⟨"", "encoding", 0, .message ⟨.unknownEncoding, [Text.trim name]⟩⟩
  | noLanguage (he : KnownEncoding s.encoding) (hl : Text.trim s.language = "") :
    Fault d ls s ⟨"", "language", 0, .message ⟨.required, []⟩⟩
  | language (he : KnownEncoding s.encoding) (hl : Text.trim s.language ≠ "")
    (hf : ls.find? (Text.trim s.language) = none) :
    Fault d ls s ⟨"", "language", 0, .message ⟨.unknownLanguage, [Text.trim s.language]⟩⟩
  | entry {language before entry behind cause} (he : KnownEncoding s.encoding)
    (hl : Text.trim s.language ≠ "") (hf : ls.find? (Text.trim s.language) = some language)
    (hp : s.paths = before ++ entry :: behind)
    (hb : ∀ e ∈ before, ∃ files, s.entryFiles d language e = .ok files)
    (hc : s.entryFiles d language entry = .error cause) :
    Fault d ls s ⟨entry, "paths", 0, cause⟩

/-- What is wrong with the selection at a place of a list, with its place as part of the field. -/
inductive InputFault (d : Disk) (ls : Languages) (place : Nat) : Option Selection → Issue → Prop
  | missing : InputFault d ls place none
    ⟨"", "inputs[" ++ toString place ++ "]", 0, .message ⟨.required, []⟩⟩
  | wrong {s : Selection} {i : Issue} (h : Fault d ls s i) : InputFault d ls place (some s)
    { i with field := "inputs[" ++ toString place ++ "]." ++ i.field }

theorem charset?_blank {name : String} (hn : Text.trim name = "") :
    charset? (some name) = .ok none := by
  simp [charset?, hn, Option.filter]

theorem charset?_unknown {name : String} (hn : Text.trim name ≠ "")
    (hc : Charset.ofLabel? (Text.trim name) = none) : charset? (some name) =
      .error ⟨"", "encoding", 0, .message ⟨.unknownEncoding, [Text.trim name]⟩⟩ := by
  simp [charset?, hn, hc, Option.filter, Issue.inField]

theorem charset?_known {name : String} {c : Charset}
    (hc : Charset.ofLabel? (Text.trim name) = some c) : ∃ c', charset? (some name) = .ok c' := by
  by_cases hn : Text.trim name = ""
  · exact ⟨none, charset?_blank hn⟩
  · cases c <;> simp [charset?, hn, hc, Option.filter]

theorem knownEncoding_iff {encoding : Option String} :
    KnownEncoding encoding ↔ ∃ c, charset? encoding = .ok c := by
  cases encoding with
  | none => simp [KnownEncoding, charset?]
  | some name =>
    by_cases hn : Text.trim name = ""
    · simp [KnownEncoding, charset?_blank, hn]
    · cases hc : Charset.ofLabel? (Text.trim name) with
      | none => simp [KnownEncoding, charset?_unknown, hn, hc]
      | some c => simpa [KnownEncoding, hc] using charset?_known hc

theorem charset?_eq_error_iff {encoding : Option String} :
    charset? encoding = .error i ↔ ∃ name, encoding = some name ∧ Text.trim name ≠ "" ∧
      Charset.ofLabel? (Text.trim name) = none ∧
      i = ⟨"", "encoding", 0, .message ⟨.unknownEncoding, [Text.trim name]⟩⟩ := by
  cases encoding with
  | none => simp [charset?]
  | some name =>
    by_cases hn : Text.trim name = ""
    · simp [charset?_blank, hn]
    · cases hc : Charset.ofLabel? (Text.trim name) with
      | none => simp [charset?_unknown, hn, hc, eq_comm (b := i)]
      | some c =>
        obtain ⟨c', hc'⟩ := charset?_known hc
        simp [hc, hc']

theorem language?_eq_ok_iff {name : String} {language : Language} :
    language? ls name = .ok language ↔
      Text.trim name ≠ "" ∧ ls.find? (Text.trim name) = some language := by
  by_cases hn : Text.trim name = ""
  · simp [language?, hn]
  · cases hf : ls.find? (Text.trim name) <;> simp [language?, hn, hf]

theorem language?_only {language : Language} (hn : language.id ≠ "")
    (ht : Text.trim language.id = language.id) :
    language? ⟨[language]⟩ language.id = .ok language := by
  refine language?_eq_ok_iff.mpr ⟨by rwa [ht], ?_⟩
  rw [ht]
  simp [Languages.find?, sameLetters]

theorem language?_eq_error_iff {name : String} :
    language? ls name = .error i ↔
      (Text.trim name = "" ∧ i = ⟨"", "language", 0, .message ⟨.required, []⟩⟩) ∨
        (Text.trim name ≠ "" ∧ ls.find? (Text.trim name) = none ∧
          i = ⟨"", "language", 0, .message ⟨.unknownLanguage, [Text.trim name]⟩⟩) := by
  by_cases hn : Text.trim name = ""
  · simp [language?, hn, Issue.inField, Message.just, eq_comm (b := i)]
  · cases hf : ls.find? (Text.trim name) <;>
      simp [language?, hn, hf, Issue.inField, eq_comm (b := i)]

theorem Fault.of_ofSelection (h : ofSelection d ls s = .error i) : Fault d ls s i := by
  cases he : charset? s.encoding with
  | error i' =>
    obtain rfl : i' = i := by simpa [ofSelection, he] using h
    obtain ⟨name, hs, hn, hc, rfl⟩ := charset?_eq_error_iff.mp he
    exact .encoding hs hn hc
  | ok c =>
    have hk := knownEncoding_iff.mpr ⟨c, he⟩
    cases hl : language? ls s.language with
    | error i' =>
      obtain rfl : i' = i := by simpa [ofSelection, he, hl] using h
      obtain ⟨hn, rfl⟩ | ⟨hn, hf, rfl⟩ := language?_eq_error_iff.mp hl
      · exact .noLanguage hk hn
      · exact .language hk hn hf
    | ok language =>
      obtain ⟨hn, hf⟩ := language?_eq_ok_iff.mp hl
      cases hp : s.candidates d language s.paths with
      | ok paths => simp [ofSelection, he, hl, hp] at h
      | error i' =>
        obtain rfl : i' = i := by simpa [ofSelection, he, hl, hp] using h
        obtain ⟨before, entry, behind, hs, hb, cause, hc, rfl⟩ :=
          Selection.candidates_eq_error_iff.mp hp
        exact .entry hk hn hf hs hb hc

theorem Fault.ofSelection_eq (h : Fault d ls s i) : ofSelection d ls s = .error i := by
  cases h with
  | encoding hs hn hc =>
    have he := charset?_eq_error_iff.mpr ⟨_, hs, hn, hc, rfl⟩
    simp [ofSelection, he]
  | noLanguage hk hn =>
    obtain ⟨c, he⟩ := knownEncoding_iff.mp hk
    have hl : language? ls s.language = .error _ := language?_eq_error_iff.mpr (.inl ⟨hn, rfl⟩)
    simp [ofSelection, he, hl]
  | language hk hn hf =>
    obtain ⟨c, he⟩ := knownEncoding_iff.mp hk
    have hl := language?_eq_error_iff.mpr (.inr ⟨hn, hf, rfl⟩)
    simp [ofSelection, he, hl]
  | entry hk hn hf hs hb hc =>
    obtain ⟨c, he⟩ := knownEncoding_iff.mp hk
    have hl := language?_eq_ok_iff.mpr ⟨hn, hf⟩
    have hp := Selection.candidates_eq_error_iff.mpr ⟨_, _, _, hs, hb, _, hc, rfl⟩
    simp [ofSelection, he, hl, hp]

theorem ofSelection_eq_error_iff : ofSelection d ls s = .error i ↔ Fault d ls s i :=
  ⟨Fault.of_ofSelection, Fault.ofSelection_eq⟩

theorem Fault.within_eq (h : Fault d ls s i) (place : Nat) :
    i.within (inputField place) =
      { i with field := "inputs[" ++ toString place ++ "]." ++ i.field } := by
  have hn : i.field ≠ "" := by
    cases h <;> simp
  simp only [Issue.within, inputField, String.isEmpty_iff, hn, if_false, String.append_assoc]
  rfl

theorem ofInput_eq_error_iff {place : Nat} {input : Option Selection} :
    ofInput d ls place input = .error i ↔ InputFault d ls place input i := by
  constructor
  · intro h
    cases input with
    | none =>
      cases h
      exact .missing
    | some s =>
      cases hs : ofSelection d ls s with
      | ok plan => simp [ofInput, hs, Except.mapError] at h
      | error i' =>
        have hf := Fault.of_ofSelection hs
        obtain rfl : i'.within (inputField place) = i := by
          simpa [ofInput, hs, Except.mapError] using h
        rw [hf.within_eq]
        exact .wrong hf
  · intro h
    cases h with
    | missing => rfl
    | wrong hf => simp [ofInput, hf.ofSelection_eq, Except.mapError, hf.within_eq]

def Accepts (d : Disk) (ls : Languages) (input : Option Selection) (plan : Plan) : Prop :=
  ∃ s, input = some s ∧ ofSelection d ls s = .ok plan

theorem ofInput_eq_ok_iff (place : Nat) {input : Option Selection} {plan : Plan} :
    ofInput d ls place input = .ok plan ↔ Accepts d ls input plan := by
  cases input with
  | none => simp [ofInput, Accepts]
  | some s => cases hs : ofSelection d ls s <;> simp [ofInput, Accepts, hs, Except.mapError]

theorem ofInputsFrom_eq_error_iff {place : Nat} {inputs : List (Option Selection)} :
    ofInputsFrom d ls place inputs = .error i ↔ ∃ before input behind,
      inputs = before ++ input :: behind ∧ (∀ x ∈ before, ∃ plan, Accepts d ls x plan) ∧
        InputFault d ls (place + before.length) input i := by
  induction inputs generalizing place with
  | nil => simp [ofInputsFrom]
  | cons input rest ih =>
    rw [exists_first_cons, ofInputsFrom]
    cases hi : ofInput d ls place input with
    | error i' =>
      have hn : ¬∃ plan, Accepts d ls input plan := by
        rintro ⟨plan, hp⟩
        simp [(ofInput_eq_ok_iff place).mpr hp] at hi
      have hf : InputFault d ls place input i ↔ i' = i := by
        simp [← ofInput_eq_error_iff, hi]
      simp [hn, hf]
    | ok plan =>
      have hy : ∃ plan, Accepts d ls input plan := ⟨plan, (ofInput_eq_ok_iff place).mp hi⟩
      have hf : ¬InputFault d ls place input i := by
        simp [← ofInput_eq_error_iff, hi]
      have hr : (ofInputsFrom d ls (place + 1) rest).map (plan :: ·) = .error i ↔
          ofInputsFrom d ls (place + 1) rest = .error i := by
        cases ofInputsFrom d ls (place + 1) rest <;> simp [Except.map]
      simp only [hr, ih, hy, hf, List.length_nil, List.length_cons, Nat.add_zero, false_or,
        true_and, Nat.add_assoc, Nat.add_comm 1]

theorem ofInputsFrom_eq_ok_iff {place : Nat} {inputs : List (Option Selection)}
    {plans : List Plan} : ofInputsFrom d ls place inputs = .ok plans ↔
      List.Forall₂ (Accepts d ls) inputs plans := by
  induction inputs generalizing place plans with
  | nil => simp [ofInputsFrom, eq_comm (b := plans)]
  | cons input rest ih =>
    rw [ofInputsFrom]
    cases plans with
    | nil =>
      cases ofInput d ls place input with
      | error i' => simp
      | ok plan => cases ofInputsFrom d ls (place + 1) rest <;> simp [Except.map]
    | cons plan plans =>
      rw [List.forall₂_cons, ← ofInput_eq_ok_iff place, ← @ih (place + 1)]
      cases ofInput d ls place input with
      | error i' => simp
      | ok plan => cases ofInputsFrom d ls (place + 1) rest <;> simp [Except.map]

theorem ofInputs_eq_error_iff {inputs : List (Option Selection)} :
    ofInputs d ls inputs = .error i ↔
      (inputs = [] ∧ i = ⟨"", "inputs", 0, .message ⟨.required, []⟩⟩) ∨
        ∃ before input behind, inputs = before ++ input :: behind ∧
          (∀ x ∈ before, ∃ plan, Accepts d ls x plan) ∧
          InputFault d ls before.length input i := by
  cases inputs with
  | nil => simp [ofInputs, Issue.inField, Message.just, eq_comm (b := i)]
  | cons input rest =>
    have h := @ofInputsFrom_eq_error_iff d ls i 0 (input :: rest)
    simpa [ofInputs, Nat.zero_add] using h

theorem ofInputs_eq_ok_iff {inputs : List (Option Selection)} {plans : List Plan} :
    ofInputs d ls inputs = .ok plans ↔ inputs ≠ [] ∧ List.Forall₂ (Accepts d ls) inputs plans := by
  cases inputs with
  | nil => simp [ofInputs]
  | cons input rest =>
    have h := @ofInputsFrom_eq_ok_iff d ls 0 (input :: rest) plans
    simpa [ofInputs] using h

theorem not_accepts_iff {input : Option Selection} :
    (∀ plan, ¬Accepts d ls input plan) ↔
      input = none ∨ ∃ s i, input = some s ∧ ofSelection d ls s = .error i := by
  cases input with
  | none => simp [Accepts]
  | some s => cases hs : ofSelection d ls s <;> simp [Accepts, hs]

theorem exists_forall₂_accepts_iff {inputs : List (Option Selection)} :
    (∃ plans, List.Forall₂ (Accepts d ls) inputs plans) ↔
      ∀ input ∈ inputs, ∃ plan, Accepts d ls input plan := by
  induction inputs with
  | nil => simp
  | cons input rest ih =>
    rw [List.forall_mem_cons, ← ih]
    constructor
    · rintro ⟨plans, h⟩
      cases h with
      | cons hp hr => exact ⟨⟨_, hp⟩, _, hr⟩
    · rintro ⟨⟨plan, hp⟩, plans, hr⟩
      exact ⟨plan :: plans, .cons hp hr⟩

theorem exists_ofInputs_eq_error_iff {inputs : List (Option Selection)} :
    (∃ i, ofInputs d ls inputs = .error i) ↔
      inputs = [] ∨ ∃ input ∈ inputs, ∀ plan, ¬Accepts d ls input plan := by
  have hok : (∃ plans, ofInputs d ls inputs = .ok plans) ↔
      inputs ≠ [] ∧ ∀ input ∈ inputs, ∃ plan, Accepts d ls input plan := by
    simp only [ofInputs_eq_ok_iff, exists_and_left, exists_forall₂_accepts_iff]
  have hor : (∃ i, ofInputs d ls inputs = .error i) ↔
      ¬∃ plans, ofInputs d ls inputs = .ok plans := by
    cases ofInputs d ls inputs <;> simp
  rw [hor, hok, not_and_or, not_not]
  simp

theorem ofInputsFrom_append {place : Nat} {before : List (Option Selection)}
    {input : Option Selection} (h : ∀ plan, ¬Accepts d ls input plan)
    (behind behind' : List (Option Selection)) :
    ofInputsFrom d ls place (before ++ input :: behind) =
      ofInputsFrom d ls place (before ++ input :: behind') := by
  induction before generalizing place with
  | nil =>
    cases hi : ofInput d ls place input with
    | error i' => simp [ofInputsFrom, hi]
    | ok plan => exact absurd ((ofInput_eq_ok_iff place).mp hi) (h plan)
  | cons x before ih => simp only [List.cons_append, ofInputsFrom, ih]

theorem ofInputs_append {before : List (Option Selection)} {input : Option Selection}
    (h : ∀ plan, ¬Accepts d ls input plan) (behind behind' : List (Option Selection)) :
    ofInputs d ls (before ++ input :: behind) = ofInputs d ls (before ++ input :: behind') := by
  have hn (rest : List (Option Selection)) : (before ++ input :: rest).isEmpty = false := by
    cases before <;> rfl
  rw [ofInputs, ofInputs, hn, hn, ofInputsFrom_append h behind behind']

end Plan

namespace Run

variable (limits : Limits) (d : Disk) (ls : Languages) (inputs : List (Option Selection))

/-- A run is begun only if nothing is wrong with any selection. Otherwise the first selection with a
fault decides, with the first of its faults, and those behind it make no difference. A run that is
begun has the files of all plans before it, in order, and nothing has been read or reported yet. In
either case the content of no file has been looked at: it may be any other. -/
theorem ofInputs_first_fault :
    ((∃ i, ofInputs limits d ls inputs = .error i) ↔
      inputs = [] ∨ ∃ input ∈ inputs,
        input = none ∨ ∃ s i, input = some s ∧ Plan.ofSelection d ls s = .error i) ∧
      (∀ i, ofInputs limits d ls inputs = .error i ↔
        (inputs = [] ∧ i = ⟨"", "inputs", 0, .message ⟨.required, []⟩⟩) ∨
          ∃ before input behind, inputs = before ++ input :: behind ∧
            (∀ x ∈ before, ∃ plan, Plan.Accepts d ls x plan) ∧
            Plan.InputFault d ls before.length input i) ∧
      (∀ s i, Plan.ofSelection d ls s = .error i ↔ Plan.Fault d ls s i) ∧
      (∀ before input behind behind', inputs = before ++ input :: behind →
        (∀ plan, ¬Plan.Accepts d ls input plan) →
        ofInputs limits d ls (before ++ input :: behind') = ofInputs limits d ls inputs) ∧
      (∀ r, ofInputs limits d ls inputs = .ok r ↔
        inputs ≠ [] ∧ ∃ plans, List.Forall₂ (Plan.Accepts d ls) inputs plans ∧
          r = start limits (plans.map Plan.jobs)) ∧
      (∀ plans, inputs ≠ [] → List.Forall₂ (Plan.Accepts d ls) inputs plans →
        ∃ r, ofInputs limits d ls inputs = .ok r ∧
          r.dispatcher = .between (plans.map fun p => p.files.map fun path => ⟨p, path⟩) ∧
          r.workers = [] ∧ r.commons.stream = [] ∧ r.received = [] ∧ r.commons.issues = []) ∧
      ∀ d', d.SameTree d' → ofInputs limits d' ls inputs = ofInputs limits d ls inputs := by
  have herror (i : Issue) : ofInputs limits d ls inputs = .error i ↔
      Plan.ofInputs d ls inputs = .error i := by
    rw [ofInputs]
    cases Plan.ofInputs d ls inputs <;> simp [Except.map]
  have hok (r : Run) : ofInputs limits d ls inputs = .ok r ↔
      ∃ plans, Plan.ofInputs d ls inputs = .ok plans ∧ r = start limits (plans.map Plan.jobs) := by
    rw [ofInputs]
    cases Plan.ofInputs d ls inputs <;> simp [Except.map, eq_comm (b := r)]
  refine ⟨?_, fun i => (herror i).trans Plan.ofInputs_eq_error_iff,
    fun s i => Plan.ofSelection_eq_error_iff, ?_, fun r => ?_, fun plans hn hp => ?_, fun d' h => ?_⟩
  · simp only [herror, Plan.exists_ofInputs_eq_error_iff, Plan.not_accepts_iff]
  · rintro before input behind behind' rfl hn
    rw [ofInputs, ofInputs, Plan.ofInputs_append hn behind' behind]
  · simp only [hok, Plan.ofInputs_eq_ok_iff, and_assoc, exists_and_left]
  · refine ⟨_, (hok _).mpr ⟨plans, Plan.ofInputs_eq_ok_iff.mpr ⟨hn, hp⟩, rfl⟩, ?_⟩
    exact ⟨rfl, rfl, rfl, rfl, rfl⟩
  · rw [ofInputs, ofInputs, Plan.ofInputs_sameTree h]

end Run

end CommentBlocks
