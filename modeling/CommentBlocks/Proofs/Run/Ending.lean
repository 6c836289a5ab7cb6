import CommentBlocks.Proofs.Disk.Spelled
import CommentBlocks.Proofs.Plan.Faults
import CommentBlocks.Proofs.Run.Dispatch
import CommentBlocks.Proofs.Run.Played
import CommentBlocks.Proofs.Worker.Endings

namespace CommentBlocks

theorem Limits.effective_le_most (n : Nat) : effective n ≤ most := by
  have : 1 ≤ most := by decide
  unfold effective
  omega

theorem Job.ComesTo.of_not_extracted {t : Tools} {job : Job} {o : Outcome} {bs : List Block}
    {is : List Issue} (h : job.ComesTo t o bs is) (hn : ∀ e, o ≠ .extracted e) :
    bs = [] ∧ ∃ cause, is = [⟨job.path, "", 0, cause⟩] := by
  cases h with
  | extracted => exact absurd rfl (hn _)
  | unreadable | readerBroke | undecodable | extractorBroke => exact ⟨rfl, _, rfl⟩

namespace Run

variable {limits : Limits} {d : Disk} {ls : Languages} {inputs : List (Option Selection)}
  {plans : List Plan} {t : Tools} {r₀ r : Run}

theorem eq_start_of_ofInputs (hv : Plan.ofInputs d ls inputs = .ok plans)
    (h₀ : ofInputs limits d ls inputs = .ok r₀) : r₀ = start limits (plans.map Plan.jobs) := by
  rw [ofInputs, hv] at h₀
  exact (Except.ok.inj h₀).symm

theorem read_of_ended (h : Orderly r) (he : r.ended = true) : r.read = r.dispatched := by
  have hd := (h.ended he).1
  rw [read, dispatched, List.filter_eq_self.mpr fun w hw =>
    Phase.hasRead_of_isOver (h.over_of_returned hd hw)]

theorem tally_jobs {α : Type} (f : Job → List α) (plans : List Plan) :
    tally f (plans.flatMap Plan.jobs) =
      (plans.map fun p => (p.files.map fun path => (f ⟨p, path⟩ : Multiset α)).sum).sum := by
  have h := tally_flatMap f Plan.jobs plans
  simp only [Plan.jobs, tally_map] at h
  exact h

section Sample

def sampleLanguage : Language := ⟨"go", "Go", ["go"], [.line [Bytes.slash, Bytes.slash]]⟩

def sampleInputs : List (Option Selection) :=
  [some ⟨["a", "b"], "go", none, false, []⟩, some ⟨["c"], "go", none, false, []⟩]

def samplePlans : List Plan := [⟨["a", "b"], none, sampleLanguage⟩, ⟨["c"], none, sampleLanguage⟩]

def sampleDisk : Disk where
  root := .directory []
  working := []
  named := Node.wellNamed_directory_iff.mpr (by simp)

def sampleTools : Tools where
  reader path :=
    if path = "a" then .data (Bytes.ofText "//A\n\n//B")
    else if path = "b" then .broke
    else .failed (.plain .notFound)
  extractor := extract
  breakdown path := path ++ " broke"

def sampleStart : Run := start ⟨0, 0⟩ (samplePlans.map Plan.jobs)

/-- The first worker waits with its second block until the first one is received, and the other
workers wait for its permit. -/
def sampleEvents : List Event :=
  List.flatten [List.replicate 3 .dispatch, List.replicate 5 (.work 0),
    List.replicate 9 .dispatch, [.receive, .work 0, .receive, .work 0],
    List.replicate 2 (.work 1), List.replicate 5 (.work 2), List.replicate 4 .dispatch, [.receive]]

def sampleCut : List Event :=
  List.flatten [List.replicate 5 .dispatch, [.raise [.clone 0, .clone 2, .raise 3]],
    List.replicate 2 .dispatch, List.replicate 5 (.work 0), [.receive, .work 0, .work 0, .receive],
    List.replicate 2 (.work 1), List.replicate 3 .dispatch, [.receive]]

def sampleRun (events : List Event) : Run := sampleStart.play sampleTools events

theorem steps_sample (events : List Event) : Steps sampleTools sampleStart (sampleRun events) :=
  steps_play _ _ _

theorem language?_sample : Plan.language? ⟨[sampleLanguage]⟩ "go" = .ok sampleLanguage :=
  Plan.language?_only (by decide) (by decide)

theorem lookup_sample {path : String} (h : path ∈ ["a", "b", "c"]) :
    sampleDisk.lookup path = .error (.system .noEntry) := by
  have hnames : ∀ path ∈ ["a", "b", "c"],
      Disk.Spells path [.name path] ∧ Path.IsName path := by
    decide
  have hroot : sampleDisk.root.get? [] = some (.directory []) := rfl
  obtain ⟨hs, hn⟩ := hnames path h
  exact Disk.lookup_of_resolve_error (hs.resolve_eq_error (Disk.follow_missing hroot hn rfl []))

theorem entryFiles_sample (s : Selection) {path : String} (h : path ∈ ["a", "b", "c"]) :
    s.entryFiles sampleDisk sampleLanguage path = .ok [path] := by
  have hplain : ∀ path ∈ ["a", "b", "c"],
      Selection.isGlob path = false ∧ Path.endsInSlash path = false := by
    decide
  simp [Selection.entryFiles, lookup_sample h, hplain path h]

theorem ofInputs_sample :
    Plan.ofInputs sampleDisk ⟨[sampleLanguage]⟩ sampleInputs = .ok samplePlans := by
  have ha : sampleDisk.identity "a" = _ := Disk.identity_of_missing (lookup_sample (by decide))
  have hb : sampleDisk.identity "b" = _ := Disk.identity_of_missing (lookup_sample (by decide))
  have hne : Path.normalize (Path.components "b") ≠ Path.normalize (Path.components "a") := by
    decide
  simp [Plan.ofInputs, sampleInputs, Plan.ofInputsFrom, Plan.ofInput, Plan.ofSelection,
    Plan.charset?, language?_sample, Selection.candidates, entryFiles_sample,
    Selection.firstSpellings, ha, hb, hne, Except.map, Except.mapError, samplePlans]

theorem ofInputs_sampleStart :
    ofInputs ⟨0, 0⟩ sampleDisk ⟨[sampleLanguage]⟩ sampleInputs = .ok sampleStart := by
  rw [ofInputs, ofInputs_sample]
  rfl

end Sample

/-- At the end of the stream of a run in which the signal was not raised, the blocks received and
the issues reported are those that all files of all plans come to, each file by itself. A file that
gives no extract has one issue and no block, and no limit is out of bounds. -/
theorem received_of_ended (hv : Plan.ofInputs d ls inputs = .ok plans)
    (h₀ : ofInputs limits d ls inputs = .ok r₀) (hs : Steps t r₀ r)
    (hr : r.isRaised = false) (he : r.ended = true) :
    ∃ outcome blocks issues, t.Gives outcome blocks issues ∧
      (r.received : Multiset Block) =
        (plans.map fun p => (p.files.map fun path =>
          (blocks ⟨p, path⟩ : Multiset Block)).sum).sum ∧
      (r.commons.issues : Multiset Issue) =
        (plans.map fun p => (p.files.map fun path =>
          (issues ⟨p, path⟩ : Multiset Issue)).sum).sum ∧
      (∀ job, (∀ e, outcome job ≠ .extracted e) →
        blocks job = [] ∧ ∃ cause, issues job = [⟨job.path, "", 0, cause⟩]) ∧
      (1 ≤ r₀.commons.free ∧ r₀.commons.free ≤ Limits.most) ∧
      (1 ≤ r₀.commons.capacity ∧ r₀.commons.capacity ≤ Limits.most) := by
  obtain rfl := eq_start_of_ofInputs hv h₀
  obtain ⟨hblocks, hissues⟩ := given_of_uncut hs he hr
  rw [← List.flatMap_def, tally_jobs] at hblocks hissues
  refine ⟨_, _, _, t.gives, hblocks, hissues, fun job hn => ?_, ⟨?_, ?_⟩, ?_, ?_⟩
  · exact Job.ComesTo.of_not_extracted (Job.comesTo_iff.mpr ⟨rfl, rfl, rfl⟩) hn
  · exact Limits.one_le_effective _
  · exact Limits.effective_le_most _
  · exact Limits.one_le_effective _
  · exact Limits.effective_le_most _

theorem received_of_ended_sample :
    (sampleRun sampleEvents).isRaised = false ∧ (sampleRun sampleEvents).ended = true ∧
      ((sampleRun sampleEvents).received : Multiset Block) =
        ([⟨"a", 1, [65]⟩, ⟨"a", 3, [66]⟩] : List Block) ∧
      ((sampleRun sampleEvents).commons.issues : Multiset Issue) =
        ([⟨"b", "", 0, .breakdown "b broke"⟩, ⟨"c", "", 0, .io (.plain .notFound)⟩] :
          List Issue) := by
  have hr : (sampleRun sampleEvents).isRaised = false := by decide +kernel
  have he : (sampleRun sampleEvents).ended = true := by decide +kernel
  obtain ⟨_, _, _, hg, hblocks, hissues, -⟩ :=
    received_of_ended ofInputs_sample ofInputs_sampleStart (steps_sample _) hr he
  obtain ⟨-, rfl, rfl⟩ := hg.eq
  refine ⟨hr, he, ?_, ?_⟩
  · rw [hblocks]
    decide +kernel
  · rw [hissues]
    decide +kernel

/-- The signal cuts off a last part of the files and changes nothing else. The files handed out come
first in the order of all files. At the end of the stream each of them has been read and has given
what it comes to by itself, and no other file has given anything. No file is handed out behind a
look at the raised signal. It is raised through any clone of it and through no other signal,
whatever else has been requested of signals; if it was raised before the start then nothing is done
at all. While somebody listens the run can go on to its end, and it has ended if nothing more can
happen. -/
theorem dispatched_cut_by_signal (hv : Plan.ofInputs d ls inputs = .ok plans)
    (h₀ : ofInputs limits d ls inputs = .ok r₀) (hs : Steps t r₀ r) :
    ∃ outcome blocks issues, t.Gives outcome blocks issues ∧
      r.dispatched <+: plans.flatMap Plan.jobs ∧
      (r.ended = true →
        r.read = r.dispatched ∧
        (r.received : Multiset Block) =
          (r.dispatched.map fun j => (blocks j : Multiset Block)).sum ∧
        (r.commons.issues : Multiset Issue) =
          (r.dispatched.map fun j => (issues j : Multiset Issue)).sum ∧
        (r.isRaised = false → r.dispatched = plans.flatMap Plan.jobs)) ∧
      (∀ r₁ r₂, r.dispatcher.Looks → r.isRaised = true → r.dispatch? = some r₁ →
        Steps t r₁ r₂ → r₂.dispatched = r.dispatched) ∧
      (∃ history, r.signals = (Signal.serveAll .empty history).1 ∧
        (r.isRaised = true ↔ ∃ n, Shared.Kin (Signal.events history) signal n ∧
          (.raise n, .done) ∈ Signal.answered history) ∧
        ∀ requests, (∃ r', r.fire? t (.raise requests) = some r') ↔
          r.isRaised = false ∧ ∃ n, Shared.Kin (Signal.events (history ++ requests)) signal n ∧
            (.raise n, .done) ∈ Signal.answered (history ++ requests)) ∧
      (∀ requests r₁ r₂, r₀.fire? t (.raise requests) = some r₁ → Steps t r₁ r₂ →
        r₂.dispatched = [] ∧ r₂.read = [] ∧ r₂.received = [] ∧ r₂.commons.issues = []) ∧
      (r.commons.isOpen = true →
        (∃ r', Steps t r r' ∧ r'.ended = true) ∧ (AtRest t r → r.ended = true)) := by
  obtain rfl := eq_start_of_ofInputs hv h₀
  have hb : Balanced t r := .steps hs (.start limits _)
  have ho : InOrder (plans.map Plan.jobs) r := hs.keeps (.start limits _) InOrder.move
  have hp : Supplied limits r := hs.keeps (.start limits _) Supplied.move
  obtain ⟨history, hh⟩ := exists_fromRequests hs
  rw [List.flatMap_def]
  refine ⟨_, _, _, t.gives, ho.isPrefix, fun he => ?_, fun r₁ r₂ hl hr h₁ h₂ => ?_,
    ⟨history, hh.1, hh.isRaised_iff, fun requests => ?_⟩, fun requests r₁ r₂ h₁ h₂ => ?_,
    fun hl => ⟨⟨_, steps_settle t true r, ended_drained hp hl⟩, fun ha => ha.ended hp hl⟩⟩
  · obtain ⟨hblocks, hissues⟩ := hb.given he
    exact ⟨read_of_ended hb.orderly he, hblocks, hissues,
      ho.dispatched_eq (hb.orderly.ended he).1⟩
  · exact (h₂.keeps (through_of_looks hl hr h₁) through_move).2
  · rw [← (hh.requested requests).isRaised_iff]
    simp [fire?]
  · obtain ⟨⟨-, hr⟩, rfl⟩ := by simpa [fire?] using h₁
    have hu : Untouched r₂ := h₂.keeps ⟨hr, .inl ⟨_, rfl⟩, rfl, rfl, rfl, rfl⟩ Untouched.move
    simp [dispatched, read, hu.workers, hu.received, hu.issues]

theorem dispatched_cut_by_signal_sample :
    (sampleRun sampleCut).ended = true ∧ (sampleRun sampleCut).isRaised = true ∧
      (sampleRun sampleCut).dispatched.map Job.path = ["a", "b"] ∧
      (sampleRun sampleCut).read.map Job.path = ["a", "b"] ∧
      ((sampleRun sampleCut).received : Multiset Block) =
        ([⟨"a", 1, [65]⟩, ⟨"a", 3, [66]⟩] : List Block) ∧
      ((sampleRun sampleCut).commons.issues : Multiset Issue) =
        ([⟨"b", "", 0, .breakdown "b broke"⟩] : List Issue) := by
  have he : (sampleRun sampleCut).ended = true := by decide +kernel
  have hr : (sampleRun sampleCut).isRaised = true := by decide +kernel
  have hd : (sampleRun sampleCut).dispatched =
      [⟨⟨["a", "b"], none, sampleLanguage⟩, "a"⟩, ⟨⟨["a", "b"], none, sampleLanguage⟩, "b"⟩] := by
    decide +kernel
  obtain ⟨_, _, _, hg, -, hend, -⟩ :=
    dispatched_cut_by_signal ofInputs_sample ofInputs_sampleStart (steps_sample sampleCut)
  obtain ⟨-, rfl, rfl⟩ := hg.eq
  obtain ⟨hread, hblocks, hissues, -⟩ := hend he
  rw [hread, hblocks, hissues, hd]
  refine ⟨he, hr, rfl, rfl, ?_, ?_⟩
  · decide +kernel
  · decide +kernel

end Run

end CommentBlocks
