import CommentBlocks.Proofs.Run.Dispatch
import CommentBlocks.Proofs.Run.Played
import CommentBlocks.Proofs.Selection.Spellings

namespace CommentBlocks

open CommentBlocks.Path

namespace Disk

variable {d : Disk} {path : String} {e : IoError}

theorem reader_of_missing (h : d.lookup path = .error e) : d.reader path = .failed e := by
  simp [reader, read, h, bind, Except.bind]

end Disk

namespace Selection

variable {s : Selection} {d : Disk} {language : Language} {entry : String} {e : IoError}

theorem entryFiles_of_missing (hg : isGlob entry = false) (hs : endsInSlash entry = false)
    (hl : d.lookup entry = .error (.system .noEntry)) :
    s.entryFiles d language entry = .ok [entry] := by
  simp [entryFiles, hg, hl, hs]

theorem entryFiles_of_unreachable (hg : isGlob entry = false) (hl : d.lookup entry = .error e)
    (he : e ≠ .system .noEntry) : s.entryFiles d language entry = .error (.io e) := by
  simp [entryFiles, hg, hl]

end Selection

namespace Plan

open Selection

variable {d : Disk} {ls : Languages} {s : Selection} {plan : Plan} {entry : String} {e : IoError}

def withFiles (plan : Plan) (files : List String) : Plan := { plan with files := files }

theorem tally_withFiles {α : Type} {f : Job → List α} {files : List String}
    (hf : ∀ p, f ⟨plan.withFiles files, p⟩ = f ⟨plan, p⟩) :
    tally f (plan.withFiles files).jobs = tally (fun p => f ⟨plan, p⟩) files := by
  have hfiles : (plan.withFiles files).files = files := rfl
  simp only [jobs, hfiles, tally_map, hf]

/-- What a run gives for one more file is what comes of that file. -/
theorem run_withFiles {front back : List String} {path : String} (hp : plan.files = front ++ back)
    {t : Tools} {limits limits' : Limits} {before behind : List (List Job)} {r r' : Run}
    (hs : Run.Steps t (.start limits (before ++ plan.jobs :: behind)) r)
    (hs' : Run.Steps t
      (.start limits' (before ++ (plan.withFiles (front ++ path :: back)).jobs :: behind)) r')
    (he : r.ended = true) (he' : r'.ended = true) (hr : r.isRaised = false)
    (hr' : r'.isRaised = false) :
    (r'.received : Multiset Block) = r.received + Job.blocks t ⟨plan, path⟩ ∧
      (r'.commons.issues : Multiset Issue) = r.commons.issues + Job.issues t ⟨plan, path⟩ := by
  have hone : ∀ {α : Type} (f : Job → List α),
      (∀ p, f ⟨plan.withFiles (front ++ path :: back), p⟩ = f ⟨plan, p⟩) →
      tally f (before ++ (plan.withFiles (front ++ path :: back)).jobs :: behind).flatten =
        tally f (before ++ plan.jobs :: behind).flatten + f ⟨plan, path⟩ := by
    intro α f hf
    have hold : tally f plan.jobs = tally (fun p => f ⟨plan, p⟩) (front ++ back) := by
      rw [jobs, tally_map, hp]
    simp only [List.flatten_append, List.flatten_cons, tally_append, tally_withFiles hf, hold,
      tally_cons]
    abel
  obtain ⟨hb, hi⟩ := Run.given_of_uncut hs he hr
  obtain ⟨hb', hi'⟩ := Run.given_of_uncut hs' he' hr'
  rw [hb, hi, hb', hi']
  exact ⟨hone _ fun _ => rfl, hone _ fun _ => rfl⟩

theorem firstSpellings_insert_fresh {front back : List String}
    (h : d.identity entry ∉ (front ++ back).map d.identity) :
    ∃ kept, firstSpellings d [] (front ++ back) = firstSpellings d [] front ++ kept ∧
      firstSpellings d [] (front ++ entry :: back) =
        firstSpellings d [] front ++ entry :: kept ∧ (back = [] → kept = []) := by
  rw [List.map_append, List.mem_append, not_or] at h
  refine ⟨firstSpellings d (front.map d.identity) back, ?_, ?_, ?_⟩
  · rw [firstSpellings_append, List.append_nil]
  · rw [firstSpellings_append, List.append_nil, firstSpellings, if_neg (by simpa using h.1),
      firstSpellings_cons_of_not_mem h.2]
  · rintro rfl
    rfl

/-- A path that has the identity of one of the others adds no identity, though it may be kept in the
place of another. -/
theorem perm_firstSpellings_insert {front back : List String}
    (h : d.identity entry ∈ (front ++ back).map d.identity) :
    ((firstSpellings d [] (front ++ entry :: back)).map d.identity).Perm
      ((firstSpellings d [] (front ++ back)).map d.identity) := by
  refine (List.perm_ext_iff_of_nodup (nodup_map_firstSpellings _ _)
    (nodup_map_firstSpellings _ _)).mpr fun k => ?_
  rw [mem_map_firstSpellings, mem_map_firstSpellings]
  simp only [List.map_append, List.map_cons, List.mem_append, List.mem_cons, List.not_mem_nil,
    not_false_eq_true, and_true] at h ⊢
  constructor
  · rintro (hf | rfl | hb)
    · exact .inl hf
    · exact h
    · exact .inr hb
  · exact fun hf => hf.imp_right .inr

theorem candidates_insert {language : Language} {before behind cands files : List String}
    (hp : s.candidates d language (before ++ behind) = .ok cands)
    (hf : s.entryFiles d language entry = .ok files) :
    ∃ front back, front ++ back = cands ∧ (behind = [] → back = []) ∧
      s.candidates d language (before ++ entry :: behind) = .ok (front ++ (files ++ back)) := by
  obtain ⟨front, back, hfront, hback, rfl⟩ := candidates_append_eq_ok_iff.mp hp
  refine ⟨front, back, rfl, ?_, candidates_append_eq_ok_iff.mpr ⟨front, _, hfront, ?_, rfl⟩⟩
  · rintro rfl
    exact (Except.ok.inj hback).symm
  · exact candidates_cons_eq_ok_iff.mpr ⟨files, back, hf, hback, rfl⟩

theorem ofSelection_unreachable (h : ofSelection d ls s = .ok plan) (hg : isGlob entry = false)
    (hl : d.lookup entry = .error e) (he : e ≠ .system .noEntry) {before behind : List String}
    (hpaths : s.paths = before ++ behind) :
    ofSelection d ls { s with paths := before ++ entry :: behind } =
      .error ⟨entry, "paths", 0, .io e⟩ := by
  obtain ⟨-, -, cands, hp, -⟩ := ofSelection_eq_ok_iff.mp h
  rw [hpaths] at hp
  have hfirst : s.candidates d plan.language (before ++ entry :: behind) =
      .error ⟨entry, "paths", 0, .io e⟩ := by
    refine candidates_eq_error_iff.mpr
      ⟨before, entry, behind, rfl, fun b hb => ?_, .io e, ?_, rfl⟩
    · exact exists_candidates_iff.mp ⟨cands, hp⟩ b (List.mem_append_left _ hb)
    · exact entryFiles_of_unreachable hg hl he
  rw [ofSelection_withPaths h, hfirst]
  rfl

/-- An entry that is not there is a file of the plan at its place, unless a file of the plan has the
same identity, which is the normal form of its spelling. When the file is read it is missed, which
makes one more issue of the run and changes nothing else. An entry that cannot be looked up for any
other reason is an error, wherever it is put among the entries. -/
theorem missing_entry (h : ofSelection d ls s = .ok plan) (hg : isGlob entry = false)
    (hs : endsInSlash entry = false) (hl : d.lookup entry = .error e) {before behind : List String}
    (hpaths : s.paths = before ++ behind) :
    (e ≠ .system .noEntry →
      ofSelection d ls { s with paths := before ++ entry :: behind } =
        .error ⟨entry, "paths", 0, .io e⟩) ∧
    (e = .system .noEntry → d.identity entry = normalize (components entry) ∧
      (d.identity entry ∈ plan.files.map d.identity → ∃ files,
        ofSelection d ls { s with paths := before ++ entry :: behind } =
            .ok (plan.withFiles files) ∧
          (files.map d.identity).Perm (plan.files.map d.identity) ∧
          (behind = [] → files = plan.files)) ∧
      (d.identity entry ∉ plan.files.map d.identity → ∃ front back, plan.files = front ++ back ∧
        ofSelection d ls { s with paths := before ++ entry :: behind } =
            .ok (plan.withFiles (front ++ entry :: back)) ∧
          (behind = [] → back = []) ∧
          ∀ (t : Tools) (limits limits' : Limits) (gs gs' : List (List Job)) (r r' : Run),
            t.reader = d.reader →
            Run.Steps t (.start limits (gs ++ plan.jobs :: gs')) r →
            Run.Steps t
              (.start limits' (gs ++ (plan.withFiles (front ++ entry :: back)).jobs :: gs')) r' →
            r.ended = true → r'.ended = true →
            r.isRaised = false → r'.isRaised = false →
            (r'.received : Multiset Block) = r.received ∧
              (r'.commons.issues : Multiset Issue) =
                ⟨entry, "", 0, .io (.system .noEntry)⟩ ::ₘ r.commons.issues)) := by
  refine ⟨fun he => ofSelection_unreachable h hg hl he hpaths, ?_⟩
  rintro rfl
  obtain ⟨-, -, cands, hp, hfiles⟩ := ofSelection_eq_ok_iff.mp h
  rw [hpaths] at hp
  have hown : s.entryFiles d plan.language entry = .ok [entry] := entryFiles_of_missing hg hs hl
  obtain ⟨front, back, rfl, hback, hall⟩ := candidates_insert hp hown
  have hbuild : ofSelection d ls { s with paths := before ++ entry :: behind } =
      .ok (plan.withFiles (firstSpellings d [] (front ++ entry :: back))) := by
    rw [ofSelection_withPaths h, hall]
    rfl
  have hmem : d.identity entry ∈ plan.files.map d.identity ↔
      d.identity entry ∈ (front ++ back).map d.identity := by
    rw [← hfiles, mem_map_firstSpellings]
    simp
  rw [hmem]
  refine ⟨Disk.identity_of_missing hl,
    fun hk => ⟨_, hbuild, hfiles ▸ perm_firstSpellings_insert hk, fun hbehind => ?_⟩,
    fun hk => ?_⟩
  · obtain rfl := hback hbehind
    rw [List.append_nil] at hk
    rw [firstSpellings_append, firstSpellings_single, List.append_nil, if_pos hk,
      List.append_nil, ← hfiles, List.append_nil]
  · obtain ⟨kept, hold, hnew, hkept⟩ := firstSpellings_insert_fresh hk
    have hsplit : plan.files = firstSpellings d [] front ++ kept := hfiles ▸ hold
    refine ⟨_, kept, hsplit, hnew ▸ hbuild, fun hb => hkept (hback hb), ?_⟩
    intro t limits limits' gs gs' r r' ht hsteps hsteps' he he' hr hr'
    obtain ⟨hb, hi⟩ := run_withFiles hsplit hsteps hsteps' he he' hr hr'
    have ho : Job.outcome t ⟨plan, entry⟩ = .unreadable (.system .noEntry) := by
      simp [Job.outcome, Outcome.of, ht, Disk.reader_of_missing hl]
    rw [hb, hi, Job.blocks, Job.issues, ho]
    refine ⟨add_zero _, ?_⟩
    rw [add_comm]
    rfl

def lone : Disk where
  root := .directory [("a.go", .file [])]
  working := []
  named := by
    have hn : IsName "a.go" := by decide
    simp [Node.wellNamed_directory_iff, Node.wellNamed_file, hn]

def loneLanguage : Language := ⟨"go", "Go", ["go"], []⟩

def loneSelection : Selection := ⟨["a.go"], "go", none, false, []⟩

def lonePlan : Plan := ⟨["a.go"], none, loneLanguage⟩

theorem resolve_lone : lone.resolve "a.go" = .ok ["a.go"] ∧
    lone.resolve "gone.go" = .error (.system .noEntry) ∧
    lone.resolve "a.go/x" = .error (.system .notDirectory) := by
  have hroot : lone.root.get? [] = some (.directory _) := rfl
  have ha : lone.root.get? ([] ++ ["a.go"]) = some (.file []) := rfl
  have hgone : Disk.Spells "gone.go" [.name "gone.go"] := by decide
  have hunder : Disk.Spells "a.go/x" [.name "a.go", .name "x"] := by decide
  refine ⟨Disk.resolve_names ["a.go"] (by decide) rfl (by simp), ?_, ?_⟩
  · exact hgone.resolve_eq_error (Disk.follow_missing hroot (by decide) rfl [])
  · exact hunder.resolve_eq_error
      ((Disk.follow_name ha (by simp) _).trans (Disk.follow_behind_file ha _ []))

theorem lookup_lone : lone.lookup "a.go" = .ok (.file []) ∧
    lone.lookup "gone.go" = .error (.system .noEntry) ∧
    lone.lookup "a.go/x" = .error (.system .notDirectory) :=
  ⟨Disk.lookup_eq_ok_iff.mpr ⟨_, resolve_lone.1, rfl⟩,
    Disk.lookup_of_resolve_error resolve_lone.2.1, Disk.lookup_of_resolve_error resolve_lone.2.2⟩

theorem identity_lone : lone.identity "a.go" = [.root, .name "a.go"] :=
  Disk.identity_of_resolve resolve_lone.1 (by decide)

theorem ofSelection_lone : ofSelection lone ⟨[loneLanguage]⟩ loneSelection = .ok lonePlan := by
  have hl : language? ⟨[loneLanguage]⟩ "go" = .ok loneLanguage :=
    language?_only (by decide) (by decide)
  have hfile : loneSelection.entryFiles lone loneLanguage "a.go" = .ok ["a.go"] := by
    have hg : isGlob "a.go" = false := by decide
    simp [entryFiles, hg, lookup_lone.1]
  exact ofSelection_eq_ok_iff.mpr ⟨rfl, hl, ["a.go"],
    candidates_cons_eq_ok_iff.mpr ⟨_, [], hfile, rfl, rfl⟩, rfl⟩

theorem missing_entry_lone :
    lone.lookup "gone.go" = .error (.system .noEntry) ∧
      lone.lookup "a.go/x" = .error (.system .notDirectory) ∧
      ofSelection lone ⟨[loneLanguage]⟩ { loneSelection with paths := ["a.go", "a.go/x"] } =
        .error ⟨"a.go/x", "paths", 0, .io (.system .notDirectory)⟩ ∧
      ofSelection lone ⟨[loneLanguage]⟩ { loneSelection with paths := ["a.go", "gone.go"] } =
        .ok (lonePlan.withFiles ["a.go", "gone.go"]) ∧
      ∀ t : Tools, t.reader = lone.reader →
        (((Run.start .standard [(lonePlan.withFiles ["a.go", "gone.go"]).jobs]).drained
            t).commons.issues : Multiset Issue) =
          ⟨"gone.go", "", 0, .io (.system .noEntry)⟩ ::ₘ
            ((Run.start .standard [lonePlan.jobs]).drained t).commons.issues := by
  obtain ⟨-, hgone, hunder⟩ := lookup_lone
  have hpaths : loneSelection.paths = ["a.go"] ++ [] := rfl
  have hfresh : lone.identity "gone.go" ∉ lonePlan.files.map lone.identity := by
    rw [lonePlan, List.map_singleton, identity_lone, Disk.identity_of_missing hgone]
    decide
  obtain ⟨-, -, h⟩ := (missing_entry ofSelection_lone (by decide) (by decide) hgone hpaths).2 rfl
  obtain ⟨front, back, hsplit, hbuild, hback, hrun⟩ := h hfresh
  obtain rfl := hback rfl
  obtain rfl : ["a.go"] = front := by simpa [lonePlan] using hsplit
  refine ⟨hgone, hunder, ?_, hbuild, fun t ht => ?_⟩
  · exact (missing_entry ofSelection_lone (by decide) (by decide) hunder hpaths).1 (by decide)
  · have hsignal (groups : List (List Job)) :
        ((Run.start .standard groups).drained t).isRaised = false :=
      Run.isRaised_congr (Run.frame_settle t true _).2.1
    exact (hrun t .standard .standard [] [] _ _ ht (Run.steps_settle t true _)
      (Run.steps_settle t true _) (Run.ended_drained (.start _ _) rfl)
      (Run.ended_drained (.start _ _) rfl) (hsignal _) (hsignal _)).2

/-- Not every entry that names nothing is kept to be missed when it is read: one that goes on behind
a file is an error. -/
theorem file_as_directory_is_error :
    ¬ (∀ (d : Disk) (ls : Languages) (s : Selection) (plan : Plan) (entry : String) (e : IoError),
      ofSelection d ls s = .ok plan → isGlob entry = false → endsInSlash entry = false →
      d.lookup entry = .error e →
      ∃ plan', ofSelection d ls { s with paths := s.paths ++ [entry] } = .ok plan') := by
  intro h
  obtain ⟨-, -, hunder⟩ := lookup_lone
  obtain ⟨plan', hp⟩ := h lone ⟨[loneLanguage]⟩ loneSelection lonePlan "a.go/x" _ ofSelection_lone
    (by decide) (by decide) hunder
  obtain ⟨-, -, cands, hc, -⟩ := ofSelection_eq_ok_iff.mp hp
  obtain ⟨files, hf⟩ := exists_candidates_iff.mp ⟨cands, hc⟩ "a.go/x" (by simp)
  rw [entryFiles_of_unreachable (by decide) hunder (by decide)] at hf
  cases hf

end Plan

end CommentBlocks
