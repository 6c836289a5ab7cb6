import CommentBlocks.Proofs.Disk.Normal
import CommentBlocks.Proofs.Selection.Missing

namespace CommentBlocks

open CommentBlocks.Path

namespace Plan

open Selection

variable {d : Disk} {ls : Languages} {s : Selection} {plan : Plan} {entry entry' : String}
  {e e' : IoError}

theorem noEntry_of_ofSelection (h : ofSelection d ls s = .ok plan) (hm : entry ∈ s.paths)
    (hg : isGlob entry = false) (hl : d.lookup entry = .error e) :
    e = .system .noEntry ∧ s.entryFiles d plan.language entry = .ok [entry] := by
  obtain ⟨-, -, cands, hp, -⟩ := ofSelection_eq_ok_iff.mp h
  obtain ⟨files, hf⟩ := exists_candidates_iff.mp ⟨cands, hp⟩ entry hm
  by_cases he : e = .system .noEntry
  · subst he
    cases hs : endsInSlash entry with
    | true => simp [entryFiles, hg, hl, hs] at hf
    | false => exact ⟨rfl, entryFiles_of_missing hg hs hl⟩
  · rw [entryFiles_of_unreachable hg hl he] at hf
    cases hf

theorem identity_of_ofSelection (h : ofSelection d ls s = .ok plan) (hm : entry ∈ s.paths)
    (hg : isGlob entry = false) (hl : d.lookup entry = .error e) :
    d.identity entry = normalize (components entry) := by
  obtain ⟨rfl, -⟩ := noEntry_of_ofSelection h hm hg hl
  exact Disk.identity_of_missing hl

theorem count_identity_of_ofSelection (h : ofSelection d ls s = .ok plan) (hm : entry ∈ s.paths)
    (hg : isGlob entry = false) (hl : d.lookup entry = .error e) :
    (plan.files.map d.identity).count (d.identity entry) = 1 := by
  obtain ⟨-, hown⟩ := noEntry_of_ofSelection h hm hg hl
  obtain ⟨-, -, cands, hp, hfiles⟩ := ofSelection_eq_ok_iff.mp h
  rw [← hfiles]
  apply List.count_eq_one_of_mem
  · exact nodup_map_firstSpellings [] cands
  · exact identity_mem_firstSpellings (subset_candidates hp hm hown List.mem_cons_self)

theorem identity_eq_iff_detours (h : ofSelection d ls s = .ok plan)
    (hm : entry ∈ s.paths) (hm' : entry' ∈ s.paths)
    (hg : isGlob entry = false) (hg' : isGlob entry' = false)
    (hl : d.lookup entry = .error e) (hl' : d.lookup entry' = .error e') :
    d.identity entry = d.identity entry' ↔ Detours entry entry' := by
  rw [identity_of_ofSelection h hm hg hl, identity_of_ofSelection h hm' hg' hl', ← normal_eq_iff,
    normal_eq_iff_detours]

theorem countP_files_le_one (h : ofSelection d ls s = .ok plan) {kept : String → Bool}
    {k : List Component} (hk : ∀ path, kept path → d.identity path = k) :
    plan.files.countP kept ≤ 1 := by
  obtain ⟨-, -, cands, -, hfiles⟩ := ofSelection_eq_ok_iff.mp h
  have hone : (plan.files.map d.identity).count k ≤ 1 :=
    List.nodup_iff_count_le_one.mp (hfiles ▸ nodup_map_firstSpellings [] cands) k
  rw [List.count, List.countP_map] at hone
  exact (List.countP_mono_left fun path _ hp => by simpa using hk path hp).trans hone

/-- The normal form of a path leads up and then through names, behind the root of an absolute path,
and is its own normal form. A dot that is put in, or a name with a step up behind it, does not
change it, and two paths that have the same one differ in such detours alone. Of two entries that
name nothing and differ so, a plan keeps one at most, and it has one file with their normal form.
Entries that differ in anything else have two normal forms. -/
theorem normal_form_canonical :
    (∀ path, (∃ ups names, normalize (components path) = settled (isAbsolute path) ups names) ∧
      .here ∉ normalize (components path) ∧
      components (normal path) = normalize (components path) ∧
      normal (normal path) = normal path) ∧
    (∀ p q name, isAbsolute q = false → (Component.name name).IsRead →
      normal (join (join p ".") q) = normal (join p q) ∧
      normal (join (join (join p name) "..") q) = normal (join p q)) ∧
    (∀ p q, normal p = normal q ↔ Detours p q) ∧
    ∀ d ls s plan entry entry' e e', ofSelection d ls s = .ok plan →
      entry ∈ s.paths → entry' ∈ s.paths → isGlob entry = false → isGlob entry' = false →
      d.lookup entry = .error e → d.lookup entry' = .error e' →
      (plan.files.map d.identity).count (normalize (components entry)) = 1 ∧
      (normalize (components entry) = normalize (components entry') ↔ Detours entry entry') ∧
      (Detours entry entry' →
        plan.files.countP (fun path => path = entry ∨ path = entry') ≤ 1) := by
  refine ⟨fun path => ?_, fun p q name hq hn => ⟨?_, ?_⟩, fun p q => normal_eq_iff_detours, ?_⟩
  · obtain ⟨ups, names, hsettled⟩ := exists_normalize path
    refine ⟨⟨ups, names, hsettled⟩, ?_, components_normal path, normal_normal path⟩
    rw [hsettled]
    cases isAbsolute path <;> simp [settled]
  · exact normal_join (normal_join_here p) hq
  · exact normal_join (normal_join_up hn p) hq
  · intro d ls s plan entry entry' e e' h hm hm' hg hg' hl hl'
    have hid := identity_of_ofSelection h hm hg hl
    have hiff := identity_eq_iff_detours h hm hm' hg hg' hl hl'
    rw [← hid, ← identity_of_ofSelection h hm' hg' hl']
    refine ⟨count_identity_of_ofSelection h hm hg hl, hiff, fun hd => ?_⟩
    refine countP_files_le_one h (k := d.identity entry) fun path hp => ?_
    obtain rfl | rfl : path = entry ∨ path = entry' := by simpa using hp
    · rfl
    · exact (hiff.mpr hd).symm

theorem normal_form_canonical_mixed :
    Detours "gone/x" "./gone/y/../x" ∧
      ofSelection mixed ⟨[mixedLanguage]⟩ mixedSelection = .ok mixedPlan ∧
      mixedSelection.paths.countP (fun path => path = "gone/x" ∨ path = "./gone/y/../x") = 2 ∧
      mixedPlan.files.countP (fun path => path = "gone/x" ∨ path = "./gone/y/../x") ≤ 1 ∧
      (mixedPlan.files.map mixed.identity).count [.name "gone", .name "x"] = 1 ∧
      normal "/../a/b/../c" = normal "/.././a/c" := by
  obtain ⟨hx, hy⟩ := lookup_missing_mixed
  have hd : Detours "gone/x" "./gone/y/../x" := by decide
  obtain ⟨-, hjoin, -, hplan⟩ := normal_form_canonical
  obtain ⟨hone, -, hkept⟩ := hplan mixed ⟨[mixedLanguage]⟩ mixedSelection mixedPlan "gone/x"
    "./gone/y/../x" _ _ ofSelection_mixed (by decide) (by decide) (by decide) (by decide) hx hy
  have hn : (Component.name "b").IsRead := ⟨by decide, by decide⟩
  refine ⟨hd, ofSelection_mixed, by decide, hkept hd, hone, ?_⟩
  calc normal "/../a/b/../c" = normal "/../a/c" := (hjoin "/../a" "c" "b" (by decide) hn).2
    _ = normal "/.././a/c" := (hjoin "/.." "a/c" "b" (by decide) hn).1.symm

end Plan

end CommentBlocks
