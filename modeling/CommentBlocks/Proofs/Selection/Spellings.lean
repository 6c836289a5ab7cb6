import CommentBlocks.Proofs.Disk.Spelled
import CommentBlocks.Proofs.Plan.Faults
import Mathlib.Data.List.Induction

namespace CommentBlocks

namespace Selection

variable {s : Selection} {d : Disk} {language : Language}

def Fresh (d : Disk) (before : List String) (path : String) : Prop :=
  ∀ p ∈ before, d.identity p ≠ d.identity path

instance (d : Disk) (before : List String) (path : String) : Decidable (Fresh d before path) :=
  inferInstanceAs (Decidable (∀ p ∈ before, d.identity p ≠ d.identity path))

theorem fresh_iff {before : List String} {path : String} :
    Fresh d before path ↔ d.identity path ∉ before.map d.identity := by
  simp [Fresh]

theorem firstSpellings_congr {seen seen' : List (List Component)} (h : ∀ k, k ∈ seen ↔ k ∈ seen')
    (paths : List String) : firstSpellings d seen paths = firstSpellings d seen' paths := by
  induction paths generalizing seen seen' with
  | nil => rfl
  | cons path rest ih =>
    have hc : seen.contains (d.identity path) = seen'.contains (d.identity path) := by
      rw [Bool.eq_iff_iff, List.contains_iff_mem, List.contains_iff_mem, h]
    rw [firstSpellings, firstSpellings, hc, ih h]
    congr 2
    apply ih
    intro k
    rw [List.mem_cons, List.mem_cons, h]

theorem firstSpellings_append (seen : List (List Component)) (paths more : List String) :
    firstSpellings d seen (paths ++ more) =
      firstSpellings d seen paths ++ firstSpellings d (paths.map d.identity ++ seen) more := by
  induction paths generalizing seen with
  | nil => rfl
  | cons path rest ih =>
    rw [List.cons_append, firstSpellings, firstSpellings]
    by_cases hs : seen.contains (d.identity path) = true
    · rw [if_pos hs, if_pos hs, ih]
      congr 1
      apply firstSpellings_congr
      intro k
      have hm := List.contains_iff_mem.mp hs
      simp only [List.map_cons, List.cons_append, List.mem_cons, List.mem_append]
      constructor
      · exact .inr
      · rintro (rfl | h)
        · exact .inr hm
        · exact h
    · rw [if_neg hs, if_neg hs, ih, List.cons_append]
      congr 2
      apply firstSpellings_congr
      intro k
      simp only [List.map_cons, List.cons_append, List.mem_cons, List.mem_append]
      tauto

theorem firstSpellings_of_seen {seen : List (List Component)} {paths : List String}
    (h : ∀ path ∈ paths, d.identity path ∈ seen) : firstSpellings d seen paths = [] := by
  induction paths with
  | nil => rfl
  | cons path rest ih =>
    obtain ⟨hp, hr⟩ := List.forall_mem_cons.mp h
    rw [firstSpellings, if_pos (List.contains_iff_mem.mpr hp), ih hr]

theorem firstSpellings_insert {front own : List String}
    (h : ∀ path ∈ own, d.identity path ∈ front.map d.identity) (back : List String) :
    firstSpellings d [] (front ++ (own ++ back)) = firstSpellings d [] (front ++ back) := by
  rw [firstSpellings_append, firstSpellings_append, firstSpellings_append, List.append_nil,
    firstSpellings_of_seen h, List.nil_append]
  congr 1
  apply firstSpellings_congr
  intro k
  rw [List.mem_append, or_iff_right_iff_imp]
  rintro hk
  obtain ⟨path, hp, rfl⟩ := List.mem_map.mp hk
  exact h path hp

theorem firstSpellings_cons_of_not_mem {seen : List (List Component)} {k : List Component}
    {paths : List String} (h : k ∉ paths.map d.identity) :
    firstSpellings d (k :: seen) paths = firstSpellings d seen paths := by
  induction paths generalizing seen with
  | nil => rfl
  | cons path rest ih =>
    rw [List.map_cons, List.mem_cons, not_or] at h
    have hc : (k :: seen).contains (d.identity path) = seen.contains (d.identity path) := by
      simp [Ne.symm h.1]
    have hswap : firstSpellings d (d.identity path :: k :: seen) rest =
        firstSpellings d (k :: d.identity path :: seen) rest := by
      apply firstSpellings_congr
      simp only [List.mem_cons]
      tauto
    rw [firstSpellings, firstSpellings, hc, hswap, ih h.2, ih h.2]

theorem firstSpellings_single (seen : List (List Component)) (path : String) :
    firstSpellings d seen [path] = if d.identity path ∈ seen then [] else [path] := by
  simp [firstSpellings]

theorem mem_map_firstSpellings {seen : List (List Component)} {paths : List String}
    {k : List Component} :
    k ∈ (firstSpellings d seen paths).map d.identity ↔ k ∈ paths.map d.identity ∧ k ∉ seen := by
  induction paths generalizing seen with
  | nil => simp [firstSpellings]
  | cons path rest ih =>
    rw [firstSpellings]
    by_cases hs : seen.contains (d.identity path) = true
    · have hm := List.contains_iff_mem.mp hs
      rw [if_pos hs, ih, List.map_cons, List.mem_cons]
      constructor
      · rintro ⟨hk, hn⟩
        exact ⟨.inr hk, hn⟩
      · rintro ⟨rfl | hk, hn⟩
        · exact absurd hm hn
        · exact ⟨hk, hn⟩
    · have hm : d.identity path ∉ seen := fun h => hs (List.contains_iff_mem.mpr h)
      rw [if_neg hs, List.map_cons, List.mem_cons, ih, List.map_cons, List.mem_cons, List.mem_cons]
      constructor
      · rintro (rfl | ⟨hk, hn⟩)
        · exact ⟨.inl rfl, hm⟩
        · exact ⟨.inr hk, fun h => hn (.inr h)⟩
      · rintro ⟨rfl | hk, hn⟩
        · exact .inl rfl
        · by_cases he : k = d.identity path
          · exact .inl he
          · exact .inr ⟨hk, by rintro (h | h) <;> contradiction⟩

theorem nodup_map_firstSpellings (seen : List (List Component)) (paths : List String) :
    ((firstSpellings d seen paths).map d.identity).Nodup := by
  induction paths generalizing seen with
  | nil => exact List.nodup_nil
  | cons path rest ih =>
    rw [firstSpellings]
    by_cases hs : seen.contains (d.identity path) = true
    · rw [if_pos hs]
      exact ih seen
    · rw [if_neg hs, List.map_cons, List.nodup_cons]
      refine ⟨fun h => ?_, ih _⟩
      exact (mem_map_firstSpellings.mp h).2 List.mem_cons_self

/-- A path is kept if and only if it is fresh behind those in front of it. -/
theorem firstSpellings_eq_filter (paths : List String) :
    firstSpellings d [] paths =
      (paths.zipIdx.filter fun (path, i) => Fresh d (paths.take i) path).map Prod.fst := by
  induction paths using List.reverseRecOn with
  | nil => rfl
  | append_singleton paths path ih =>
    have hfront : (paths.zipIdx.filter fun (p, i) => Fresh d ((paths ++ [path]).take i) p) =
        paths.zipIdx.filter fun (p, i) => Fresh d (paths.take i) p := by
      apply List.filter_congr
      rintro ⟨p, i⟩ hm
      have hi : i ≤ paths.length := by
        have := (List.mem_zipIdx hm).2.1
        omega
      simp only [List.take_append_of_le_length hi]
    rw [firstSpellings_append, List.append_nil, firstSpellings_single, List.zipIdx_append,
      List.filter_append, hfront, List.map_append, ← ih]
    congr 1
    by_cases hk : d.identity path ∈ paths.map d.identity
    · have hf : ¬Fresh d paths path := fun h => fresh_iff.mp h hk
      simp [hk, hf]
    · have hf : Fresh d paths path := fresh_iff.mpr hk
      simp [hk, hf]

theorem identity_mem_firstSpellings {paths : List String} {path : String} (h : path ∈ paths) :
    d.identity path ∈ (firstSpellings d [] paths).map d.identity :=
  mem_map_firstSpellings.mpr ⟨List.mem_map_of_mem h, List.not_mem_nil⟩

theorem exists_fresh {paths : List String} {i : Nat} {path : String} (h : paths[i]? = some path) :
    ∃ j ≤ i, ∃ p, paths[j]? = some p ∧ d.identity p = d.identity path ∧
      Fresh d (paths.take j) p := by
  induction i using Nat.strongRecOn generalizing path with
  | ind i ih =>
    by_cases hf : Fresh d (paths.take i) path
    · exact ⟨i, Nat.le_refl i, path, h, rfl, hf⟩
    · obtain ⟨q, hq, he⟩ : ∃ q ∈ paths.take i, d.identity q = d.identity path := by
        simpa [Fresh] using hf
      obtain ⟨k, hk, hkq⟩ := List.mem_take_iff_getElem.mp hq
      obtain ⟨j, hj, p, hp, hi, hfp⟩ := ih k (by omega) (List.getElem?_eq_some_iff.mpr ⟨_, hkq⟩)
      exact ⟨j, by omega, p, hp, hi.trans he, hfp⟩

/-- What an entry stands for does not depend on the other entries. -/
theorem candidates_withPaths (paths entries : List String) :
    { s with paths := paths }.candidates d language entries = s.candidates d language entries := by
  induction entries with
  | nil => rfl
  | cons entry rest ih =>
    rw [candidates, candidates, ih]
    rfl

theorem candidates_cons_eq_ok_iff {entry : String} {more all : List String} :
    s.candidates d language (entry :: more) = .ok all ↔
      ∃ files files', s.entryFiles d language entry = .ok files ∧
        s.candidates d language more = .ok files' ∧ files ++ files' = all := by
  rw [candidates]
  cases s.entryFiles d language entry <;> cases s.candidates d language more <;> simp [Except.map]

theorem candidates_eq_ok_iff {entries cands : List String} :
    s.candidates d language entries = .ok cands ↔
      ∃ lists, List.Forall₂ (fun entry files => s.entryFiles d language entry = .ok files)
        entries lists ∧ lists.flatten = cands := by
  induction entries generalizing cands with
  | nil => simp [candidates]
  | cons entry rest ih =>
    simp only [candidates_cons_eq_ok_iff, ih, List.forall₂_cons_left_iff]
    constructor
    · rintro ⟨files, _, hf, ⟨lists, hl, rfl⟩, rfl⟩
      exact ⟨files :: lists, ⟨files, lists, hf, hl, rfl⟩, rfl⟩
    · rintro ⟨_, ⟨files, lists, hf, hl, rfl⟩, rfl⟩
      exact ⟨files, _, hf, ⟨lists, hl, rfl⟩, rfl⟩

theorem exists_candidates_iff {entries : List String} :
    (∃ cands, s.candidates d language entries = .ok cands) ↔
      ∀ entry ∈ entries, ∃ files, s.entryFiles d language entry = .ok files := by
  induction entries with
  | nil => simp [candidates]
  | cons entry rest ih =>
    rw [List.forall_mem_cons, ← ih]
    simp only [candidates_cons_eq_ok_iff]
    constructor
    · rintro ⟨_, files, files', hf, hr, -⟩
      exact ⟨⟨files, hf⟩, files', hr⟩
    · rintro ⟨⟨files, hf⟩, files', hr⟩
      exact ⟨_, files, files', hf, hr, rfl⟩

theorem subset_candidates {entries cands files : List String} {entry : String}
    (h : s.candidates d language entries = .ok cands) (hm : entry ∈ entries)
    (hf : s.entryFiles d language entry = .ok files) : files ⊆ cands := by
  induction entries generalizing cands with
  | nil => cases hm
  | cons first rest ih =>
    obtain ⟨own, more, hown, hmore, rfl⟩ := candidates_cons_eq_ok_iff.mp h
    rcases List.mem_cons.mp hm with rfl | hm
    · obtain rfl := Except.ok.inj (hf.symm.trans hown)
      exact List.subset_append_left _ _
    · exact List.subset_append_of_subset_right _ (ih hmore hm)

theorem candidates_append (entries more : List String) :
    s.candidates d language (entries ++ more) =
      (s.candidates d language entries).bind fun files =>
        (s.candidates d language more).map (files ++ ·) := by
  induction entries with
  | nil => cases h : s.candidates d language more <;> simp [candidates, h, Except.bind, Except.map]
  | cons entry rest ih =>
    rw [List.cons_append, candidates, candidates]
    cases s.entryFiles d language entry with
    | error cause => rfl
    | ok files =>
      rw [ih]
      cases s.candidates d language rest with
      | error i => rfl
      | ok front => cases s.candidates d language more <;> simp [Except.bind, Except.map]

theorem candidates_append_eq_ok_iff {entries more all : List String} :
    s.candidates d language (entries ++ more) = .ok all ↔
      ∃ files files', s.candidates d language entries = .ok files ∧
        s.candidates d language more = .ok files' ∧ files ++ files' = all := by
  rw [candidates_append]
  cases s.candidates d language entries <;> cases s.candidates d language more <;>
    simp [Except.bind, Except.map]

end Selection

namespace Plan

open Selection

variable {d : Disk} {ls : Languages} {s : Selection} {plan : Plan}

theorem ofSelection_eq_ok_iff : ofSelection d ls s = .ok plan ↔
    charset? s.encoding = .ok plan.charset ∧ language? ls s.language = .ok plan.language ∧
      ∃ cands, s.candidates d plan.language s.paths = .ok cands ∧
        firstSpellings d [] cands = plan.files := by
  obtain ⟨files, charset, language⟩ := plan
  rw [ofSelection]
  cases charset? s.encoding with
  | error i => simp
  | ok c =>
    cases language? ls s.language with
    | error i => simp
    | ok l =>
      constructor
      · intro h
        cases hp : s.candidates d l s.paths with
        | error i => simp [hp] at h
        | ok cands =>
          obtain ⟨rfl, rfl, rfl⟩ :
              firstSpellings d [] cands = files ∧ c = charset ∧ l = language := by
            simpa [hp] using h
          exact ⟨rfl, rfl, cands, hp, rfl⟩
      · rintro ⟨hc, hl, cands, hp, rfl⟩
        cases hc
        cases hl
        simp [hp]

theorem ofSelection_withPaths (h : ofSelection d ls s = .ok plan) (paths : List String) :
    ofSelection d ls { s with paths := paths } =
      (s.candidates d plan.language paths).map fun cands =>
        { plan with files := firstSpellings d [] cands } := by
  obtain ⟨hc, hl, -⟩ := ofSelection_eq_ok_iff.mp h
  simp only [ofSelection, hc, hl, candidates_withPaths]
  cases s.candidates d plan.language paths <;> rfl

theorem exists_files_of_append (h : ofSelection d ls s = .ok plan) {more : List String}
    {plan' : Plan} (hm : ofSelection d ls { s with paths := s.paths ++ more } = .ok plan') :
    ∃ files, plan' = { plan with files := plan.files ++ files } := by
  obtain ⟨-, -, cands, hp, hf⟩ := ofSelection_eq_ok_iff.mp h
  rw [ofSelection_withPaths h] at hm
  cases hc : s.candidates d plan.language (s.paths ++ more) with
  | error i => simp [hc, Except.map] at hm
  | ok all =>
    obtain ⟨files, files', hfront, -, rfl⟩ := candidates_append_eq_ok_iff.mp hc
    obtain rfl : files = cands := Except.ok.inj (hfront.symm.trans hp)
    obtain rfl : _ = plan' := by simpa [hc, Except.map] using hm
    exact ⟨_, by rw [firstSpellings_append, hf]⟩

theorem ofSelection_repeated (h : ofSelection d ls s = .ok plan) {entry : String}
    {before middle behind : List String} (hs : s.paths = before ++ entry :: (middle ++ behind)) :
    ofSelection d ls { s with paths := before ++ entry :: (middle ++ entry :: behind) } =
      .ok plan := by
  obtain ⟨-, -, cands, hp, hf⟩ := ofSelection_eq_ok_iff.mp h
  rw [hs] at hp
  obtain ⟨front, rest, hfront, hrest, rfl⟩ := candidates_append_eq_ok_iff.mp hp
  obtain ⟨own, rest', hown, hrest', rfl⟩ := candidates_cons_eq_ok_iff.mp hrest
  obtain ⟨mid, back, hmid, hback, rfl⟩ := candidates_append_eq_ok_iff.mp hrest'
  have hrepeated : s.candidates d plan.language (middle ++ entry :: behind) =
      .ok (mid ++ (own ++ back)) :=
    candidates_append_eq_ok_iff.mpr
      ⟨mid, _, hmid, candidates_cons_eq_ok_iff.mpr ⟨own, back, hown, hback, rfl⟩, rfl⟩
  have hall : s.candidates d plan.language (before ++ entry :: (middle ++ entry :: behind)) =
      .ok (front ++ (own ++ (mid ++ (own ++ back)))) :=
    candidates_append_eq_ok_iff.mpr
      ⟨front, _, hfront, candidates_cons_eq_ok_iff.mpr ⟨own, _, hown, hrepeated, rfl⟩, rfl⟩
  have hseen : ∀ path ∈ own, d.identity path ∈ (front ++ (own ++ mid)).map d.identity := by
    intro path hm
    apply List.mem_map_of_mem
    simp [hm]
  have hkept := firstSpellings_insert hseen back
  simp only [List.append_assoc] at hkept
  rw [ofSelection_withPaths h, hall, Except.map, hkept, hf]

/-- The files of a plan are those files of its entries, in the order of the entries, of which the
identity does not occur in front of them. So no identity occurs twice, and each is that of a path
kept where it occurs first. More entries at the end only add to the files at the end, and an entry
that is repeated adds nothing. -/
theorem files_are_first_spellings (h : ofSelection d ls s = .ok plan) :
    ∃ lists cands, List.Forall₂
        (fun entry files => s.entryFiles d plan.language entry = .ok files) s.paths lists ∧
      lists.flatten = cands ∧
      plan.files = (cands.zipIdx.filter fun (path, i) => Fresh d (cands.take i) path).map Prod.fst ∧
      (plan.files.map d.identity).Nodup ∧
      (∀ i path, cands[i]? = some path → ∃ j ≤ i, ∃ p, cands[j]? = some p ∧
        d.identity p = d.identity path ∧ Fresh d (cands.take j) p ∧ p ∈ plan.files) ∧
      (∀ more plan', ofSelection d ls { s with paths := s.paths ++ more } = .ok plan' →
        ∃ files, plan' = { plan with files := plan.files ++ files }) ∧
      (∀ before entry middle behind, s.paths = before ++ entry :: (middle ++ behind) →
        ofSelection d ls { s with paths := before ++ entry :: (middle ++ entry :: behind) } =
          .ok plan) := by
  obtain ⟨-, -, cands, hp, hf⟩ := ofSelection_eq_ok_iff.mp h
  obtain ⟨lists, hl, hj⟩ := candidates_eq_ok_iff.mp hp
  have hfilter := firstSpellings_eq_filter (d := d) cands
  refine ⟨lists, cands, hl, hj, hf ▸ hfilter, hf ▸ nodup_map_firstSpellings [] _,
    fun i path hi => ?_, fun more plan' => exists_files_of_append h,
    fun before entry middle behind => ofSelection_repeated h⟩
  obtain ⟨j, hj, p, hpj, hid, hfresh⟩ := exists_fresh (d := d) hi
  refine ⟨j, hj, p, hpj, hid, hfresh, ?_⟩
  rw [← hf, hfilter]
  refine List.mem_map.mpr ⟨(p, j), List.mem_filter.mpr ⟨?_, by simpa using hfresh⟩, rfl⟩
  exact List.mem_zipIdx_iff_getElem?.mpr hpj

def mixed : Disk where
  root := .directory
    [("a.go", .file []), ("l.go", .link "a.go"), ("sub", .directory [("b.go", .file [])])]
  working := []
  named := by
    have hn : ∀ name ∈ ["a.go", "l.go", "sub", "b.go"], Path.IsName name := by decide
    simp_all [Node.wellNamed_directory_iff, Node.wellNamed_file, Node.wellNamed_link]

def mixedLanguage : Language := ⟨"go", "Go", ["go"], []⟩

def mixedSelection : Selection :=
  ⟨["l.go", "sub/../a.go", "gone/x", "./gone/y/../x", "sub"], "go", none, false, []⟩

def mixedPlan : Plan := ⟨["l.go", "gone/x", "sub/b.go"], none, mixedLanguage⟩

theorem resolve_mixed : mixed.resolve "l.go" = .ok ["a.go"] ∧
    mixed.resolve "sub/../a.go" = .ok ["a.go"] ∧ mixed.resolve "sub" = .ok ["sub"] ∧
    mixed.resolve "sub/b.go" = .ok ["sub", "b.go"] := by
  have ha : mixed.root.get? ([] ++ ["a.go"]) = some (.file []) := rfl
  have hl : mixed.root.get? ([] ++ ["l.go"]) = some (.link "a.go") := rfl
  have hsub : mixed.root.get? ([] ++ ["sub"]) = some (.directory _) := rfl
  have htarget : Disk.Spells "a.go" [.name "a.go"] := by decide
  have hlink : Disk.Spells "l.go" [.name "l.go"] := by decide
  have hup : Disk.Spells "sub/../a.go" [.name "sub", .up, .name "a.go"] := by decide
  refine ⟨?_, ?_, Disk.resolve_names ["sub"] (by decide) rfl (by simp),
    Disk.resolve_names ["sub", "b.go"] (by decide) rfl (by simp)⟩
  · refine hlink.resolve_eq_ok ((Disk.follow_link hl htarget []).trans ?_)
    exact (Disk.follow_name ha (by simp) []).trans Disk.follow_nil
  · refine hup.resolve_eq_ok ((Disk.follow_name hsub (by simp) _).trans ?_)
    rw [Disk.follow_up hsub]
    exact (Disk.follow_name ha (by simp) []).trans Disk.follow_nil

theorem lookup_missing_mixed : mixed.lookup "gone/x" = .error (.system .noEntry) ∧
    mixed.lookup "./gone/y/../x" = .error (.system .noEntry) := by
  have hroot : mixed.root.get? [] = some (.directory _) := rfl
  have hgone : Path.IsName "gone" := by decide
  have hx : Disk.Spells "gone/x" [.name "gone", .name "x"] := by decide
  have hy : Disk.Spells "./gone/y/../x" [.here, .name "gone", .name "y", .up, .name "x"] := by
    decide
  constructor <;> apply Disk.lookup_of_resolve_error
  · exact hx.resolve_eq_error (Disk.follow_missing hroot hgone rfl _)
  · exact hy.resolve_eq_error
      ((Disk.follow_here hroot _).trans (Disk.follow_missing hroot hgone rfl _))

theorem identity_mixed :
    ["l.go", "sub/../a.go", "gone/x", "./gone/y/../x", "sub/b.go"].map mixed.identity =
      [[.root, .name "a.go"], [.root, .name "a.go"], [.name "gone", .name "x"],
        [.name "gone", .name "x"], [.root, .name "sub", .name "b.go"]] := by
  obtain ⟨hl, hup, -, hb⟩ := resolve_mixed
  obtain ⟨hx, hy⟩ := lookup_missing_mixed
  have hnormal : Path.normalize (Path.components "gone/x") = [.name "gone", .name "x"] ∧
      Path.normalize (Path.components "./gone/y/../x") = [.name "gone", .name "x"] := by
    decide
  simp only [List.map_cons, List.map_nil, Disk.identity_of_resolve hl (by decide),
    Disk.identity_of_resolve hup (by decide), Disk.identity_of_resolve hb (by decide),
    Disk.identity_of_missing hx, Disk.identity_of_missing hy, hnormal]

theorem candidates_mixed : mixedSelection.candidates mixed mixedLanguage mixedSelection.paths =
    .ok ["l.go", "sub/../a.go", "gone/x", "./gone/y/../x", "sub/b.go"] := by
  obtain ⟨hl, hup, hr, -⟩ := resolve_mixed
  obtain ⟨hx, hy⟩ := lookup_missing_mixed
  have hfile : mixed.root.get? ["a.go"] = some (.file []) := rfl
  have hll := Disk.lookup_eq_ok_iff.mpr ⟨_, hl, hfile⟩
  have hla := Disk.lookup_eq_ok_iff.mpr ⟨_, hup, hfile⟩
  have hd : Path.components "sub" ≠ [.name "-"] := by decide
  have hsub : mixed.root.get? ["sub"] = some (.directory [("b.go", .file [])]) := rfl
  have hs := Disk.lookup_eq_ok_iff.mpr ⟨_, hr, hsub⟩
  have ho : Node.inOrder [("b.go", .file [])] = [("b.go", .file [])] :=
    List.mergeSort_of_pairwise (by decide)
  have hwalk : mixed.walk (fun _ _ => false) (some 1) "sub" = .ok ["sub/b.go"] := by
    rw [Disk.walk, if_neg hd, hr]
    simp [hsub, ho, Disk.walkEntries, Path.join, Path.endsInSlash, Except.bind, Except.map]
  have hw : mixedSelection.wants mixedLanguage "sub/b.go" = true := by decide
  have hslash : Path.endsInSlash "gone/x" = false ∧ Path.endsInSlash "./gone/y/../x" = false := by
    decide
  simp [mixedSelection, candidates, entryFiles, isGlob, hll, hla, hx, hy, hs, hslash, hwalk,
    Except.map]
  exact hw

theorem ofSelection_mixed :
    ofSelection mixed ⟨[mixedLanguage]⟩ mixedSelection = .ok mixedPlan := by
  have hl : language? ⟨[mixedLanguage]⟩ "go" = .ok mixedLanguage :=
    language?_only (by decide) (by decide)
  refine ofSelection_eq_ok_iff.mpr ⟨rfl, hl, _, candidates_mixed, ?_⟩
  have hi := identity_mixed
  simp only [List.map_cons, List.map_nil, List.cons.injEq, and_true] at hi
  obtain ⟨h₁, h₂, h₃, h₄, h₅⟩ := hi
  simp [firstSpellings, h₁, h₂, h₃, h₄, h₅, mixedPlan]

theorem files_are_first_spellings_mixed :
    ofSelection mixed ⟨[mixedLanguage]⟩ mixedSelection = .ok mixedPlan ∧
      (mixedPlan.files.map mixed.identity).Nodup ∧
      ofSelection mixed ⟨[mixedLanguage]⟩
          { mixedSelection with paths := mixedSelection.paths ++ ["sub"] } = .ok mixedPlan := by
  obtain ⟨-, -, -, -, -, hn, -, -, hr⟩ := files_are_first_spellings ofSelection_mixed
  exact ⟨ofSelection_mixed, hn,
    hr ["l.go", "sub/../a.go", "gone/x", "./gone/y/../x"] "sub" [] [] rfl⟩

end Plan

end CommentBlocks
