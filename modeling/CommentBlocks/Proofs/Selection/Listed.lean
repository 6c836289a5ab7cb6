import CommentBlocks.Proofs.Disk.Leads
import CommentBlocks.Proofs.Glob.Deep
import CommentBlocks.Proofs.Selection.Globs
import CommentBlocks.Proofs.Selection.Missing

namespace CommentBlocks

open CommentBlocks.Path Disk CommentBlocks.Filter Glob

namespace Disk

variable {d : Disk} {path name : String} {links : Nat} {place loc : Location}
  {a b : List Component}

theorem byteLength_le_of_follow (h : d.follow links place (a ++ .name name :: b) = .ok loc) :
    byteLength name ≤ nameLimit := by
  cases ha : d.follow links place a with
  | error e => simp [follow_append_of_error ha] at h
  | ok mid =>
    obtain ⟨left, -, hl⟩ := exists_left_of_follow ha
    rw [hl] at h
    obtain ⟨entries, hd⟩ := exists_directory_of_follow h
    rw [follow, hd] at h
    apply Nat.le_of_not_lt
    intro hlong
    simp [hlong] at h

end Disk

namespace Selection

variable {s : Selection} {d : Disk} {language : Language} {entry base p : String}
  {ps files : List String} {target : Location} {data : Bytes}

theorem entryFiles_file (hg : isGlob entry = false) (hl : d.lookup entry = .ok (.file data)) :
    s.entryFiles d language entry = .ok [entry] := by
  simp [entryFiles, hg, hl]

theorem Splits.course_eq (h : Splits entry base p ps) :
    course entry = course base ++ (p :: ps).map .name := by
  rw [course, h.components, List.filter_append, course]
  simp

theorem Splits.isName (h : Splits entry base p ps) (hl : d.locate entry = .ok target) :
    ∀ n ∈ p :: ps, IsName n := by
  intro n hn
  obtain ⟨hw, -, hf⟩ := locate_eq_ok_iff.mp hl
  have hin : Component.name n ∈ Path.components entry := by
    rw [h.components]
    exact List.mem_append_right _ (List.mem_map_of_mem hn)
  have hstep : Component.name n ∈ (steps entry).filter (· != .here) := by
    have hc : Component.name n ∈ course entry := List.mem_filter.mpr ⟨hin, by simp⟩
    rw [Disk.course_eq, List.mem_append] at hc
    rw [filter_steps]
    refine hc.resolve_left fun hr => ?_
    split at hr <;> simp at hr
  have hread : (Component.name n).IsRead := isRead_of_mem_strides (filter_steps entry ▸ hstep)
  obtain ⟨a, b, hab⟩ := List.append_of_mem hstep
  have hfollow := follow_filter (a := []) (b := steps entry) hf
  rw [List.nil_append, hab] at hfollow
  refine ⟨?_, ?_, ?_, hread.slashless, whole_text hw hin, byteLength_le_of_follow hfollow⟩
  · exact text_ne_empty hread
  · rintro rfl
    exact absurd hread.read (by decide)
  · rintro rfl
    exact absurd hread.read (by decide)

theorem Splits.locate_below (h : Splits entry base p ps) (hn : ∀ n ∈ p :: ps, IsName n)
    (hl : d.locate entry = .ok target) :
    d.locate (below (plain base) (p :: ps)) = .ok target ∧
      d.identity (below (plain base) (p :: ps)) = d.identity entry := by
  have hc : course (below (plain base) (p :: ps)) = course entry := by
    rw [h.course_eq, course, components_below hn, List.filter_append, ← course, course_plain]
    simp
  obtain ⟨hw, -, -⟩ := locate_eq_ok_iff.mp hl
  have hplain : '\x00' ∉ (plain base).toList :=
    whole_plain fun c hc => whole_text hw (h.components ▸ List.mem_append_left _ hc)
  obtain ⟨front, last, hlast⟩ := (List.eq_nil_or_concat' (p :: ps)).resolve_left (by simp)
  have hname : IsName last := hn last (by simp [hlast])
  have hpath : below (plain base) (p :: ps) = join (below (plain base) front) last := by
    rw [hlast, below_concat]
  have hwhole : '\x00' ∉ (below (plain base) (p :: ps)).toList := by
    rw [below_eq_extend]
    exact whole_extend hplain (List.forall_mem_map.mpr fun n hm => (hn n hm).whole)
  have hlocate : d.locate (below (plain base) (p :: ps)) = .ok target := by
    refine locate_of_course hl hc hwhole (hpath ▸ join_ne_empty hname) fun hend => ?_
    rw [hpath, steps_join hname, List.getLast?_concat] at hend
    cases hend
  exact ⟨hlocate, identity_of_course hl hlocate hc⟩

theorem mem_globFiles {skip : String → Bool → Bool} (hs : EntersAll skip)
    (hwalk : d.isDirectory base = true → s.globFiles d base (p :: ps) =
      (d.walk skip (s.globLevels (p :: ps)) base).mapError .walk)
    (hkeep : skip (below base (p :: ps)) false = false) (hdash : components base ≠ [.name "-"])
    (hn : ∀ n ∈ p :: ps, IsName n) (hl : d.locate (below base (p :: ps)) = .ok target)
    (hd : d.root.get? target = some (.file data))
    (hf : s.globFiles d base (p :: ps) = .ok files) : below base (p :: ps) ∈ files := by
  -- The files were listed, so the base is a directory.
  have hdir : d.isDirectory base = true := by
    cases hdir : d.isDirectory base with
    | true => rfl
    | false => simp [globFiles, hdir] at hf
  obtain ⟨place, inner, hr, hbase⟩ := isDirectory_eq_true_iff.mp hdir
  have hlevels : ∀ k, s.globLevels (p :: ps) = some k → (p :: ps).length ≤ k := by
    intro k hk
    rw [globLevels] at hk
    split at hk
    · cases hk
    · exact (Option.some.inj hk).le
  have hsome : s.globLevels (p :: ps) ≠ some 0 := fun h0 => by simpa using hlevels 0 h0
  have ho : d.Outcome skip (.start (s.globLevels (p :: ps)) base place) (fun _ => True)
      (d.walk skip (s.globLevels (p :: ps)) base) := outcome_walk hsome hdash hr hbase
  rw [hwalk hdir] at hf
  generalize d.walk skip (s.globLevels (p :: ps)) base = result at ho hf
  cases ho with
  | stuck => cases hf
  | @listed locs free _ mem =>
    obtain rfl := Except.ok.inj hf
    have hdepth : ∀ k, (s.globLevels (p :: ps)).map (· - 1) = some k → (p :: ps).length ≤ k + 1 :=
      (le_levels_pred_iff hsome).mpr fun k hk => Nat.succ_le_succ (hlevels k hk)
    have hfollow : d.follow linkLimit (origin d.working base)
        (innerSteps base ++ (p :: ps).map .name) = .ok target :=
      follow_of_locate_below (List.cons_ne_nil p ps) hn hl
    have hleads : ∃ left, d.Leads base left place := exists_leads hr
    have hcases : d.Listed skip (.start (s.globLevels (p :: ps)) base place) (p :: ps) ∨
        ∃ loc e, d.Stuck skip (.start (s.globLevels (p :: ps)) base place) loc e :=
      listed_or_stuck_of_follow hs hdepth hleads (List.cons_ne_nil p ps) hn hfollow hd hkeep
    -- Nothing has stopped the walk, since it has an answer.
    rcases hcases with hli | ⟨loc, e, hst⟩
    · exact List.mem_map_of_mem ((mem _).mpr ⟨p, ps, trivial, rfl, hli⟩)
    · obtain ⟨n, back, rfl, -⟩ := hst.exists_child hbase
      exact absurd hst (free n back e trivial)

/-- The line of the names is a remark, or made of patterns and read as it stands. -/
def KeepsItself (names : List String) : Prop :=
  ("/".intercalate names).toList.head? = some '#' ∨
    (∀ n ∈ names, IsDeepPattern n) ∧ Bare ("/".intercalate names)

instance (names : List String) : Decidable (KeepsItself names) :=
  inferInstanceAs (Decidable (_ ∨ _))

/-- Below the base such a line leaves in what its own names lead to: a remark leaves out nothing,
and names fit themselves as patterns. -/
theorem exists_walk_of_keepsItself (h : KeepsItself (p :: ps)) (hb : IsBase base)
    (hn : ∀ n ∈ p :: ps, IsName n) (s : Selection) (d : Disk) :
    ∃ skip, EntersAll skip ∧ skip (below base (p :: ps)) false = false ∧
      (d.isDirectory base = true → s.globFiles d base (p :: ps) =
        (d.walk skip (s.globLevels (p :: ps)) base).mapError .walk) := by
  rcases h with hremark | ⟨hp, hbare⟩
  · refine ⟨skipNone, entersAll_skipNone, rfl, fun hdir => ?_⟩
    have hline : ofLine? ("/".intercalate (p :: ps)) = .ok none := by
      rw [ofLine?, if_pos (beq_iff_eq.mpr hremark)]
    rw [globFiles, hdir, hline]
    rfl
  · obtain ⟨parts, hread, haccepts⟩ := exists_accepting (List.cons_ne_nil p ps) hp hbare hn
    refine ⟨(accepting parts).skips base, fun path => by simp [skips_accepting], ?_,
      fun hdir => globFiles_eq hdir hread⟩
    rw [skips_accepting, relative_below hb (List.cons_ne_nil p ps) hn, haccepts]
    rfl

end Selection

namespace Plan

open Selection

variable {d : Disk} {ls : Languages} {s : Selection} {plan : Plan} {entry path : String}
  {files : List String} {data : Bytes}

theorem count_identity (h : ofSelection d ls s = .ok plan) (hm : entry ∈ s.paths)
    (hf : s.entryFiles d plan.language entry = .ok files) (hp : path ∈ files) :
    (plan.files.map d.identity).count (d.identity path) = 1 := by
  obtain ⟨-, -, cands, hc, hfiles⟩ := ofSelection_eq_ok_iff.mp h
  rw [← hfiles]
  apply List.count_eq_one_of_mem
  · exact nodup_map_firstSpellings [] cands
  · exact identity_mem_firstSpellings (subset_candidates hc hm hf hp)

/-- An entry that leads to a file is in the plan once, whatever the extension of the file: if there
are no wildcards in it, and also if the names from the first wildcard on keep themselves. They do if
there is no opening bracket, brace or backslash in them and their line is read as it stands, or if
it begins with a number sign. The base in front of them is not to have the name of the standard
input. -/
theorem count_of_file (h : ofSelection d ls s = .ok plan) (hm : entry ∈ s.paths)
    (hl : d.lookup entry = .ok (.file data)) :
    (isGlob entry = false → (plan.files.map d.identity).count (d.identity entry) = 1) ∧
      ∀ base p ps, isGlob base = false → isGlob p = true →
        components entry = components base ++ (p :: ps).map .name →
        KeepsItself (p :: ps) → components base ≠ [.name "-"] →
        (plan.files.map d.identity).count (d.identity entry) = 1 := by
  refine ⟨fun hg => count_identity h hm (entryFiles_file hg hl) (List.mem_singleton_self entry),
    fun base p ps hg hfirst he hkeeps hdash => ?_⟩
  obtain ⟨target, hr, hd⟩ := lookup_eq_ok_iff.mp hl
  have hsplit : Splits entry base p ps := ⟨he, hg, hfirst⟩
  have hn := hsplit.isName (locate_of_resolve hr)
  obtain ⟨hlocate, hid⟩ := hsplit.locate_below hn (locate_of_resolve hr)
  obtain ⟨-, -, cands, hc, -⟩ := ofSelection_eq_ok_iff.mp h
  obtain ⟨files, hf⟩ := exists_candidates_iff.mp ⟨cands, hc⟩ entry hm
  have hglob := hf
  rw [entryFiles_glob hsplit] at hglob
  obtain ⟨skip, henters, hkeep, hwalk⟩ :=
    exists_walk_of_keepsItself hkeeps (isBase_plain base) hn s d
  have hin : below (plain base) (p :: ps) ∈ files :=
    mem_globFiles henters hwalk hkeep (mt components_plain_eq_name_iff.mp hdash) hn hlocate hd hglob
  rw [← hid]
  exact count_identity h hm hf hin

def wild : Disk where
  root := .directory [("z", .directory [("a?.go", .file []), ("a[1].go", .file [])])]
  working := []
  named := by
    have hn : ∀ name ∈ ["z", "a?.go", "a[1].go"], IsName name := by decide
    simp_all [Node.wellNamed_directory_iff, Node.wellNamed_file]

def wildSelection (entry : String) : Selection := ⟨[entry], "go", none, false, []⟩

theorem resolve_wild : wild.resolve "z" = .ok ["z"] ∧ wild.resolve "z/a?.go" = .ok ["z", "a?.go"] ∧
    wild.resolve "z/a[1].go" = .ok ["z", "a[1].go"] :=
  ⟨resolve_names ["z"] (by decide) rfl (by simp),
    resolve_names ["z", "a?.go"] (by decide) rfl (by simp),
    resolve_names ["z", "a[1].go"] (by decide) rfl (by simp)⟩

theorem walk_wild (skip : String → Bool → Bool) : wild.walk skip (some 1) "z" =
    .ok (["z/a?.go", "z/a[1].go"].filter fun path => !skip path false) := by
  have hz : Node.inOrder [("a?.go", .file []), ("a[1].go", .file [])] =
      [("a?.go", .file []), ("a[1].go", .file [])] :=
    List.mergeSort_of_pairwise (by decide)
  have hg : wild.root.get? ["z"] =
    some (.directory [("a?.go", .file []), ("a[1].go", .file [])]) := rfl
  rw [walk, if_neg (by decide), resolve_wild.1]
  cases h₁ : skip "z/a?.go" false <;> cases h₂ : skip "z/a[1].go" false <;>
    simp [hg, hz, walkEntries, join, endsInSlash, Except.bind, Except.map, h₁, h₂]

theorem ofSelection_wild {f : Filter} (hs : Splits entry "z" p []) (hf : ofLine? p = .ok (some f))
    (hd : p ≠ "**") : ofSelection wild ⟨[groveLanguage]⟩ (wildSelection entry) = .ok
      ⟨firstSpellings wild [] (["z/a?.go", "z/a[1].go"].filter fun path => !f.skips "z" path false),
        none, groveLanguage⟩ := by
  have hl : language? ⟨[groveLanguage]⟩ "go" = .ok groveLanguage :=
    language?_only (by decide) (by decide)
  have hplain : plain "z" = "z" := by decide
  have hdir : wild.isDirectory "z" = true :=
    isDirectory_eq_true_iff.mpr ⟨["z"], _, resolve_wild.1, rfl⟩
  have hlevels : (wildSelection entry).globLevels [p] = some 1 := by
    simp [globLevels, wildSelection, hd.symm]
  have hread : ofLine? ("/".intercalate [p]) = .ok (some f) := by
    rwa [String.intercalate_singleton]
  have hfiles : (wildSelection entry).entryFiles wild groveLanguage entry =
      .ok (["z/a?.go", "z/a[1].go"].filter fun path => !f.skips "z" path false) := by
    rw [entryFiles_glob hs, hplain, globFiles_eq hdir hread, hlevels, walk_wild]
    rfl
  refine ofSelection_eq_ok_iff.mpr ⟨rfl, hl, _, ?_, rfl⟩
  exact candidates_cons_eq_ok_iff.mpr ⟨_, [], hfiles, rfl, List.append_nil _⟩

theorem count_of_file_wild :
    (["a.go"].map lone.identity).count (lone.identity "a.go") = 1 ∧
      ∃ plan, ofSelection wild ⟨[groveLanguage]⟩ (wildSelection "z/a?.go") = .ok plan ∧
        (plan.files.map wild.identity).count (wild.identity "z/a?.go") = 1 := by
  have hsplit : Splits "z/a?.go" "z" "a?.go" [] := ⟨by decide, by decide, by decide⟩
  have hplan := ofSelection_wild hsplit (ofLine?_pattern (by decide) (by decide)) (by decide)
  obtain ⟨hfile, -⟩ := count_of_file ofSelection_lone List.mem_cons_self lookup_lone.1
  obtain ⟨-, hfiles⟩ := count_of_file hplan List.mem_cons_self
    (lookup_eq_ok_iff.mpr ⟨_, resolve_wild.2.1, rfl⟩)
  exact ⟨hfile (by decide), _, hplan,
    hfiles "z" "a?.go" [] (by decide) (by decide) (by decide) (by decide) (by decide)⟩

theorem ofLine?_brackets : ofLine? "a[1].go" = .ok (some (accepting
    [.leading, .literal 'a', .oneOf false [('1', '1')], .literal '.', .literal 'g',
      .literal 'o'])) := by
  have hclass : charClass "1].go".toList = .ok (.oneOf false [('1', '1')], ".go".toList) := rfl
  have ha : IsPattern "a" := by decide
  have hgo : IsPattern ".go" := by decide
  have hend (last : Option Char) (d : Glob.Draft) (hg : d.groups = []) :
      readParts last d ".go".toList =
        .ok (d.pushAll [.literal '.', .literal 'g', .literal 'o']) := by
    rw [← List.append_nil ".go".toList,
      readParts_append hgo.plain hg (by simp) fun h => absurd h (by decide), readParts]
    rfl
  have hread : readParts none ⟨[], []⟩ "**/a[1].go".toList =
      .ok (Glob.Draft.pushAll ⟨[.leading], []⟩ [.literal 'a', .oneOf false [('1', '1')], .literal '.',
        .literal 'g', .literal 'o']) := by
    have hline : "**/a[1].go".toList = '*' :: '*' :: '/' :: ("a".toList ++ '[' :: "1].go".toList) :=
      rfl
    rw [hline, readParts_leading, readParts_append ha.plain rfl (by simp) (by simp),
      readParts_class hclass, hend _ _ rfl]
    rfl
  have hany : within (anywhere ⟨false, false, "a[1].go".toList⟩ "a[1].go".toList) =
      "**/a[1].go".toList := by
    decide
  apply ofLine?_of_bare (by decide) (by decide) (by simp) (by decide) (by simp)
  rw [hany, Glob.parse, String.toList_ofList, hread]
  rfl

/-- Not every entry that leads to a file is in the plan: brackets in its name are read as a
pattern, which the name does not fit. -/
theorem brackets_entry_not_planned :
    ¬ (∀ (d : Disk) (ls : Languages) (s : Selection) (plan : Plan) (entry : String) (data : Bytes),
      ofSelection d ls s = .ok plan → entry ∈ s.paths →
      d.lookup entry = .ok (.file data) → d.identity entry ∈ plan.files.map d.identity) := by
  intro h
  have hsplit : Splits "z/a[1].go" "z" "a[1].go" [] := ⟨by decide, by decide, by decide⟩
  have hplan := ofSelection_wild hsplit ofLine?_brackets (by decide)
  have hnone : (["z/a?.go", "z/a[1].go"].filter fun path => !(accepting
      [.leading, .literal 'a', .oneOf false [('1', '1')], .literal '.', .literal 'g',
        .literal 'o']).skips "z" path false) = [] := by
    decide
  rw [hnone] at hplan
  exact absurd (h wild _ _ _ "z/a[1].go" [] hplan List.mem_cons_self
    (lookup_eq_ok_iff.mpr ⟨_, resolve_wild.2.2, rfl⟩)) List.not_mem_nil

end Plan

end CommentBlocks
