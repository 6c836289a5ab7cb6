import CommentBlocks.Proofs.Disk.Follow
import CommentBlocks.Proofs.Disk.Straight
import CommentBlocks.Proofs.Plan.Faults

namespace CommentBlocks

open CommentBlocks.Path Disk

namespace Selection

def wantedExtensions (s : Selection) (language : Language) : List (List Char) :=
  if s.extensions = [] then language.extensions.map String.toList
  else s.extensions.map fun x => x.toList.dropWhile (· = '.')

/-- What stands behind the last dot of the name is an extension that is asked for, up to the case of
ASCII letters. A dot in front is not one that an extension stands behind. -/
def Wanted (s : Selection) (language : Language) (name : String) : Prop :=
  ∃ stem ext, stem ≠ [] ∧ name.toList = stem ++ '.' :: ext ∧ '.' ∉ ext ∧
    ∃ x ∈ s.wantedExtensions language, x.map Char.toLower = ext.map Char.toLower

variable {s : Selection} {d : Disk} {language : Language} {entry path name : String}
  {inner : List (String × Node)}

theorem hasExtension_iff {ext : List Char} (h : '.' ∉ ext) :
    language.hasExtension (String.ofList ext) = true ↔
      ∃ x ∈ language.extensions, x.toList.map Char.toLower = ext.map Char.toLower := by
  have hd : ext.dropWhile (· == '.') = ext := by
    cases ext with
    | nil => rfl
    | cons c cs =>
      have hc : c ≠ '.' := fun hc => h (hc ▸ List.mem_cons_self)
      simp [hc]
  simp [Language.hasExtension, sameLetters, hd]

theorem wants_join_iff (path : String) (h : IsName name) :
    s.wants language (join path name) = true ↔ s.Wanted language name := by
  rw [wants, fileName?_join h, Option.bind_some]
  cases he : extension? name.toList with
  | none =>
    simp only [Bool.false_eq_true, false_iff]
    rintro ⟨stem, ext, hs, hn, hd, -⟩
    have := extension?_eq_some_iff.mpr ⟨stem, hs, hn, hd⟩
    rw [he] at this
    cases this
  | some ext =>
    have hd : '.' ∉ ext := (extension?_eq_some_iff.mp he).choose_spec.2.2
    have hw : s.Wanted language name ↔
        ∃ x ∈ s.wantedExtensions language, x.map Char.toLower = ext.map Char.toLower := by
      constructor
      · rintro ⟨stem, ext', hs, hn, hd', hx⟩
        have he' := extension?_eq_some_iff.mpr ⟨stem, hs, hn, hd'⟩
        obtain rfl := Option.some.inj (he.symm.trans he')
        exact hx
      · obtain ⟨stem, hs, hn, hd⟩ := extension?_eq_some_iff.mp he
        exact fun hx => ⟨stem, ext, hs, hn, hd, hx⟩
    rw [hw, wantedExtensions]
    by_cases hx : s.extensions = []
    · simp [hx, hasExtension_iff hd]
    · simp [hx, sameLetters]

theorem entryFiles_directory (hg : isGlob entry = false)
    (hl : d.lookup entry = .ok (.directory inner)) : s.entryFiles d language entry =
      ((d.walk skipNone (if s.recursive then none else some 1) entry).map
        (·.filter (s.wants language))).mapError .walk := by
  simp only [entryFiles, hg, hl, Bool.false_eq_true, if_false]
  cases d.walk skipNone (if s.recursive then none else some 1) entry <;> rfl

theorem entryFiles_directory_eq_ok_iff (hg : isGlob entry = false)
    (hl : d.lookup entry = .ok (.directory inner)) {files : List String} :
    s.entryFiles d language entry = .ok files ↔
      ∃ all, d.walk skipNone (if s.recursive then none else some 1) entry = .ok all ∧
        all.filter (s.wants language) = files := by
  rw [entryFiles_directory hg hl]
  cases d.walk skipNone (if s.recursive then none else some 1) entry <;>
    simp [Except.map, Except.mapError]

theorem entryFiles_directory_eq_error_iff (hg : isGlob entry = false)
    (hl : d.lookup entry = .ok (.directory inner)) {cause : Cause} :
    s.entryFiles d language entry = .error cause ↔
      ∃ e, d.walk skipNone (if s.recursive then none else some 1) entry = .error e ∧
        .walk e = cause := by
  rw [entryFiles_directory hg hl]
  cases d.walk skipNone (if s.recursive then none else some 1) entry <;>
    simp [Except.map, Except.mapError]

theorem filter_wants_below (s : Selection) (language : Language) (entry : String)
    {locs : List Location} (hne : ∀ loc ∈ locs, loc ≠ [])
    (hn : ∀ loc ∈ locs, ∀ name ∈ loc, IsName name) :
    ∃ kept : List Location, (locs.map (below entry)).filter (s.wants language) =
        kept.map (below entry) ∧ kept.Sublist locs ∧
      ∀ loc, loc ∈ kept ↔
        loc ∈ locs ∧ ∃ front name, loc = front ++ [name] ∧ s.Wanted language name := by
  refine ⟨locs.filter (s.wants language ∘ below entry), List.filter_map,
    List.filter_sublist, fun loc => ?_⟩
  rw [List.mem_filter]
  refine and_congr_right fun hm => ?_
  obtain ⟨front, name, rfl⟩ := (List.eq_nil_or_concat' loc).resolve_left (hne loc hm)
  have hname := hn _ hm name (by simp)
  rw [Function.comp_apply, below_concat, wants_join_iff _ hname]
  constructor
  · exact fun hw => ⟨front, name, rfl, hw⟩
  · rintro ⟨front', name', he, hw⟩
    exact (List.append_singleton_inj.mp he).2 ▸ hw

/-- An entry that names a directory on a disk without links stands for the files in it, or at any
depth below it if this is asked for, that have a wanted name: each once, and in the order of their
names at every level, in whatever order the disk has grown. Only a directory that is entered on too
long a path is an error. The name of the standard input is apart, it lists nothing. -/
theorem directory_lists_wanted (hf : d.root.LinkFree) (hg : isGlob entry = false)
    (hl : d.lookup entry = .ok (.directory inner)) :
    ∃ place, d.resolve entry = .ok place ∧
      (components entry = [.name "-"] → s.entryFiles d language entry = .ok []) ∧
      (components entry ≠ [.name "-"] →
        ((∃ cause, s.entryFiles d language entry = .error cause) ↔
          s.recursive = true ∧ ∃ loc inner, loc ≠ [] ∧
            d.root.get? (place ++ loc) = some (.directory inner) ∧
            pathLimit ≤ byteLength (below entry loc)) ∧
        ∀ files, s.entryFiles d language entry = .ok files →
          ∃ locs : List Location, files = locs.map (below entry) ∧ files.Nodup ∧
            locs.Pairwise Before ∧ ∀ loc, loc ∈ locs ↔
              (∃ data, d.root.get? (place ++ loc) = some (.file data)) ∧
              ∃ front name, loc = front ++ [name] ∧ (s.recursive = false → front = []) ∧
                s.Wanted language name) ∧
      ∀ d', d.SameTree d' →
        s.entryFiles d' language entry = s.entryFiles d language entry := by
  obtain ⟨place, hr, hd⟩ := lookup_eq_ok_iff.mp hl
  refine ⟨place, hr, fun hs => ?_, fun hs => ?_, fun d' h => entryFiles_sameTree h entry⟩
  · refine (entryFiles_directory_eq_ok_iff hg hl).mpr ⟨[], ?_, rfl⟩
    rw [walk, if_pos hs]
  · have hlevels : (if s.recursive then none else some 1) ≠ some 0 := by
      cases s.recursive <;> simp
    obtain ⟨herr, hok⟩ := walk_linkFree hf hlevels hs hr hd
    constructor
    · have hstops : (∃ cause, s.entryFiles d language entry = .error cause) ↔
          ∃ e, d.walk skipNone (if s.recursive then none else some 1) entry = .error e := by
        simp [entryFiles_directory_eq_error_iff hg hl]
      rw [hstops, herr]
      cases s.recursive <;> simp
    · intro files hfiles
      obtain ⟨all, hall, rfl⟩ := (entryFiles_directory_eq_ok_iff hg hl).mp hfiles
      obtain ⟨locs, rfl, sorted, mem⟩ := hok all hall
      have hname : ∀ loc ∈ locs, ∀ name ∈ loc, IsName name := by
        intro loc hm name hn
        obtain ⟨-, ⟨data, hfile⟩, -⟩ := (mem loc).mp hm
        exact d.named.isName_of_get? hfile name (List.mem_append_right _ hn)
      obtain ⟨kept, hk, hsub, hmem⟩ :=
        filter_wants_below s language entry (fun loc hm => ((mem loc).mp hm).1) hname
      have hsorted := sorted.sublist hsub
      refine ⟨kept, hk, hk ▸ ?_, hsorted, fun loc => ?_⟩
      · refine (List.nodup_map_iff_inj_on hsorted.nodup).mpr fun a ha b hb he => ?_
        exact below_inj (hname a (hsub.subset ha)) (hname b (hsub.subset hb)) he
      · rw [hmem, mem]
        constructor
        · rintro ⟨⟨-, hfile, hdepth⟩, front, name, rfl, hwant⟩
          refine ⟨hfile, front, name, rfl, fun hrec => ?_, hwant⟩
          have := hdepth 1 (by simp [hrec])
          simpa using this
        · rintro ⟨hfile, front, name, rfl, hrec, hwant⟩
          refine ⟨⟨by simp, hfile, fun k hk => ?_⟩, front, name, rfl, hwant⟩
          cases hrecursive : s.recursive with
          | true => simp [hrecursive] at hk
          | false =>
            obtain rfl : 1 = k := by simpa [hrecursive] using hk
            simp [hrec hrecursive]

def grove : Disk where
  root := .directory
    [("-", .directory [("a.go", .file [])]),
     ("z", .directory [(".go", .file []), ("b", .directory [("c.GO", .file [])]),
       ("b.go", .file []), ("n.txt", .file [])])]
  working := []
  named := by
    have hn : ∀ name ∈ ["-", "a.go", "z", ".go", "b", "c.GO", "b.go", "n.txt"], IsName name := by
      decide
    simp_all [Node.wellNamed_directory_iff, Node.wellNamed_file]

def groveLanguage : Language := ⟨"go", "Go", ["go"], []⟩

def groveSelection : Selection := ⟨["z", "-"], "go", none, true, []⟩

theorem linkFree_grove : grove.root.LinkFree := by
  apply Node.linkFree_directory
  simp [Node.linkFree_directory, Node.linkFree_file]

theorem resolve_grove : grove.resolve "z" = .ok ["z"] ∧ grove.resolve "-" = .ok ["-"] :=
  ⟨resolve_names ["z"] (by decide) rfl (by simp), resolve_names ["-"] (by decide) rfl (by simp)⟩

theorem walk_grove :
    grove.walk skipNone none "z" = .ok ["z/.go", "z/b/c.GO", "z/b.go", "z/n.txt"] := by
  have hz : Node.inOrder [(".go", .file []), ("b", .directory [("c.GO", .file [])]),
        ("b.go", .file []), ("n.txt", .file [])] =
      [(".go", .file []), ("b", .directory [("c.GO", .file [])]), ("b.go", .file []),
        ("n.txt", .file [])] :=
    List.mergeSort_of_pairwise (by decide)
  have hb : Node.inOrder [("c.GO", .file [])] = [("c.GO", .file [])] :=
    List.mergeSort_of_pairwise (by decide)
  have hs : components "z" ≠ [.name "-"] := by decide
  have hg : grove.root.get? ["z"] = some (.directory [(".go", .file []),
    ("b", .directory [("c.GO", .file [])]), ("b.go", .file []), ("n.txt", .file [])]) := rfl
  rw [walk, if_neg hs, resolve_grove.1]
  simp [hg, hz, hb, walkEntries, join, endsInSlash, pathLimit, byteLength, Bytes.width,
    Char.utf8Size, Except.bind, Except.map]

theorem directory_lists_wanted_grove :
    grove.root.LinkFree ∧
      (∃ locs : List Location, ["z/b/c.GO", "z/b.go"] = locs.map (below "z") ∧
        locs.Pairwise Before) ∧
      groveSelection.entryFiles grove groveLanguage "-" = .ok [] := by
  have hz : grove.lookup "z" = .ok _ := lookup_eq_ok_iff.mpr ⟨_, resolve_grove.1, rfl⟩
  have hdash : grove.lookup "-" = .ok _ := lookup_eq_ok_iff.mpr ⟨_, resolve_grove.2, rfl⟩
  have hfiles : groveSelection.entryFiles grove groveLanguage "z" = .ok ["z/b/c.GO", "z/b.go"] :=
    (entryFiles_directory_eq_ok_iff (by decide) hz).mpr ⟨_, walk_grove, by decide⟩
  obtain ⟨_, -, -, h, -⟩ := @directory_lists_wanted groveSelection grove groveLanguage "z" _
    linkFree_grove (by decide) hz
  obtain ⟨_, -, h', -⟩ := @directory_lists_wanted groveSelection grove groveLanguage "-" _
    linkFree_grove (by decide) hdash
  obtain ⟨locs, hl, -, hp, -⟩ := (h (by decide)).2 _ hfiles
  exact ⟨linkFree_grove, ⟨locs, hl, hp⟩, h' (by decide)⟩

/-- Not every directory lists the wanted files in it: the one with the name of the standard input
does not. -/
theorem dash_directory_lists_nothing :
    ¬ (∀ (d : Disk) (s : Selection) (language : Language) (entry : String) (place : Location)
      (inner : List (String × Node)) (files : List String), d.root.LinkFree →
      isGlob entry = false → d.resolve entry = .ok place →
      d.root.get? place = some (.directory inner) → s.entryFiles d language entry = .ok files →
      ∀ name data, d.root.get? (place ++ [name]) = some (.file data) → s.Wanted language name →
        join entry name ∈ files) := by
  intro h
  have hdash : grove.lookup "-" = .ok (.directory [("a.go", .file [])]) :=
    lookup_eq_ok_iff.mpr ⟨_, resolve_grove.2, rfl⟩
  have hwalk : grove.walk skipNone none "-" = .ok [] := by
    rw [walk, if_pos (by decide)]
  have hfiles : groveSelection.entryFiles grove groveLanguage "-" = .ok [] :=
    (entryFiles_directory_eq_ok_iff (by decide) hdash).mpr ⟨_, hwalk, rfl⟩
  have hwant : groveSelection.Wanted groveLanguage "a.go" :=
    (wants_join_iff "" (by decide)).mp (by decide)
  exact absurd (h grove groveSelection groveLanguage "-" ["-"] _ [] linkFree_grove
    (by decide) resolve_grove.2 rfl hfiles "a.go" [] rfl hwant) List.not_mem_nil

end Selection

end CommentBlocks
