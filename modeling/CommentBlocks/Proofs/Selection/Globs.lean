import CommentBlocks.Proofs.Glob.Kept
import CommentBlocks.Proofs.Selection.Directory

namespace CommentBlocks

open CommentBlocks.Path Disk CommentBlocks.Filter Glob

namespace Selection

variable {s : Selection} {d : Disk} {language : Language} {entry base path p : String}
  {names ps : List String} {place loc : Location} {c : Component} {inner : List (String × Node)}
  {way : Location → Prop}

theorem isGlob_eq_true_iff {t : String} :
    isGlob t = true ↔ ∃ c ∈ t.toList, c = '*' ∨ c = '?' ∨ c = '[' ∨ c = '\x7b' := by
  simp [isGlob, or_assoc]

theorem isGlob_mono {t u : String} (h : isGlob t = true) (hs : t.toList ⊆ u.toList) :
    isGlob u = true := by
  obtain ⟨c, hc, hw⟩ := isGlob_eq_true_iff.mp h
  exact isGlob_eq_true_iff.mpr ⟨c, hs hc, hw⟩

theorem isGlob_text (hg : isGlob base = false) (hc : c ∈ components base) :
    isGlob c.text = false := by
  rcases of_mem_components hc with rfl | hs
  · decide
  · rw [Bool.eq_false_iff]
    intro h
    rw [isGlob_mono h hs] at hg
    cases hg

/-- The entry has a base without wildcards and names behind it, the first with a wildcard. -/
structure Splits (entry base p : String) (ps : List String) : Prop where
  components : components entry = components base ++ (p :: ps).map .name
  base : isGlob base = false
  first : isGlob p = true

theorem Splits.isGlob (h : Splits entry base p ps) : isGlob entry = true := by
  have hc : Component.name p ∈ Path.components entry := by simp [h.components]
  rcases of_mem_components hc with hr | hs
  · cases hr
  · exact isGlob_mono h.first hs

theorem Splits.splitGlob (h : Splits entry base p ps) :
    splitGlob entry = (plain base, p :: ps) := by
  have hall : ∀ c ∈ Path.components base, (!Selection.isGlob c.text) = true :=
    fun c hc => by rw [isGlob_text h.base hc, Bool.not_false]
  have hstop : Selection.isGlob (Component.name p).text = true := h.first
  have hspan : (Path.components entry).span (!Selection.isGlob ·.text) =
      (Path.components base, (p :: ps).map .name) := by
    rw [List.span_eq_takeWhile_dropWhile, h.components, List.takeWhile_append_of_pos hall,
      List.dropWhile_append_of_pos hall]
    simp [hstop]
  have htexts : ((p :: ps).map Component.name).map Component.text = p :: ps := by
    simp [Component.text, Function.comp_def]
  rw [Selection.splitGlob, hspan]
  simp only [htexts, plain, List.isEmpty_iff]
  split <;> rfl

def globLevels (s : Selection) (names : List String) : Option Nat :=
  if s.recursive || names.contains "**" then none else some names.length

theorem globFiles_eq {f : Filter} (hd : d.isDirectory base = true)
    (hf : ofLine? ("/".intercalate names) = .ok (some f)) :
    s.globFiles d base names = (d.walk (f.skips base) (s.globLevels names) base).mapError .walk := by
  rw [globFiles, hd, hf]
  rfl

/-- The list has every file on certain ways below the base, once and in the order of the names at
every level, and nothing else. -/
def Lists (d : Disk) (base : String) (place : Location) (way : Location → Prop)
    (files : List String) : Prop :=
  ∃ locs : List Location, files = locs.map (below base) ∧ files.Nodup ∧ locs.Pairwise Before ∧
    ∀ loc, loc ∈ locs ↔ (∃ data, d.root.get? (place ++ loc) = some (.file data)) ∧ way loc

theorem Lists.congr {way' : Location → Prop} {files : List String} (h : Lists d base place way files)
    (hway : ∀ loc, way loc ↔ way' loc) : Lists d base place way' files := by
  obtain rfl : way = way' := funext fun loc => propext (hway loc)
  exact h

def TooLong (d : Disk) (base : String) (place loc : Location) : Prop :=
  loc ≠ [] ∧ (∃ inner, d.root.get? (place ++ loc) = some (.directory inner)) ∧
    pathLimit ≤ byteLength (below base loc)

theorem globFiles_lists (hf : d.root.LinkFree) (hr : d.resolve base = .ok place)
    (hd : d.root.get? place = some (.directory inner))
    {f : Filter} (hl : ofLine? ("/".intercalate names) = .ok (some f)) (hk : f.KeepsFiles base way)
    (hn : names ≠ []) :
    (components base = [.name "-"] → s.globFiles d base names = .ok []) ∧
    (components base ≠ [.name "-"] →
      ((∃ cause, s.globFiles d base names = .error cause) ↔ ∃ loc, TooLong d base place loc ∧
        ∀ k, s.globLevels names = some k → loc.length + 1 ≤ k) ∧
      ∀ files, s.globFiles d base names = .ok files → Lists d base place
        (fun loc => loc ≠ [] ∧ (∀ k, s.globLevels names = some k → loc.length ≤ k) ∧ way loc)
        files) := by
  have hdir : d.isDirectory base = true := isDirectory_eq_true_iff.mpr ⟨place, inner, hr, hd⟩
  have hlevels : s.globLevels names ≠ some 0 := by
    rw [globLevels]
    split
    · simp
    · simpa using hn
  rw [globFiles_eq hdir hl]
  refine ⟨fun hdash => by rw [walk, if_pos hdash]; rfl, fun hdash => ?_⟩
  obtain ⟨herr, hok⟩ := walk_kept hk.enters hf hlevels hdash hr hd
  generalize d.walk (f.skips base) (s.globLevels names) base = result at herr hok
  constructor
  · have hcause : (∃ cause, result.mapError Cause.walk = .error cause) ↔ ∃ e, result = .error e := by
      cases result <;> simp [Except.mapError]
    rw [hcause, herr]
    refine exists_congr fun loc => ?_
    constructor
    · rintro ⟨inner, hne, hi, hk, hp⟩
      exact ⟨⟨hne, ⟨inner, hi⟩, hp⟩, hk⟩
    · rintro ⟨⟨hne, ⟨inner, hi⟩, hp⟩, hk⟩
      exact ⟨inner, hne, hi, hk, hp⟩
  · intro files hfiles
    obtain ⟨all, rfl⟩ : ∃ all, result = .ok all := by
      cases result with
      | error e => cases hfiles
      | ok all => exact ⟨all, rfl⟩
    obtain rfl : all = files := Except.ok.inj hfiles
    obtain ⟨locs, rfl, sorted, mem⟩ := hok _ rfl
    have hnames {loc : Location} {data : Bytes}
        (hfile : d.root.get? (place ++ loc) = some (.file data)) : ∀ name ∈ loc, IsName name :=
      fun name hn => d.named.isName_of_get? hfile name (List.mem_append_right _ hn)
    have hall : ∀ loc ∈ locs, ∀ name ∈ loc, IsName name := by
      intro loc hm
      obtain ⟨-, ⟨data, hfile⟩, -⟩ := (mem loc).mp hm
      exact hnames hfile
    refine ⟨locs, rfl, nodup_map_below sorted hall base, sorted, fun loc => ?_⟩
    rw [mem]
    constructor
    · rintro ⟨hne, ⟨data, hfile⟩, hlevel, hkeep⟩
      exact ⟨⟨data, hfile⟩, hne, hlevel, (hk.keeps loc hne (hnames hfile)).mp hkeep⟩
    · rintro ⟨⟨data, hfile⟩, hne, hlevel, hway⟩
      exact ⟨hne, ⟨data, hfile⟩, hlevel, (hk.keeps loc hne (hnames hfile)).mpr hway⟩

theorem entryFiles_glob (h : Splits entry base p ps) :
    s.entryFiles d language entry = s.globFiles d (plain base) (p :: ps) := by
  rw [entryFiles, if_pos h.isGlob, h.splitGlob]

theorem exists_filter_fitting (hb : IsBase base) (hp : ∀ n ∈ p :: ps, IsPattern n)
    (hl : Bare ("/".intercalate (p :: ps))) :
    ∃ f way, ofLine? ("/".intercalate (p :: ps)) = .ok (some f) ∧ f.KeepsFiles base way ∧
      ∀ loc, (loc ≠ [] ∧ loc.length ≤ (p :: ps).length ∧ way loc) ↔
        List.Forall₂ FitsByBytes (p :: ps) loc := by
  cases ps with
  | nil =>
    rw [String.intercalate_singleton] at hl ⊢
    obtain ⟨f, hf, hk⟩ := exists_filter_pattern hb (hp p List.mem_cons_self) hl
    refine ⟨f, _, hf, hk, fun loc => ?_⟩
    constructor
    · rintro ⟨-, hlen, front, name, rfl, hfit⟩
      obtain rfl : front = [] := by simpa using hlen
      exact .cons hfit .nil
    · intro h
      obtain ⟨name, _, hfit, hnil, rfl⟩ := List.forall₂_cons_left_iff.mp h
      obtain rfl := List.forall₂_nil_left_iff.mp hnil
      exact ⟨by simp, by simp, [], name, rfl, hfit⟩
  | cons q ps =>
    obtain ⟨f, hf, hk⟩ := exists_filter_patterns hb hp hl
    refine ⟨f, _, hf, hk, fun loc => ⟨fun h => h.2.2, fun h => ⟨?_, h.length_eq.ge, h⟩⟩⟩
    rintro rfl
    cases h

/-- An entry of patterns behind a base, on a disk without links, stands for the files below the base
on ways of as many names, each of which fits its pattern by its bytes, and by its characters where
that makes no difference. This holds for patterns that are read as they stand: a number sign in
front makes a remark of them, an exclamation mark inverts them, and blanks at their end are dropped.
The base is not to have the name of the standard input. -/
theorem glob_lists_fitting (hf : d.root.LinkFree) (hrec : s.recursive = false)
    (hg : isGlob base = false) (hl : d.lookup (orHere base) = .ok (.directory inner)) (hp : ∀ n ∈ p :: ps, IsPattern n)
    (hfirst : '*' ∈ p.toList ∨ '?' ∈ p.toList)
    (he : components entry = components base ++ (p :: ps).map .name)
    (hline : Bare ("/".intercalate (p :: ps))) :
    ∃ place, d.resolve (orHere base) = .ok place ∧
      (components base = [.name "-"] → s.entryFiles d language entry = .ok []) ∧
      (components base ≠ [.name "-"] →
        ((∃ cause, s.entryFiles d language entry = .error cause) ↔
          ∃ loc, TooLong d (plain base) place loc ∧ loc.length ≤ ps.length) ∧
        ∀ files, s.entryFiles d language entry = .ok files →
          Lists d (plain base) place (List.Forall₂ FitsByBytes (p :: ps)) files ∧
          ∀ file ∈ files, ∃ loc, file = below (plain base) loc ∧
            loc.length = (p :: ps).length ∧
            List.Forall₂ (fun n name => Alike n.toList name.toList → FitsByCharacters n name)
              (p :: ps) loc) := by
  obtain ⟨place, hr, hd⟩ := lookup_eq_ok_iff.mp hl
  have hplain := resolve_plain_of_orHere hr hd
  have hglob : isGlob p = true := by
    rw [isGlob_eq_true_iff]
    rcases hfirst with h | h
    · exact ⟨_, h, .inl rfl⟩
    · exact ⟨_, h, .inr (.inl rfl)⟩
  have hentry : s.entryFiles d language entry = s.globFiles d (plain base) (p :: ps) :=
    entryFiles_glob ⟨he, hg, hglob⟩
  have hlevels : s.globLevels (p :: ps) = some (ps.length + 1) := by
    have hdeep : (p :: ps).contains "**" = false := by
      rw [Bool.eq_false_iff, Ne, List.contains_iff_mem]
      exact fun hm => (hp "**" hm).ne_deep rfl
    rw [globLevels, hrec, hdeep]
    rfl
  obtain ⟨f, way, hread, hk, hway⟩ := exists_filter_fitting (isBase_plain base) hp hline
  obtain ⟨hdash, hlists⟩ := globFiles_lists (s := s) hf hplain hd hread hk (List.cons_ne_nil p ps)
  rw [components_plain_eq_name_iff, ← hentry] at hdash
  rw [Ne, components_plain_eq_name_iff, ← hentry] at hlists
  refine ⟨place, hr, hdash, fun hs => ?_⟩
  obtain ⟨herr, hok⟩ := hlists hs
  rw [herr]
  refine ⟨by simp [hlevels], fun files hfiles => ?_⟩
  have hfits : Lists d (plain base) place (List.Forall₂ FitsByBytes (p :: ps)) files :=
    (hok files hfiles).congr fun loc => by simpa [hlevels] using hway loc
  refine ⟨hfits, fun file hm => ?_⟩
  obtain ⟨locs, rfl, -, -, mem⟩ := hfits
  obtain ⟨loc, hloc, rfl⟩ := List.mem_map.mp hm
  have hfit := ((mem loc).mp hloc).2
  exact ⟨loc, rfl, hfit.length_eq.symm, hfit.imp fun _ _ h ha => (fitsByBytes_iff ha).mp h⟩

def shallowSelection : Selection := ⟨[], "go", none, false, []⟩

theorem lookup_grove : grove.lookup (orHere "z") = .ok (.directory
    [(".go", .file []), ("b", .directory [("c.GO", .file [])]), ("b.go", .file []),
      ("n.txt", .file [])]) :=
  lookup_eq_ok_iff.mpr ⟨["z"], resolve_grove.1, rfl⟩

theorem glob_lists_fitting_grove :
    grove.root.LinkFree ∧
      ∃ files, shallowSelection.entryFiles grove groveLanguage "z/?.go" = .ok files ∧
        Lists grove "z" ["z"] (List.Forall₂ FitsByBytes ["?.go"]) files := by
  obtain ⟨place, hr, -, h⟩ := @glob_lists_fitting shallowSelection grove groveLanguage "z/?.go" "z"
    "?.go" [] _ linkFree_grove rfl (by decide) lookup_grove (by decide) (by decide)
    (by decide) (by decide)
  obtain rfl : ["z"] = place := Except.ok.inj (resolve_grove.1.symm.trans hr)
  obtain ⟨herr, hok⟩ := h (by decide)
  refine ⟨linkFree_grove, ?_⟩
  cases hfiles : shallowSelection.entryFiles grove groveLanguage "z/?.go" with
  | error cause =>
    obtain ⟨loc, ⟨hne, -⟩, hlen⟩ := herr.mp ⟨cause, hfiles⟩
    exact absurd (List.length_eq_zero_iff.mp (Nat.le_zero.mp hlen)) hne
  | ok files => exact ⟨files, rfl, (hok files hfiles).1⟩

theorem entryFiles_remark :
    shallowSelection.entryFiles grove groveLanguage "z/#*.go" =
      .ok ["z/.go", "z/b.go", "z/n.txt"] := by
  have hsplit : Splits "z/#*.go" "z" "#*.go" [] := ⟨by decide, by decide, by decide⟩
  have hplain : plain "z" = "z" := by decide
  have hdir : grove.isDirectory "z" = true :=
    isDirectory_eq_true_iff.mpr ⟨["z"], _, resolve_grove.1, rfl⟩
  have hremark : ofLine? ("/".intercalate ["#*.go"]) = .ok none := by
    rw [String.intercalate_singleton, ofLine?]
    rfl
  have hz : Node.inOrder [(".go", .file []), ("b", .directory [("c.GO", .file [])]),
        ("b.go", .file []), ("n.txt", .file [])] =
      [(".go", .file []), ("b", .directory [("c.GO", .file [])]), ("b.go", .file []),
        ("n.txt", .file [])] :=
    List.mergeSort_of_pairwise (by decide)
  have hg : grove.root.get? ["z"] = some (.directory [(".go", .file []),
    ("b", .directory [("c.GO", .file [])]), ("b.go", .file []), ("n.txt", .file [])]) := rfl
  have hwalk : grove.walk skipNone (some 1) "z" = .ok ["z/.go", "z/b.go", "z/n.txt"] := by
    rw [walk, if_neg (by decide), resolve_grove.1]
    simp [hg, hz, walkEntries, join, endsInSlash, Except.bind, Except.map]
  have hlevels : shallowSelection.globLevels ["#*.go"] = some 1 := by decide
  rw [entryFiles_glob hsplit, hplain, globFiles, hdir, hremark]
  exact congrArg (Except.mapError Cause.walk) hwalk

/-- Not every file of an entry of patterns fits them: a number sign in front makes a remark of the
patterns, and all files on as many levels are listed. -/
theorem remark_glob_lists_all :
    ¬ (∀ (d : Disk) (s : Selection) (language : Language) (entry base p : String)
      (ps : List String) (inner : List (String × Node)) (files : List String),
      d.root.LinkFree → s.recursive = false → isGlob base = false →
      d.lookup (orHere base) = .ok (.directory inner) → (∀ n ∈ p :: ps, IsPattern n) →
      ('*' ∈ p.toList ∨ '?' ∈ p.toList) →
      components entry = components base ++ (p :: ps).map .name →
      s.entryFiles d language entry = .ok files →
      ∀ file ∈ files, ∃ loc, file = below (plain base) loc ∧
        List.Forall₂ FitsByCharacters (p :: ps) loc) := by
  intro h
  obtain ⟨loc, hfile, hfit⟩ := h grove shallowSelection groveLanguage "z/#*.go" "z" "#*.go" [] _ _
    linkFree_grove rfl (by decide) lookup_grove (by decide) (by decide) (by decide)
    entryFiles_remark "z/n.txt" (by decide)
  obtain ⟨name, _, hname, hnil, rfl⟩ := List.forall₂_cons_left_iff.mp hfit
  obtain rfl := List.forall₂_nil_left_iff.mp hnil
  have hplain : plain "z" = "z" := by decide
  have hbelow : below "z" [name] = "z/" ++ name := rfl
  have hsign : "#*.go".toList = '#' :: "*.go".toList := by decide
  rw [FitsByCharacters, hsign, fits_cons_iff (by decide) (by decide)] at hname
  obtain ⟨rest, hname, -⟩ := hname
  rw [hplain, hbelow, ← String.toList_inj, String.toList_append, hname] at hfile
  simp at hfile

end Selection

end CommentBlocks
