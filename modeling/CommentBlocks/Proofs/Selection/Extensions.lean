import CommentBlocks.Proofs.Selection.Globs

namespace CommentBlocks

open CommentBlocks.Path Disk CommentBlocks.Filter Glob

namespace Selection

variable {s : Selection} {d : Disk} {language : Language} {entry base name x : String}
  {inner : List (String × Node)} {c : Char} {deep : Bool}

def extensionNames (deep : Bool) (x : String) : List String :=
  if deep then ["**", "*." ++ x] else ["*." ++ x]

structure IsExtension (x : String) : Prop where
  ne_empty : x ≠ ""
  plain : ∀ c ∈ x.toList, c.isAlphanum = true

theorem isExtension_iff : IsExtension x ↔ x ≠ "" ∧ x.toList.all Char.isAlphanum := by
  rw [List.all_eq_true]
  exact ⟨fun ⟨a, b⟩ => ⟨a, b⟩, fun ⟨a, b⟩ => ⟨a, b⟩⟩

instance (x : String) : Decidable (IsExtension x) := decidable_of_iff _ isExtension_iff.symm

theorem notMem_reserved_of_isAlphanum (h : c.isAlphanum = true) : c ∉ reserved := by
  have hall : reserved.all (!·.isAlphanum) = true := by decide
  intro hc
  have hnot := List.all_eq_true.mp hall c hc
  rw [h] at hnot
  cases hnot

theorem toNat_of_isAlphanum (h : c.isAlphanum = true) : 48 ≤ c.toNat ∧ c.toNat ≤ 122 := by
  have hclass : (decide ('A'.val ≤ c.val ∧ c.val ≤ 'Z'.val) || 'a'.val ≤ c.val && c.val ≤ 'z'.val ||
      '0'.val ≤ c.val && c.val ≤ '9'.val) = true := h
  simp only [Bool.or_eq_true, Bool.and_eq_true, decide_eq_true_eq, UInt32.le_iff_toNat_le] at hclass
  have hletters : 'A'.val.toNat = 65 ∧ 'Z'.val.toNat = 90 ∧ 'a'.val.toNat = 97 ∧
      'z'.val.toNat = 122 := by decide
  have hdigits : '0'.val.toNat = 48 ∧ '9'.val.toNat = 57 := by decide
  have hc : c.toNat = c.val.toNat := rfl
  omega

theorem isBlank_of_isAlphanum (h : c.isAlphanum = true) : Text.isBlank c = false := by
  obtain ⟨hl, hu⟩ := toNat_of_isAlphanum h
  simp only [Text.isBlank, Bool.or_eq_false_iff, Bool.and_eq_false_iff, decide_eq_false_iff_not,
    beq_eq_false_iff_ne]
  omega

theorem toList_star_dot (x : String) : ("*." ++ x).toList = '*' :: '.' :: x.toList := by
  simp

theorem IsExtension.isPattern (h : IsExtension x) : IsPattern ("*." ++ x) := by
  have hne {t : String} (ht : ∀ cs, t.toList ≠ '*' :: '.' :: cs) : "*." ++ x ≠ t := by
    rintro rfl
    exact ht _ (toList_star_dot x)
  refine ⟨hne (by simp), hne (by simp), hne (by simp), hne (by simp), fun c hc => ?_⟩
  rw [toList_star_dot, List.mem_cons, List.mem_cons] at hc
  rcases hc with rfl | rfl | hc
  · decide
  · decide
  · exact notMem_reserved_of_isAlphanum (h.plain c hc)

theorem IsExtension.bare (h : IsExtension x) (front : List Char) {line : String}
    (hl : line.toList = '*' :: front ++ x.toList) : Bare line := by
  have hne : x.toList ≠ [] := fun he => h.ne_empty (String.ext he)
  refine ⟨fun c hc => ?_, fun c hc => ?_⟩
  · rw [hl] at hc
    obtain rfl : '*' = c := by simpa using hc
    decide
  · rw [hl, List.getLast?_append_of_ne_nil _ hne] at hc
    exact isBlank_of_isAlphanum (h.plain c (List.mem_of_getLast? hc))

theorem fits_extension_iff (h : IsExtension x) :
    FitsByBytes ("*." ++ x) name ↔ '.' :: x.toList <:+ name.toList := by
  have hplain : ∀ c ∈ '.' :: x.toList, c ≠ '*' ∧ c ≠ '?' := by
    rintro c hc
    rcases List.mem_cons.mp hc with rfl | hc
    · decide
    · constructor
      · rintro rfl
        exact absurd (h.plain _ hc) (by decide)
      · rintro rfl
        exact absurd (h.plain _ hc) (by decide)
  have halike : Alike ("*." ++ x).toList name.toList := by
    refine .inl ?_
    rw [toList_star_dot, List.mem_cons, not_or]
    exact ⟨by decide, fun hq => (hplain '?' hq).2 rfl⟩
  rw [fitsByBytes_iff halike, FitsByCharacters, toList_star_dot, fits_star_iff]
  simp only [fits_iff_of_literal hplain, List.flatMap_singleton']
  constructor
  · rintro ⟨u, v, hname, rfl⟩
    exact ⟨u, hname.symm⟩
  · rintro ⟨u, hname⟩
    exact ⟨u, _, hname.symm, rfl⟩

theorem exists_filter_extension (h : IsExtension x) (deep : Bool) (hb : IsBase base) :
    ∃ f, ofLine? ("/".intercalate (extensionNames deep x)) = .ok (some f) ∧
      f.KeepsFiles base (LastFits ("*." ++ x)) := by
  cases deep with
  | false =>
    rw [extensionNames, if_neg Bool.false_ne_true, String.intercalate_singleton]
    exact exists_filter_pattern hb h.isPattern (h.bare ['.'] (toList_star_dot x))
  | true =>
    rw [extensionNames, if_pos rfl]
    refine exists_filter_deep_pattern hb h.isPattern (h.bare ['*', '/', '*', '.'] ?_)
    simp

theorem globLevels_extension (s : Selection) (deep : Bool) (x : String) :
    s.globLevels (extensionNames deep x) = if s.recursive || deep then none else some 1 := by
  have hne : "**" ≠ "*." ++ x := fun he => by simpa using congrArg String.toList he
  cases deep <;> simp [globLevels, extensionNames, hne]

theorem splits_extension (hg : isGlob base = false)
    (he : components entry = components base ++ (extensionNames deep x).map .name) :
    ∃ p ps, extensionNames deep x = p :: ps ∧ Splits entry base p ps := by
  cases deep with
  | false =>
    refine ⟨"*." ++ x, [], rfl, he, hg, ?_⟩
    exact isGlob_eq_true_iff.mpr ⟨'*', by simp, .inl rfl⟩
  | true => exact ⟨"**", ["*." ++ x], rfl, he, hg, by decide⟩

/-- An entry that asks for an extension by wildcards, on a disk without links, stands for the files
in its base, or at any depth below it, of which the name ends in a dot and the extension: each once,
and in the order of the names at every level. The extensions of the selection and of the language
make no difference. Only a directory that is entered on too long a path is an error. The base is not
to have the name of the standard input, of which nothing is listed. -/
theorem extension_glob_lists (hf : d.root.LinkFree) (hg : isGlob base = false)
    (hl : d.lookup (orHere base) = .ok (.directory inner)) (hx : IsExtension x)
    (he : components entry = components base ++ (extensionNames deep x).map .name) :
    ∃ place, d.resolve (orHere base) = .ok place ∧
      (components base = [.name "-"] → s.entryFiles d language entry = .ok []) ∧
      (components base ≠ [.name "-"] →
        ((∃ cause, s.entryFiles d language entry = .error cause) ↔
          (s.recursive = true ∨ deep = true) ∧ ∃ loc, TooLong d (plain base) place loc) ∧
        ∀ files, s.entryFiles d language entry = .ok files →
          Lists d (plain base) place (fun loc => ∃ front name, loc = front ++ [name] ∧
            (s.recursive = false → deep = false → front = []) ∧
            '.' :: x.toList <:+ name.toList) files) ∧
      ∀ extensions language', { s with extensions := extensions }.entryFiles d language' entry =
        s.entryFiles d language entry := by
  obtain ⟨place, hr, hd⟩ := lookup_eq_ok_iff.mp hl
  have hplain := resolve_plain_of_orHere hr hd
  obtain ⟨p, ps, hnames, hsplit⟩ := splits_extension hg he
  have hentry (s : Selection) (language : Language) :
      s.entryFiles d language entry = s.globFiles d (plain base) (extensionNames deep x) := by
    rw [hnames]
    exact entryFiles_glob hsplit
  obtain ⟨f, hread, hk⟩ := exists_filter_extension hx deep (isBase_plain base)
  obtain ⟨hdash, hlists⟩ := globFiles_lists (s := s) hf hplain hd hread hk (by simp [hnames])
  rw [components_plain_eq_name_iff, ← hentry] at hdash
  rw [Ne, components_plain_eq_name_iff, ← hentry s language] at hlists
  refine ⟨place, hr, hdash, fun hs => ?_, fun extensions language' => by rw [hentry, hentry]; rfl⟩
  obtain ⟨herr, hok⟩ := hlists hs
  simp only [globLevels_extension] at herr hok
  rw [herr]
  refine ⟨?_, fun files hfiles => (hok files hfiles).congr fun loc => ?_⟩
  · have hroot : ¬TooLong d (plain base) place [] := fun h => h.1 rfl
    cases s.recursive <;> cases deep <;> simp [hroot]
  · constructor
    · rintro ⟨-, hlen, front, name, rfl, hfit⟩
      refine ⟨front, name, rfl, fun hrec hdeep => ?_, (fits_extension_iff hx).mp hfit⟩
      simpa [hrec, hdeep] using hlen
    · rintro ⟨front, name, rfl, hfront, hname⟩
      refine ⟨by simp, fun k hk => ?_, front, name, rfl, (fits_extension_iff hx).mpr hname⟩
      obtain ⟨⟨hrec, hdeep⟩, rfl⟩ : (s.recursive = false ∧ deep = false) ∧ 1 = k := by
        simpa using hk
      obtain rfl := hfront hrec hdeep
      exact Nat.le_refl 1

theorem extension_glob_lists_grove :
    grove.root.LinkFree ∧ IsExtension "go" ∧
      (∃ files, shallowSelection.entryFiles grove groveLanguage "z/*.go" = .ok files ∧
        "z/.go" ∈ files ∧ "z/b.go" ∈ files) ∧
      shallowSelection.entryFiles grove groveLanguage "-/*.go" = .ok [] := by
  have hdash : grove.lookup (orHere "-") = .ok (.directory [("a.go", .file [])]) :=
    lookup_eq_ok_iff.mpr ⟨["-"], resolve_grove.2, rfl⟩
  obtain ⟨place, hr, -, h, -⟩ := @extension_glob_lists shallowSelection grove groveLanguage "z/*.go"
    "z" "go" _ false linkFree_grove (by decide) lookup_grove (by decide) (by decide)
  obtain ⟨_, -, h', -, -⟩ := @extension_glob_lists shallowSelection grove groveLanguage "-/*.go" "-"
    "go" _ false linkFree_grove (by decide) hdash (by decide) (by decide)
  obtain rfl : ["z"] = place := Except.ok.inj (resolve_grove.1.symm.trans hr)
  obtain ⟨herr, hok⟩ := h (by decide)
  refine ⟨linkFree_grove, by decide, ?_, h' (by decide)⟩
  cases hfiles : shallowSelection.entryFiles grove groveLanguage "z/*.go" with
  | error cause => simpa [shallowSelection] using (herr.mp ⟨cause, hfiles⟩).1
  | ok files =>
    obtain ⟨locs, rfl, -, -, mem⟩ := hok files hfiles
    have hin (name : String) (data : Bytes)
        (hfile : grove.root.get? (["z"] ++ [name]) = some (.file data))
        (hname : '.' :: "go".toList <:+ name.toList) : join (plain "z") name ∈
          locs.map (below (plain "z")) :=
      List.mem_map_of_mem ((mem [name]).mpr
        ⟨⟨data, hfile⟩, [], name, rfl, fun _ _ => rfl, hname⟩)
    exact ⟨_, rfl, hin ".go" [] rfl ⟨[], by decide⟩, hin "b.go" [] rfl ⟨['b'], by decide⟩⟩

/-- Not every directory lists the files with an extension that is asked for by a wildcard: the one
with the name of the standard input does not. -/
theorem dash_extension_glob_lists_nothing :
    ¬ (∀ (d : Disk) (s : Selection) (language : Language) (entry base x : String)
      (place : Location) (inner : List (String × Node)) (files : List String),
      d.root.LinkFree → isGlob base = false → d.resolve base = .ok place →
      d.root.get? place = some (.directory inner) → IsExtension x →
      components entry = components base ++ [.name ("*." ++ x)] →
      s.entryFiles d language entry = .ok files →
      ∀ name data, d.root.get? (place ++ [name]) = some (.file data) →
        '.' :: x.toList <:+ name.toList → join base name ∈ files) := by
  intro h
  have hsplit : Splits "-/*.go" "-" "*.go" [] := ⟨by decide, by decide, by decide⟩
  have hplain : plain "-" = "-" := by decide
  obtain ⟨f, hf, hk⟩ := exists_filter_extension (x := "go") (by decide) false (isBase_plain "-")
  have hnames : extensionNames false "go" = ["*.go"] := by decide
  rw [hplain] at hk
  rw [hnames] at hf
  obtain ⟨hnone, -⟩ := globFiles_lists (s := shallowSelection) linkFree_grove
    resolve_grove.2 rfl hf hk (by decide)
  have hfiles : shallowSelection.entryFiles grove groveLanguage "-/*.go" = .ok [] := by
    rw [entryFiles_glob hsplit, hplain]
    exact hnone (by decide)
  exact absurd (h grove shallowSelection groveLanguage "-/*.go" "-" "go" ["-"] _ [] linkFree_grove
    (by decide) resolve_grove.2 rfl (by decide) (by decide) hfiles "a.go" [] rfl
    ⟨['a'], by decide⟩) List.not_mem_nil

end Selection

end CommentBlocks
