import CommentBlocks.Proofs.Disk.Plain
import CommentBlocks.Proofs.Glob.Line

namespace CommentBlocks

open Bytes Disk Glob CommentBlocks.Path

def Bytes.ofNames (loc : Location) : Bytes := [slash].intercalate (loc.map ofText)

variable {base name : String} {rest loc front : Location} {b w start : Bytes}

theorem ofNames_cons (name : String) (rest : Location) :
    ofNames (name :: rest) = separated slash (ofText name) (rest.map ofText) :=
  intercalate_eq_separated _ _ _

theorem ofNames_concat (front : Location) (name : String) :
    ofNames (front ++ [name]) = (front.map ofText).flatMap (· ++ [slash]) ++ ofText name := by
  rw [ofNames, List.map_append, List.map_singleton, intercalate_concat]

theorem ofText_append (s t : String) : ofText (s ++ t) = ofText s ++ ofText t := by
  rw [ofText, String.toList_append, ofChars_append, ofText, ofText]

theorem ofText_join (hne : base ≠ "") (hs : endsInSlash base = false) (name : String) :
    ofText (join base name) = (ofText base ++ [slash]) ++ ofText name := by
  have he : base.isEmpty = false := by simpa [Bool.eq_false_iff] using hne
  have hslash : ofText "/" = [slash] := rfl
  rw [join, he, hs, Bool.false_or, if_neg Bool.false_ne_true, ofText_append, ofText_append, hslash]

theorem ofText_below_cons (hn : ∀ n ∈ name :: rest, IsName n) :
    ofText (below base (name :: rest)) =
      separated slash (ofText (join base name)) (rest.map ofText) := by
  induction rest generalizing base name with
  | nil => rw [List.map_nil, separated_nil, below_cons, below, List.foldl_nil]
  | cons m rest ih =>
    obtain ⟨hname, hrest⟩ := List.forall_mem_cons.mp hn
    have hj : ofText (join (join base name) m) = (ofText (join base name) ++ [slash]) ++ ofText m :=
      ofText_join (join_ne_empty hname) (endsInSlash_join hname.slashless hname.ne_empty) m
    rw [below_cons, ih hrest, hj, List.map_cons, separated_cons]
    simp [separated]

theorem ofText_below (hj : ∀ name, ofText (join base name) = start ++ ofText name) (hne : loc ≠ [])
    (hn : ∀ name ∈ loc, IsName name) : ofText (below base loc) = start ++ ofNames loc := by
  obtain ⟨name, rest, rfl⟩ := List.exists_cons_of_ne_nil hne
  rw [ofText_below_cons hn, hj, ofNames_cons, separated, separated, List.append_assoc]

namespace Filter

theorem dropHere_append (b : Bytes) : dropHere (ofText "./" ++ b) = b := by
  have hp : (ofText "./").isPrefixOf (ofText "./" ++ b) = true := by
    rw [List.isPrefixOf_iff_prefix]
    exact List.prefix_append _ _
  rw [dropHere, if_pos hp]
  rfl

theorem dropHere_of_not_front (h : ¬ofText "./" <+: b) : dropHere b = b := by
  rw [dropHere, if_neg]
  rwa [List.isPrefixOf_iff_prefix]

theorem not_front_append (hp : ¬ofText "./" <+: b) (hne : b ≠ []) (hd : b ≠ ofText ".")
    (w : Bytes) : ¬ofText "./" <+: b ++ w := by
  have hdots : ofText "./" = [46, 47] := rfl
  have hdot : ofText "." = [46] := rfl
  rw [hdots] at hp ⊢
  rw [hdot] at hd
  rcases b with _ | ⟨x, _ | ⟨y, b⟩⟩
  · exact absurd rfl hne
  · intro h
    obtain ⟨rfl, -⟩ := by simpa using h
    exact hd rfl
  · simpa using hp

theorem relative_of_dropHere {path : String} (hd : b ≠ ofText ".")
    (hb : dropHere (ofText base) = b) (hp : dropHere (ofText path) = b ++ [slash] ++ w) :
    relative base path = w := by
  rw [relative, hb, hp]
  simp [hd]

theorem exists_ofNames_cons (hn : IsName name) (rest : Location) :
    ∃ b bs, b ≠ slash ∧ ofNames (name :: rest) = b :: bs := by
  have hslash := slash_notMem_ofText hn.slashless
  rw [ofNames_cons, separated]
  cases hb : ofText name with
  | nil => exact absurd (ofText_injective (t := "") hb) hn.ne_empty
  | cons b bs => exact ⟨b, _, fun h => hslash (by simp [hb, h]), rfl⟩

theorem relative_below (hb : IsBase base) (hne : loc ≠ []) (hn : ∀ name ∈ loc, IsName name) :
    relative base (below base loc) = ofNames loc := by
  -- A root has its slash already, the dot is dropped from both, and so is a dot with a slash in front.
  by_cases hroot : base = "/"
  · subst hroot
    have hpath : ofText (below "/" loc) = [slash] ++ ofNames loc :=
      ofText_below (fun name => ofText_append "/" name) hne hn
    obtain ⟨name, rest, rfl⟩ := List.exists_cons_of_ne_nil hne
    obtain ⟨b, bs, hslash, hbytes⟩ := exists_ofNames_cons (hn name List.mem_cons_self) rest
    have hbase : dropHere (ofText "/") = [slash] := rfl
    have hdrop : dropHere (slash :: b :: bs) = slash :: b :: bs := rfl
    have hdot : ofText "." ≠ [slash] := by decide
    rw [relative, hpath, hbytes, List.singleton_append, hbase, hdrop]
    simp [hslash, hdot.symm]
  · have hpath : ofText (below base loc) = ofText base ++ [slash] ++ ofNames loc :=
      ofText_below (ofText_join hb.ne_empty (hb.slash.resolve_left hroot)) hne hn
    by_cases hdot : base = "."
    · subst hdot
      have hdots : ofText "." ++ [slash] = ofText "./" := rfl
      rw [hdots] at hpath
      have hbase : dropHere (ofText ".") = ofText "." := rfl
      rw [relative, hpath, dropHere_append, hbase]
      simp
    · by_cases hp : ofText "./" <+: ofText base
      · obtain ⟨b, hbytes⟩ := hp
        refine relative_of_dropHere (b := b) ?_ (hbytes ▸ dropHere_append b) ?_
        · rintro rfl
          exact hb.ne_dots (ofText_injective hbytes.symm)
        · rw [hpath, ← hbytes, List.append_assoc, List.append_assoc, dropHere_append,
            List.append_assoc]
      · have hd : ofText base ≠ ofText "." := fun h => hdot (ofText_injective h)
        have hne : ofText base ≠ [] := fun h => hb.ne_empty (ofText_injective h)
        refine relative_of_dropHere hd (dropHere_of_not_front hp) ?_
        rw [hpath, List.append_assoc]
        exact dropHere_of_not_front (not_front_append hp hne hd _)

variable {p q : String} {ps : List String}

theorem accepts_leading (hp : IsPattern p) (hn : IsName name) (front : Location) :
    (Glob.mk (.leading :: p.toList.map partOf)).accepts (ofNames (front ++ [name])) = true ↔
      FitsByBytes p name := by
  have hparts : Part.leading :: p.toList.map partOf ≠ [.leading] := by
    simpa using fun he => hp.ne_empty (String.ext he)
  rw [accepts_iff, or_iff_right hparts, ofNames_concat,
    takesAll_leading hp.slashless (flatMap_concat_eq_nil_or _ _) (slash_notMem_ofText hn.slashless)]
  rfl

theorem partsOf_ne_leading (hp : p ≠ "") (ps : List (List Char)) :
    partsOf p.toList ps ≠ [.leading] := by
  obtain ⟨c, cs, hc⟩ := List.exists_cons_of_ne_nil fun he : p.toList = [] => hp (String.ext he)
  intro h
  rw [partsOf, separated, hc, List.map_cons, List.cons_append] at h
  have hpart := (List.cons.inj h).1
  rw [partOf] at hpart
  split at hpart
  · cases hpart
  · split at hpart <;> cases hpart

theorem accepts_patterns (hp : ∀ n ∈ p :: ps, IsPattern n) (hne : loc ≠ [])
    (hn : ∀ name ∈ loc, IsName name) :
    (Glob.mk (partsOf p.toList (ps.map String.toList))).accepts (ofNames loc) = true ↔
      List.Forall₂ FitsByBytes (p :: ps) loc := by
  obtain ⟨name, rest, rfl⟩ := List.exists_cons_of_ne_nil hne
  obtain ⟨hpp, hps⟩ := List.forall_mem_cons.mp hp
  obtain ⟨hname, hrest⟩ := List.forall_mem_cons.mp hn
  rw [accepts_iff, or_iff_right (partsOf_ne_leading hpp.ne_empty _), ofNames_cons,
    takesAll_partsOf hpp.slashless (List.forall_mem_map.mpr fun n hm => (hps n hm).slashless)
      (slash_notMem_ofText hname.slashless)
      (List.forall_mem_map.mpr fun n hm => slash_notMem_ofText (hrest n hm).slashless),
    List.forall₂_cons, List.forall₂_cons, List.forall₂_map_left_iff, List.forall₂_map_right_iff]
  rfl

/-- The filter keeps the files on certain ways below the base, and enters every directory. -/
structure KeepsFiles (f : Filter) (base : String) (way : Location → Prop) : Prop where
  enters : ∀ path, f.skips base path true = false
  keeps : ∀ loc, loc ≠ [] → (∀ name ∈ loc, IsName name) →
    (f.skips base (below base loc) false = false ↔ way loc)

theorem keepsFiles_accepting {parts : List Part} {way : Location → Prop} (hb : IsBase base)
    (h : ∀ loc, loc ≠ [] → (∀ name ∈ loc, IsName name) →
      ((Glob.mk parts).accepts (ofNames loc) = true ↔ way loc)) :
    (accepting parts).KeepsFiles base way := by
  refine ⟨fun path => by simp [skips_accepting], fun loc hne hn => ?_⟩
  rw [← h loc hne hn, skips_accepting, relative_below hb hne hn]
  simp

def LastFits (p : String) (loc : Location) : Prop :=
  ∃ front name, loc = front ++ [name] ∧ FitsByBytes p name

theorem keepsFiles_leading (hb : IsBase base) (hp : IsPattern p) :
    (accepting (.leading :: p.toList.map partOf)).KeepsFiles base (LastFits p) := by
  refine keepsFiles_accepting hb fun loc hne hn => ?_
  obtain ⟨front, name, rfl⟩ := (List.eq_nil_or_concat' loc).resolve_left hne
  rw [accepts_leading hp (hn name (by simp))]
  constructor
  · exact fun h => ⟨front, name, rfl, h⟩
  · rintro ⟨front', name', he, h⟩
    exact (List.append_singleton_inj.mp he).2 ▸ h

theorem exists_filter_pattern (hb : IsBase base) (hp : IsPattern p) (hl : Bare p) :
    ∃ f, ofLine? p = .ok (some f) ∧ f.KeepsFiles base (LastFits p) :=
  ⟨_, ofLine?_pattern hp hl, keepsFiles_leading hb hp⟩

theorem exists_filter_deep_pattern (hb : IsBase base) (hp : IsPattern p)
    (hl : Bare ("/".intercalate ["**", p])) :
    ∃ f, ofLine? ("/".intercalate ["**", p]) = .ok (some f) ∧ f.KeepsFiles base (LastFits p) :=
  ⟨_, ofLine?_deep_pattern hp hl, keepsFiles_leading hb hp⟩

theorem exists_filter_patterns (hb : IsBase base) (hp : ∀ n ∈ p :: q :: ps, IsPattern n)
    (hl : Bare ("/".intercalate (p :: q :: ps))) :
    ∃ f, ofLine? ("/".intercalate (p :: q :: ps)) = .ok (some f) ∧
      f.KeepsFiles base (List.Forall₂ FitsByBytes (p :: q :: ps)) :=
  ⟨_, ofLine?_patterns hp hl,
    keepsFiles_accepting hb fun _ hne hn => accepts_patterns hp hne hn⟩

end Filter

end CommentBlocks
