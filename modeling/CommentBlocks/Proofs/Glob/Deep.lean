import CommentBlocks.Proofs.Glob.Kept

namespace CommentBlocks

open Bytes Glob CommentBlocks.Path

/-- The names of a line fit the names of a way, where two stars stand for any number of them. -/
inductive DeepFits : List String → Location → Prop
  | nil : DeepFits [] []
  | name {n name ns loc} (hp : IsPattern n) (hf : FitsByBytes n name) (h : DeepFits ns loc) :
    DeepFits (n :: ns) (name :: loc)
  | deep {ns loc} (front : Location) (h : DeepFits ns loc) : DeepFits ("**" :: ns) (front ++ loc)

variable {front loc : Location} {ns : List String}

theorem DeepFits.ne_nil (h : DeepFits ns loc) {p : String} (hl : ns.getLast? = some p)
    (hp : p ≠ "**") : loc ≠ [] := by
  induction h with
  | nil => simp at hl
  | name => simp
  | @deep ns loc front h ih =>
    cases ns with
    | nil => simp_all
    | cons n ns => simp_all

def Bytes.ofFront (loc : Location) : Bytes := (loc.map ofText).flatMap (· ++ [slash])

theorem ofNames_append (front : Location) (hne : loc ≠ []) :
    ofNames (front ++ loc) = ofFront front ++ ofNames loc := by
  obtain ⟨back, name, rfl⟩ := (List.eq_nil_or_concat' loc).resolve_left hne
  rw [← List.append_assoc, ofNames_concat, ofNames_concat, ofFront, List.map_append,
    List.flatMap_append, List.append_assoc]

theorem takes_leading_append {u v : Bytes} (hu : Part.leading.Takes u) (hv : Part.leading.Takes v) :
    Part.leading.Takes (u ++ v) := by
  rcases hv with rfl | ⟨x, rfl⟩
  · rwa [List.append_nil]
  · exact .inr ⟨u ++ x, (List.append_assoc _ _ _).symm⟩

theorem takes_leading_ofFront (front : Location) : Part.leading.Takes (ofFront front) :=
  flatMap_concat_eq_nil_or _ _

theorem takes_between {w : Bytes} (h : Part.leading.Takes w) : Part.between.Takes (slash :: w) := by
  rcases h with rfl | ⟨v, rfl⟩
  · exact .inl rfl
  · exact .inr ⟨v, rfl⟩

namespace Glob

def Flat (ps : List Part) : Prop := ∀ p ∈ ps, ∀ alternatives, p ≠ .choice alternatives

theorem flat_append {ps qs : List Part} (hp : Flat ps) (hq : Flat qs) : Flat (ps ++ qs) :=
  List.forall_mem_append.mpr ⟨hp, hq⟩

theorem flat_map_partOf (s : List Char) : Flat (s.map partOf) :=
  List.forall_mem_map.mpr fun c _ => Filter.partOf_ne_choice c

/-- Where the reading of a name begins: what has been read stands for certain bytes, and they end in
a slash if there are any. -/
inductive AtName : Option Char → List Part → Bytes → Prop
  | start : AtName none [] []
  | leading {w} (h : Part.leading.Takes w) : AtName (some '/') [.leading] w
  | slash {ps w} (hf : Flat ps) (h : TakesAll ps w) :
    AtName (some '/') (ps ++ [.literal '/']) (w ++ [slash])
  | between {ps u w} (hf : Flat ps) (h : TakesAll ps u) (hw : Part.leading.Takes w) :
    AtName (some '/') (ps ++ [.between]) (u ++ slash :: w)

variable {last : Option Char} {ps : List Part} {w : Bytes}

theorem AtName.takes (h : AtName last ps w) : Flat ps ∧ TakesAll ps w := by
  have hslash : ofChars ['/'] = [Bytes.slash] := rfl
  cases h with
  | start => exact ⟨by simp [Flat], rfl⟩
  | @leading w hw => exact ⟨by simp [Flat], w, [], by simp, hw, rfl⟩
  | slash hf h =>
    refine ⟨flat_append hf (by simp [Flat]), takesAll_append.mpr ⟨_, _, rfl, h, ?_⟩⟩
    exact ⟨[Bytes.slash], [], rfl, hslash.symm, rfl⟩
  | between hf h hw =>
    refine ⟨flat_append hf (by simp [Flat]), takesAll_append.mpr ⟨_, _, rfl, h, ?_⟩⟩
    exact ⟨_, [], by simp, takes_between hw, rfl⟩

theorem AtName.deepStar (h : AtName last ps w) (front : Location) (s : List Char) :
    ∃ qs, Glob.deepStar last ⟨ps.reverse, []⟩ ('/' :: s) = (⟨qs.reverse, []⟩, '/', s) ∧
      AtName (some '/') qs (w ++ ofFront front) := by
  have hfront := takes_leading_ofFront front
  cases h with
  | start => exact ⟨[.leading], rfl, .leading hfront⟩
  | leading hw => exact ⟨[.leading], rfl, .leading (takes_leading_append hw hfront)⟩
  | @slash ps w hf h =>
    refine ⟨ps ++ [.between], by simp [Glob.deepStar, Draft.deepen], ?_⟩
    rw [List.append_assoc, List.singleton_append]
    exact .between hf h hfront
  | @between ps u w hf h hw =>
    refine ⟨ps ++ [.between], by simp [Glob.deepStar, Draft.deepen], ?_⟩
    rw [List.append_assoc, List.cons_append]
    exact .between hf h (takes_leading_append hw hfront)

theorem AtName.pattern {n name : String} (h : AtName last ps w) (hp : IsPattern n)
    (hn : IsName name) (hf : FitsByBytes n name) {s : List Char} (hs : ∀ t, s ≠ '*' :: t) :
    readParts last ⟨ps.reverse, []⟩ (n.toList ++ s) = readParts (n.toList.getLast?.or last)
        ⟨(ps ++ n.toList.map partOf).reverse, []⟩ s ∧
      Flat (ps ++ n.toList.map partOf) ∧
      TakesAll (ps ++ n.toList.map partOf) (w ++ ofText name) := by
  obtain ⟨hflat, htakes⟩ := h.takes
  refine ⟨?_, flat_append hflat (flat_map_partOf _), takesAll_append.mpr ⟨w, _, rfl, htakes, ?_⟩⟩
  · rw [readParts_append hp.plain rfl hs fun hd => absurd (String.ext hd) hp.ne_deep,
      Draft.pushAll, List.reverse_append]
  · exact (takesAll_map_partOf hp.slashless).mpr ⟨slash_notMem_ofText hn.slashless, hf⟩

def spelling (ns : List String) : List Char := ['/'].intercalate (ns.map String.toList)

theorem spelling_cons (n m : String) (ns : List String) :
    spelling (n :: m :: ns) = n.toList ++ '/' :: spelling (m :: ns) := by
  simp [spelling, List.intercalate_cons_cons]

/-- A line that ends in a pattern is read to parts that stand for the ways that fit it. -/
theorem exists_readParts_spelling (h : AtName last ps w) (hf : DeepFits ns loc) {p : String}
    (hl : ns.getLast? = some p) (hp : p ≠ "**") (hn : ∀ name ∈ loc, IsName name) :
    ∃ qs, readParts last ⟨ps.reverse, []⟩ (spelling ns) = .ok ⟨qs.reverse, []⟩ ∧ Flat qs ∧
      TakesAll qs (w ++ ofNames loc) := by
  induction hf generalizing last ps w with
  | nil => simp at hl
  | @name n name ns loc hpat hfit hrest ih =>
    obtain ⟨hname, hloc⟩ := List.forall_mem_cons.mp hn
    cases ns with
    | nil =>
      cases hrest
      obtain ⟨hread, hflat, htakes⟩ := h.pattern hpat hname hfit (s := []) (by simp)
      refine ⟨_, ?_, hflat, by simpa [ofNames] using htakes⟩
      simpa [spelling, readParts] using hread
    | cons m ns =>
      obtain ⟨hread, hflat, htakes⟩ :=
        h.pattern hpat hname hfit (s := '/' :: spelling (m :: ns)) (by simp)
      obtain ⟨qs, hqs, hflat', htakes'⟩ := ih (.slash hflat htakes) (by simpa using hl) hloc
      refine ⟨qs, ?_, hflat', ?_⟩
      · rw [spelling_cons, hread, readParts_slash, ← hqs, Draft.push, List.reverse_concat]
      · have hne : loc ≠ [] := hrest.ne_nil (by simpa using hl) hp
        have happend : ofNames ([name] ++ loc) = _ := ofNames_append [name] hne
        rw [List.singleton_append] at happend
        simpa [happend, ofFront] using htakes'
  | @deep ns loc front hrest ih =>
    cases ns with
    | nil => simp_all
    | cons m ns =>
      obtain ⟨qs, hstar, hat⟩ := h.deepStar front (spelling (m :: ns))
      have hne : loc ≠ [] := hrest.ne_nil (by simpa using hl) hp
      obtain ⟨rs, hrs, hflat, htakes⟩ :=
        ih hat (by simpa using hl) fun name hm => hn name (List.mem_append_right _ hm)
      refine ⟨rs, ?_, hflat, ?_⟩
      · have hspell : spelling ("**" :: m :: ns) = '*' :: '*' :: '/' :: spelling (m :: ns) := by
          rw [spelling_cons]
          rfl
        rw [hspell, readParts, hstar]
        exact hrs
      · rwa [ofNames_append front hne, ← List.append_assoc]

theorem spelling_concat (front : List String) (n : String) :
    spelling (front ++ [n]) = (front.map String.toList).flatMap (· ++ ['/']) ++ n.toList := by
  rw [spelling, List.map_append, List.map_singleton, intercalate_concat]

theorem spelling_append (hne : ns ≠ []) (n : String) :
    spelling (ns ++ [n]) = spelling ns ++ '/' :: n.toList := by
  obtain ⟨front, m, rfl⟩ := (List.eq_nil_or_concat' ns).resolve_left hne
  rw [spelling_concat, spelling_concat]
  simp

end Glob

namespace Filter

def IsDeepPattern (n : String) : Prop := n = "**" ∨ IsPattern n

instance (n : String) : Decidable (IsDeepPattern n) := inferInstanceAs (Decidable (_ ∨ _))

variable {base : String}

theorem IsDeepPattern.ne_empty {n : String} (h : IsDeepPattern n) : n ≠ "" := by
  rcases h with rfl | h
  · decide
  · exact h.ne_empty

theorem IsDeepPattern.plain {n : String} (h : IsDeepPattern n) : ∀ c ∈ n.toList, c ∉ reserved := by
  rcases h with rfl | h
  · simp [reserved]
  · exact h.plain

theorem deepFits_append {ms : List String} (hn : ∀ n ∈ ns, IsDeepPattern n) (h : DeepFits ms loc) :
    DeepFits (ns ++ ms) (ns ++ loc) := by
  induction ns with
  | nil => exact h
  | cons n ns ih =>
    obtain ⟨hn, hns⟩ := List.forall_mem_cons.mp hn
    rcases hn with rfl | hp
    · exact .deep ["**"] (ih hns)
    · exact .name hp (.refl _) (ih hns)

theorem deepFits_star : DeepFits ["**", "*"] ["**"] :=
  .deep [] (.name (by decide) (.star (ofText "**") .nil) .nil)

/-- What is read as a glob is spelled by names that the names of the line fit, the last one of them
being a pattern. -/
theorem exists_spelling (hne : ns ≠ []) (hn : ∀ n ∈ ns, IsDeepPattern n) (hd : ns ≠ ["**"]) :
    ∃ ms p, within (anywhere ⟨false, false, spelling ns⟩ (spelling ns)) = spelling ms ∧
      DeepFits ms ns ∧ ms.getLast? = some p ∧ p ≠ "**" := by
  obtain ⟨front, last, rfl⟩ := (List.eq_nil_or_concat' ns).resolve_left hne
  have hself : DeepFits (front ++ [last]) (front ++ [last]) := by
    simpa using deepFits_append hn .nil
  have hany (h : front ≠ []) (m : Marks) :
      anywhere m (spelling (front ++ [last])) = spelling (front ++ [last]) := by
    have hmem : '/' ∈ spelling (front ++ [last]) := by simp [spelling_append h]
    rw [anywhere, if_pos (by simp [hmem])]
  have hslash : IsFront ((front.map String.toList).flatMap (· ++ ['/'])) :=
    flatMap_concat_eq_nil_or _ _
  rcases hn last (by simp) with rfl | hp
  · have hfront : front ≠ [] := by
      rintro rfl
      exact hd rfl
    refine ⟨front ++ ["**"] ++ ["*"], "*", ?_, ?_, by simp, by decide⟩
    · have hend : ['*', '*', '/'] <+: (spelling (front ++ ["**"])).reverse := by
        rw [spelling_append hfront]
        exact ⟨(spelling front).reverse, by simp⟩
      rw [hany hfront, within, if_pos (List.isPrefixOf_iff_prefix.mpr hend)]
      exact (spelling_append hne "*").symm
    · rw [List.append_assoc]
      exact deepFits_append (fun n hm => hn n (by simp [hm])) deepFits_star
  · by_cases hfront : front = []
    · subst hfront
      have hany : anywhere ⟨false, false, last.toList⟩ last.toList =
          '*' :: '*' :: '/' :: last.toList := by
        have hstars : last.toList ≠ ['*', '*'] := fun hd => hp.ne_deep (String.ext hd)
        simp [anywhere, hp.slashless, hstars]
      have hw : within (['*', '*', '/'] ++ last.toList) = ['*', '*', '/'] ++ last.toList :=
        within_of_pattern hp (.inr ⟨['*', '*'], rfl⟩)
      refine ⟨["**", last], last, ?_, .deep [] hself, rfl, hp.ne_deep⟩
      simpa [spelling, hany] using hw
    · refine ⟨front ++ [last], last, ?_, hself, by simp, hp.ne_deep⟩
      rw [hany hfront, spelling_concat, within_of_pattern hp hslash]

theorem ends_of_spelling (hne : ns ≠ []) (hn : ∀ n ∈ ns, IsDeepPattern n) :
    spelling ns ≠ [] ∧ (∀ c ∈ (spelling ns).head?, c ≠ '/' ∧ c ≠ '\\') ∧
      (spelling ns).getLast? ≠ some '/' := by
  obtain ⟨first, rest, rfl⟩ := List.exists_cons_of_ne_nil hne
  obtain ⟨front, last, hfl⟩ := (List.eq_nil_or_concat' (first :: rest)).resolve_left hne
  have hf := hn first List.mem_cons_self
  have hl := hn last (by simp [hfl])
  have htail : ∃ tail, spelling (first :: rest) = first.toList ++ tail := by
    cases rest with
    | nil => exact ⟨[], by simp [spelling]⟩
    | cons m rest => exact ⟨_, spelling_cons first m rest⟩
  obtain ⟨tail, htail⟩ := htail
  refine ⟨fun he => ?_, htail ▸ head?_append_plain hf.ne_empty hf.plain tail, ?_⟩
  · rw [htail, List.append_eq_nil_iff] at he
    exact hf.ne_empty (String.ext he.1)
  · rw [hfl, spelling_concat]
    exact getLast?_append_plain hl.ne_empty hl.plain _

theorem exists_accepting (hne : ns ≠ []) (hn : ∀ n ∈ ns, IsDeepPattern n)
    (hb : Bare ("/".intercalate ns)) (hname : ∀ n ∈ ns, IsName n) :
    ∃ parts, ofLine? ("/".intercalate ns) = .ok (some (accepting parts)) ∧
      (Glob.mk parts).accepts (ofNames ns) = true := by
  have hline : ("/".intercalate ns).toList = spelling ns := String.toList_intercalate
  obtain ⟨parts, hparse, hflat, haccepts⟩ : ∃ parts,
      Glob.parse (String.ofList (within (anywhere ⟨false, false, spelling ns⟩ (spelling ns)))) =
        .ok ⟨parts⟩ ∧ Flat parts ∧ (Glob.mk parts).accepts (ofNames ns) = true := by
    by_cases hd : ns = ["**"]
    · subst hd
      refine ⟨[.leading], ?_, by simp [Flat], rfl⟩
      have hstars : within (anywhere ⟨false, false, spelling ["**"]⟩ (spelling ["**"])) =
          ['*', '*'] := by decide
      rw [hstars, Glob.parse, String.toList_ofList, readParts]
      simp [deepStar, Draft.push, readParts]
    · obtain ⟨ms, p, hw, hf, hl, hp⟩ := exists_spelling hne hn hd
      obtain ⟨parts, hread, hflat, htakes⟩ := exists_readParts_spelling .start hf hl hp hname
      refine ⟨parts, ?_, hflat, accepts_iff.mpr (.inr htakes)⟩
      rw [List.reverse_nil] at hread
      rw [hw, Glob.parse, String.toList_ofList, hread]
      simp
  obtain ⟨hempty, hhead, hlast⟩ := ends_of_spelling hne hn
  rw [← hline] at hempty hhead hlast hparse
  exact ⟨parts, ofLine?_of_bare hb (fun he => hempty (he ▸ rfl)) hhead hlast hflat hparse, haccepts⟩

end Filter

end CommentBlocks
