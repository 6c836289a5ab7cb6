import CommentBlocks.Proofs.Disk.Follow

namespace CommentBlocks

open CommentBlocks.Path

structure Component.IsRead (c : Component) : Prop where
  slashless : '/' ∉ c.text.toList
  read : component? c.text.toList = some c

namespace Path

variable {name : String} {c : Component} {segment s : List Char}

theorem text_of_component? (h : component? segment = some c) : c.text.toList = segment := by
  rw [component?] at h
  split at h
  · cases h
  · split at h
    · obtain rfl := Option.some.inj h
      exact Eq.symm ‹_›
    · split at h
      · obtain rfl := Option.some.inj h
        exact Eq.symm ‹_›
      · obtain rfl := Option.some.inj h
        exact String.toList_ofList

theorem component?_of_ne_nil (h : segment ≠ []) : ∃ c, component? segment = some c := by
  rw [component?, if_neg h]
  split_ifs
  · exact ⟨_, rfl⟩
  · exact ⟨_, rfl⟩
  · exact ⟨_, rfl⟩

theorem of_mem_segments (h : segment ∈ segments s) : '/' ∉ segment ∧ segment ⊆ s := by
  induction s generalizing segment with
  | nil =>
    obtain rfl : segment = [] := by simpa [segments] using h
    simp
  | cons c s ih =>
    rw [segments] at h
    split at h
    · rcases List.mem_cons.mp h with rfl | h
      · simp
      · exact (ih h).imp_right fun hs => List.subset_cons_of_subset c hs
    · rename_i hc
      split at h
      · rename_i t ts hts
        have hmem : ∀ u ∈ t :: ts, '/' ∉ u ∧ u ⊆ s := fun u hu => ih (hts ▸ hu)
        rcases List.mem_cons.mp h with rfl | h
        · obtain ⟨hn, hsub⟩ := hmem t List.mem_cons_self
          exact ⟨by simp [Ne.symm hc, hn], List.cons_subset_cons c hsub⟩
        · exact (hmem segment (List.mem_cons_of_mem t h)).imp_right
            fun hs => List.subset_cons_of_subset c hs
      · rename_i hnil
        exact absurd hnil (segments_ne_nil s)

theorem IsName.isRead (h : IsName name) : (Component.name name).IsRead :=
  ⟨h.slashless, h.component?⟩

theorem filterMap_segments_ne_nil (hn : s ≠ []) (h : s.getLast? ≠ some '/') :
    (segments s).filterMap component? ≠ [] := by
  induction s with
  | nil => exact absurd rfl hn
  | cons c s ih =>
    have hs : s ≠ [] → (segments s).filterMap component? ≠ [] := by
      intro hs
      apply ih hs
      rwa [List.getLast?_cons_of_ne_nil hs] at h
    rw [segments]
    split
    · rename_i hc
      have hs' : s ≠ [] := by
        rintro rfl
        exact h (by simp [hc])
      simpa [component?] using hs hs'
    · obtain ⟨first, rest, hseg⟩ := List.exists_cons_of_ne_nil (segments_ne_nil s)
      obtain ⟨k, hk⟩ := component?_of_ne_nil (List.cons_ne_nil c first)
      simp [hseg, hk]

end Path

namespace Disk

def innerSteps (path : String) : List Component := (segments path.toList).filterMap component?

def strides (path : String) : List Component := (innerSteps path).filter (· != .here)

variable {d : Disk} {links : Nat} {place loc : Location} {path name : String} {c : Component}
  {cs a b : List Component}

theorem of_mem_innerSteps (h : c ∈ innerSteps path) : c.IsRead ∧ c.text.toList ⊆ path.toList := by
  obtain ⟨segment, hm, hc⟩ := List.mem_filterMap.mp h
  obtain rfl := text_of_component? hc
  obtain ⟨hs, hsub⟩ := of_mem_segments hm
  exact ⟨⟨hs, hc⟩, hsub⟩

def extend (path : String) (cs : List Component) : String :=
  cs.foldl (fun path c => join path c.text) path

theorem below_eq_extend (path : String) (loc : Location) :
    below path loc = extend path (loc.map .name) := by
  rw [extend, List.foldl_map]
  rfl

theorem extend_cons (path : String) (c : Component) (cs : List Component) :
    extend path (c :: cs) = extend (join path c.text) cs := rfl

theorem text_ne_empty (h : c.IsRead) : c.text ≠ "" := by
  intro he
  have hr := h.read
  rw [he] at hr
  cases hr

theorem innerSteps_join_text (h : c.IsRead) :
    innerSteps (join path c.text) = innerSteps path ++ [c] := by
  have hone : [c.text.toList].filterMap component? = [c] := by simp [h.read]
  by_cases hp : path = ""
  · subst hp
    rw [join_empty, innerSteps, segments_of_slashless h.slashless, hone]
    rfl
  · obtain ⟨front, -, hs, hj⟩ := exists_segments_join h.slashless hp
    have hnil : [[]].filterMap component? = [] := rfl
    rw [innerSteps, innerSteps, hj, List.filterMap_append, hone]
    rcases hs with hs | hs
    · rw [hs]
    · rw [hs, List.filterMap_append, hnil, List.append_nil]

theorem endsInSlash_join (h : '/' ∉ name.toList) (hn : name ≠ "") :
    endsInSlash (join path name) = false := by
  obtain ⟨front, c, hc⟩ := (List.eq_nil_or_concat' name.toList).resolve_left
    fun he => hn (String.ext he)
  have hs : c ≠ '/' := fun he => h (hc ▸ he ▸ by simp)
  have hl : ∀ s : String, endsInSlash (s ++ name) = false := by
    simp [endsInSlash, String.toList_append, hc, ← List.append_assoc, hs]
  rw [join]
  split
  · exact hl path
  · exact hl (path ++ "/")

theorem whole_join (hp : '\x00' ∉ path.toList) (hn : '\x00' ∉ name.toList) :
    '\x00' ∉ (join path name).toList := by
  rw [join]
  split <;> simp [String.toList_append, hp, hn]

theorem whole_extend (hp : '\x00' ∉ path.toList) (h : ∀ c ∈ cs, '\x00' ∉ c.text.toList) :
    '\x00' ∉ (extend path cs).toList := by
  induction cs generalizing path with
  | nil => exact hp
  | cons c cs ih =>
    obtain ⟨hc, hcs⟩ := List.forall_mem_cons.mp h
    exact ih (whole_join hp hc) hcs

theorem innerSteps_extend (h : ∀ c ∈ cs, c.IsRead) :
    innerSteps (extend path cs) = innerSteps path ++ cs := by
  induction cs generalizing path with
  | nil => simp [extend]
  | cons c cs ih =>
    obtain ⟨hc, hcs⟩ := List.forall_mem_cons.mp h
    rw [extend_cons, ih hcs, innerSteps_join_text hc, List.append_assoc, List.singleton_append]

theorem isAbsolute_extend (h : ∀ c ∈ cs, c.IsRead) :
    isAbsolute (extend path cs) = isAbsolute path := by
  induction cs generalizing path with
  | nil => rfl
  | cons c cs ih =>
    obtain ⟨hc, hcs⟩ := List.forall_mem_cons.mp h
    rw [extend_cons, ih hcs, isAbsolute_join hc.slashless]

theorem endsInSlash_extend (h : ∀ c ∈ cs, c.IsRead) (hne : cs ≠ []) :
    endsInSlash (extend path cs) = false := by
  obtain ⟨front, c, rfl⟩ := (List.eq_nil_or_concat' cs).resolve_left hne
  have hc := h c (by simp)
  rw [extend, List.foldl_append]
  exact endsInSlash_join hc.slashless (text_ne_empty hc)

theorem exists_segments_of_relative (h : isAbsolute path = false) (hne : path ≠ "") :
    ∃ first rest, segments path.toList = first :: rest ∧ first ≠ [] := by
  obtain ⟨c, cs, hc⟩ := List.exists_cons_of_ne_nil fun he : path.toList = [] => hne (String.ext he)
  have hslash : c ≠ '/' := by
    rintro rfl
    simp [isAbsolute, hc] at h
  rw [hc, segments, if_neg hslash]
  split
  · exact ⟨_, _, rfl, List.cons_ne_nil _ _⟩
  · exact ⟨_, _, rfl, List.cons_ne_nil _ _⟩

theorem segments_of_absolute (h : isAbsolute path = true) :
    ∃ rest, path.toList = '/' :: rest ∧ segments path.toList = [] :: segments rest := by
  obtain ⟨rest, hr⟩ := List.head?_eq_some_iff.mp (by simpa [isAbsolute] using h)
  exact ⟨rest, hr, by simp [hr, segments]⟩

theorem components_eq (path : String) : components path =
    if isAbsolute path then .root :: (innerSteps path).filter (· != .here)
    else (innerSteps path).take 1 ++ ((innerSteps path).drop 1).filter (· != .here) := by
  rw [components, innerSteps]
  cases ha : isAbsolute path with
  | true =>
    obtain ⟨rest, -, hs⟩ := segments_of_absolute ha
    simp [hs, component?]
  | false =>
    by_cases hne : path = ""
    · subst hne
      rfl
    · obtain ⟨first, rest, hs, hfirst⟩ := exists_segments_of_relative ha hne
      obtain ⟨k, hk⟩ := component?_of_ne_nil hfirst
      simp [hs, hk]

theorem of_mem_components (h : c ∈ components path) : c = .root ∨ c.text.toList ⊆ path.toList := by
  have hin : c = .root ∨ c ∈ innerSteps path := by
    rw [components_eq] at h
    split at h
    · exact (List.mem_cons.mp h).imp_right fun h => (List.mem_filter.mp h).1
    · refine .inr ?_
      rcases List.mem_append.mp h with h | h
      · exact List.mem_of_mem_take h
      · exact List.mem_of_mem_drop (List.mem_filter.mp h).1
  exact hin.imp_right fun h => (of_mem_innerSteps h).2

theorem follow_without_here (h : d.follow links place (a ++ .here :: b) = .ok loc) :
    d.follow links place (a ++ b) = .ok loc := by
  cases ha : d.follow links place a with
  | error e => simp [follow_append_of_error ha] at h
  | ok mid =>
    obtain ⟨left, -, hl⟩ := exists_left_of_follow ha
    rw [hl, follow] at h
    rw [hl]
    split at h
    · exact h
    · cases h
    · cases h

/-- A dot can be put on a way, at its end if the way leads to a directory. -/
theorem follow_with_here (h : d.follow links place (a ++ b) = .ok loc)
    (hb : b = [] → ∃ entries, d.root.get? loc = some (.directory entries)) :
    d.follow links place (a ++ .here :: b) = .ok loc := by
  cases ha : d.follow links place a with
  | error e => simp [follow_append_of_error ha] at h
  | ok mid =>
    obtain ⟨left, -, hl⟩ := exists_left_of_follow ha
    rw [hl] at h
    obtain ⟨entries, hd⟩ : ∃ entries, d.root.get? mid = some (.directory entries) := by
      cases b with
      | nil =>
        obtain rfl : mid = loc := by simpa [follow] using h
        exact hb rfl
      | cons c b =>
        rw [follow] at h
        split at h
        · exact ⟨_, by assumption⟩
        · cases h
        · cases h
    rw [hl, follow, hd]
    exact h

theorem follow_filter (h : d.follow links place (a ++ b) = .ok loc) :
    d.follow links place (a ++ b.filter (· != .here)) = .ok loc := by
  induction b generalizing a with
  | nil => exact h
  | cons c b ih =>
    by_cases hc : c = .here
    · subst hc
      exact ih (follow_without_here h)
    · rw [List.append_cons] at h
      simpa [hc] using ih h

/-- The induction moves what has been gone to the front, so that a dot is put on at its place. -/
theorem follow_of_filter (h : d.follow links place (a ++ b.filter (· != .here)) = .ok loc)
    (hb : b.getLast? = some .here → ∃ entries, d.root.get? loc = some (.directory entries)) :
    d.follow links place (a ++ b) = .ok loc := by
  induction b generalizing a with
  | nil => exact h
  | cons c b ih =>
    have htail : b.getLast? = some .here →
        ∃ entries, d.root.get? loc = some (.directory entries) := by
      intro hl
      apply hb
      rw [List.getLast?_cons, hl]
      rfl
    by_cases hc : c = .here
    · subst hc
      refine follow_with_here (ih h htail) ?_
      rintro rfl
      exact hb rfl
    · rw [List.append_cons]
      refine ih ?_ htail
      simpa [hc] using h

theorem filter_steps (path : String) : (steps path).filter (· != .here) = strides path := by
  rw [steps, strides]
  split
  · simp [innerSteps]
  · rfl

/-- The components of a path that are no dots. -/
def course (path : String) : List Component := (components path).filter (· != .here)

theorem course_eq (path : String) :
    course path = (if isAbsolute path then [.root] else []) ++ strides path := by
  rw [course, components_eq, strides]
  split
  · simp
  · rw [List.filter_append, List.filter_filter, List.nil_append]
    simp only [Bool.and_self]
    rw [← List.filter_append, List.take_append_drop]

theorem root_notMem_strides (path : String) : Component.root ∉ strides path := by
  intro h
  have hread := (of_mem_innerSteps (List.mem_filter.mp h).1).1
  exact absurd hread.slashless (by decide)

theorem of_course_eq {p q : String} (h : course q = course p) :
    isAbsolute q = isAbsolute p ∧ strides q = strides p := by
  have hroot {path : String} {cs : List Component} : .root :: cs ≠ strides path :=
    fun he => root_notMem_strides path (he ▸ List.mem_cons_self)
  rw [course_eq, course_eq] at h
  cases ha : isAbsolute q with
  | false =>
    cases hb : isAbsolute p with
    | false => simpa [ha, hb] using h
    | true => exact absurd (by simpa [ha, hb] using h.symm) hroot
  | true =>
    cases hb : isAbsolute p with
    | false => exact absurd (by simpa [ha, hb] using h) hroot
    | true => simpa [ha, hb] using h

/-- Two paths that differ in dots and slashes alone lead to the same place. One that asks for a
directory leads to nothing else. -/
theorem locate_of_course {p q : String} (h : d.locate p = .ok loc) (hc : course q = course p)
    (hw : '\x00' ∉ q.toList) (hne : q ≠ "") (hd : (steps q).getLast? = some .here →
      ∃ entries, d.root.get? loc = some (.directory entries)) : d.locate q = .ok loc := by
  obtain ⟨ha, hs⟩ := of_course_eq hc
  obtain ⟨-, -, hf⟩ := locate_eq_ok_iff.mp h
  have hp : d.follow linkLimit (origin d.working p) ((steps q).filter (· != .here)) = .ok loc := by
    rw [filter_steps, hs, ← filter_steps]
    exact follow_filter (a := []) (b := steps p) hf
  refine locate_eq_ok_iff.mpr ⟨hw, hne, ?_⟩
  rw [origin, ha]
  exact follow_of_filter (a := []) (b := steps q) hp hd

theorem normalize_course (path : String) : normalize (course path) = normalize (components path) := by
  have hfold (cs path : List Component) :
      (cs.filter (· != .here)).foldl settle path = cs.foldl settle path := by
    induction cs generalizing path with
    | nil => rfl
    | cons c cs ih =>
      by_cases hc : c = .here
      · subst hc
        exact ih path
      · rw [List.filter_cons_of_pos (by simpa using hc)]
        exact ih (settle path c)
  rw [Path.normalize, Path.normalize, course, hfold]

theorem identity_of_course {p q : String} (hp : d.locate p = .ok loc) (hq : d.locate q = .ok loc)
    (hc : course q = course p) : d.identity q = d.identity p := by
  have hn : normalize (components q) = normalize (components p) := by
    rw [← normalize_course, hc, normalize_course]
  rw [identity, identity, canonical, canonical, hp, hq, hn]

theorem steps_ne_nil (h : path ≠ "") : steps path ≠ [] := by
  rw [steps]
  split
  · simp
  · rename_i hs
    refine filterMap_segments_ne_nil (fun hn => h (String.ext hn)) fun hl => hs ?_
    simp [endsInSlash, hl]

theorem exists_node_of_locate (h : d.locate path = .ok loc) : ∃ n, d.root.get? loc = some n := by
  obtain ⟨-, hne, hf⟩ := locate_eq_ok_iff.mp h
  obtain ⟨step, rest, hs⟩ := List.exists_cons_of_ne_nil (steps_ne_nil hne)
  rw [hs] at hf
  have hd : ∃ entries, d.root.get? (origin d.working path) = some (.directory entries) := by
    rw [follow] at hf
    split at hf
    · exact ⟨_, by assumption⟩
    · cases hf
    · cases hf
  rcases solid_of_follow hf (.inr hd) with ⟨data, hn⟩ | ⟨entries, hn⟩
  · exact ⟨_, hn⟩
  · exact ⟨_, hn⟩

theorem locate_of_lookup_noEntry (h : d.lookup path = .error (.system .noEntry)) :
    d.locate path = .error (.system .noEntry) := by
  rw [lookup] at h
  cases hr : d.resolve path with
  | error e =>
    obtain rfl : e = .system .noEntry := by simpa [hr, bind, Except.bind] using h
    rw [resolve] at hr
    split at hr
    · cases hr
    · split at hr
      · cases hr
      · exact hr
  | ok loc =>
    obtain ⟨n, hn⟩ := exists_node_of_locate (locate_of_resolve hr)
    simp [hr, hn, bind, Except.bind] at h

theorem identity_of_missing (h : d.lookup path = .error (.system .noEntry)) :
    d.identity path = normalize (components path) := by
  simp [identity, canonical, locate_of_lookup_noEntry h, bind, Except.bind]

end Disk

end CommentBlocks
