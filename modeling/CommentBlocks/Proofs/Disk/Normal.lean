import CommentBlocks.Proofs.Disk.Plain
import Mathlib.Logic.Relation

namespace CommentBlocks

open CommentBlocks.Disk

namespace Path

/-- Steps up with names behind them, and the root in front or not. -/
def settled (rooted : Bool) (ups : Nat) (names : List String) : List Component :=
  (if rooted then [.root] else []) ++ (List.replicate ups .up ++ names.map .name)

def normal (path : String) : String := spell (normalize (components path))

variable {path p q name : String} {c k : Component} {cs rest : List Component} {rooted : Bool}
  {ups : Nat} {names : List String}

theorem settle_up (h : ∀ s, .name s ∉ cs) : settle cs .up = .up :: cs := by
  unfold settle
  split
  · contradiction
  · exact absurd List.mem_cons_self (h _)
  · rfl

theorem mem_of_mem_settle (h : c ∈ settle cs k) : c = k ∨ c ∈ cs := by
  unfold settle at h
  split at h
  · exact .inr h
  · exact .inr (List.mem_cons_of_mem _ h)
  · exact List.mem_cons.mp h

theorem mem_of_mem_foldl_settle (h : c ∈ rest.foldl settle cs) : c ∈ rest ∨ c ∈ cs := by
  induction rest generalizing cs with
  | nil => exact .inr h
  | cons k rest ih =>
    rcases ih h with h | h
    · exact .inl (List.mem_cons_of_mem k h)
    · rcases mem_of_mem_settle h with rfl | h
      · exact .inl List.mem_cons_self
      · exact .inr h

theorem name_notMem_settled (s : String) : .name s ∉ (settled rooted ups []).reverse := by
  cases rooted <;> simp [settled]

theorem settle_settled_up : settle (settled rooted ups []).reverse .up =
    (settled rooted (ups + 1) []).reverse := by
  rw [settle_up name_notMem_settled]
  simp [settled, List.replicate_succ']

theorem settle_settled_name (s : String) : settle (settled rooted ups names).reverse (.name s) =
    (settled rooted ups (names ++ [s])).reverse := by
  simp [settled, settle]

theorem settle_settled_name_up (s : String) :
    settle (settled rooted ups (names ++ [s])).reverse .up =
      (settled rooted ups names).reverse := by
  simp [settled, settle]

theorem exists_foldl_settle (h : .root ∉ cs) (rooted : Bool) (ups : Nat) (names : List String) :
    ∃ ups' names', cs.foldl settle (settled rooted ups names).reverse =
      (settled rooted ups' names').reverse := by
  induction cs generalizing ups names with
  | nil => exact ⟨ups, names, rfl⟩
  | cons c cs ih =>
    rw [List.mem_cons, not_or] at h
    rw [List.foldl_cons]
    cases c with
    | root => exact absurd rfl h.1
    | here => exact ih h.2 _ _
    | name s =>
      rw [settle_settled_name]
      exact ih h.2 _ _
    | up =>
      rcases List.eq_nil_or_concat' names with rfl | ⟨front, s, rfl⟩
      · rw [settle_settled_up]
        exact ih h.2 _ _
      · rw [settle_settled_name_up]
        exact ih h.2 _ _

theorem foldl_settle_names (cs : List Component) (names : List String) :
    (names.map .name).foldl settle cs = (names.map .name).reverse ++ cs := by
  induction names generalizing cs with
  | nil => rfl
  | cons s names ih =>
    rw [List.map_cons, List.foldl_cons, ih]
    simp [settle]

theorem foldl_settle_ups (rooted : Bool) (ups : Nat) :
    (List.replicate ups .up).foldl settle (settled rooted 0 []).reverse =
      (settled rooted ups []).reverse := by
  induction ups with
  | zero => rfl
  | succ ups ih => rw [List.replicate_succ', List.foldl_concat, ih, settle_settled_up]

theorem normalize_settled (rooted : Bool) (ups : Nat) (names : List String) :
    normalize (settled rooted ups names) = settled rooted ups names := by
  have hroot : (if rooted then [Component.root] else []).foldl settle [] =
      (settled rooted 0 []).reverse := by
    cases rooted <;> rfl
  rw [normalize, settled, List.foldl_append, List.foldl_append, hroot, foldl_settle_ups,
    foldl_settle_names]
  simp [settled]

theorem normalize_components (path : String) : normalize (components path) =
    ((strides path).foldl settle (settled (isAbsolute path) 0 []).reverse).reverse := by
  rw [← normalize_course, course_eq, normalize, List.foldl_append]
  cases isAbsolute path <;> rfl

theorem exists_normalize (path : String) :
    ∃ ups names, normalize (components path) = settled (isAbsolute path) ups names := by
  obtain ⟨ups, names, h⟩ := exists_foldl_settle (root_notMem_strides path) (isAbsolute path) 0 []
  exact ⟨ups, names, by rw [normalize_components, h, List.reverse_reverse]⟩

theorem isRead_of_mem_normalize (h : c ∈ normalize (components path)) : c = .root ∨ c.IsRead := by
  rw [normalize_components, List.mem_reverse] at h
  rcases mem_of_mem_foldl_settle h with h | h
  · exact .inr (isRead_of_mem_strides h)
  · exact .inl (by cases hp : isAbsolute path <;> simp_all [settled])

theorem filter_ne_here (hd : .here ∉ cs) : cs.filter (· != .here) = cs := by
  refine List.filter_eq_self.mpr fun c hc => ?_
  have hne : c ≠ .here := fun he => hd (he ▸ hc)
  simpa using hne

theorem components_spell (hr : ∀ c ∈ cs, c.IsRead) (hd : .here ∉ cs) :
    components (spell cs) = cs := by
  have hs : spell cs = extend "" cs := rfl
  have hnone : innerSteps "" = [] := rfl
  have hrel : isAbsolute "" = false := rfl
  rw [components_eq, hs, isAbsolute_extend hr, innerSteps_extend hr, hnone, hrel, List.nil_append,
    if_neg Bool.false_ne_true, filter_ne_here fun h => hd (List.mem_of_mem_drop h),
    List.take_append_drop]

theorem components_spell_root (hr : ∀ c ∈ cs, c.IsRead) (hd : .here ∉ cs) :
    components (spell (.root :: cs)) = .root :: cs := by
  have hs : spell (.root :: cs) = extend "/" cs := rfl
  have hnone : innerSteps "/" = [] := rfl
  have hroot : isAbsolute "/" = true := rfl
  rw [components_eq, hs, isAbsolute_extend hr, innerSteps_extend hr, hnone, hroot, List.nil_append,
    if_pos rfl, filter_ne_here hd]

theorem components_normal (path : String) :
    components (normal path) = normalize (components path) := by
  obtain ⟨ups, names, hn⟩ := exists_normalize path
  have hread : ∀ c ∈ List.replicate ups Component.up ++ names.map Component.name, c.IsRead := by
    intro c hc
    have hm : c ∈ normalize (components path) := hn ▸ List.mem_append_right _ hc
    refine (isRead_of_mem_normalize hm).resolve_left ?_
    rintro rfl
    simp at hc
  have hhere : .here ∉ List.replicate ups Component.up ++ names.map .name := by simp
  rw [normal, hn]
  cases isAbsolute path with
  | true => exact components_spell_root hread hhere
  | false => exact components_spell hread hhere

theorem normal_eq_iff :
    normal p = normal q ↔ normalize (components p) = normalize (components q) := by
  constructor
  · intro h
    rw [← components_normal, h, components_normal]
  · intro h
    rw [normal, h, normal]

theorem normal_normal (path : String) : normal (normal path) = normal path := by
  obtain ⟨ups, names, hn⟩ := exists_normalize path
  rw [normal_eq_iff, components_normal, hn, normalize_settled]

theorem isAbsolute_join_of_relative (hq : isAbsolute q = false) :
    isAbsolute (join p q) = isAbsolute p := by
  by_cases hp : p = ""
  · rw [hp, join_empty, hq]
    rfl
  · obtain ⟨c, s, hc⟩ := List.exists_cons_of_ne_nil fun he : p.toList = [] => hp (String.ext he)
    rw [isAbsolute, isAbsolute, join]
    split <;> simp [String.toList_append, hc]

theorem innerSteps_append_slash (p q : String) :
    innerSteps (p ++ "/" ++ q) = innerSteps p ++ innerSteps q := by
  have hd : "/".toList = ['/'] := rfl
  rw [innerSteps, String.toList_append, String.toList_append, hd, List.append_assoc,
    List.singleton_append, segments_append_slash, List.filterMap_append]
  rfl

theorem innerSteps_join_path (p q : String) :
    innerSteps (join p q) = innerSteps p ++ innerSteps q := by
  have hnone : innerSteps "" = [] := rfl
  by_cases hp : p = ""
  · rw [hp, join_empty, hnone, List.nil_append]
  · by_cases hs : p.toList.getLast? = some '/'
    · obtain ⟨a, ha⟩ := List.getLast?_eq_some_iff.mp hs
      obtain rfl : p = String.ofList a ++ "/" := String.ext (by simp [ha])
      have hfront : innerSteps (String.ofList a ++ "/") = innerSteps (String.ofList a) := by
        simpa [hnone] using innerSteps_append_slash (String.ofList a) ""
      rw [join, if_pos (by simp [endsInSlash]), innerSteps_append_slash, hfront]
    · rw [join, if_neg (by simp [endsInSlash, hs, hp]), innerSteps_append_slash]

theorem normalize_join (hq : isAbsolute q = false) : normalize (components (join p q)) =
    ((strides q).foldl settle (normalize (components p)).reverse).reverse := by
  have hs : strides (join p q) = strides p ++ strides q := by
    rw [strides, innerSteps_join_path, List.filter_append]
    rfl
  rw [normalize_components, normalize_components p, hs, isAbsolute_join_of_relative hq,
    List.foldl_append, List.reverse_reverse]

theorem normal_join {p' : String} (h : normal p = normal p') (hq : isAbsolute q = false) :
    normal (join p q) = normal (join p' q) := by
  rw [normal_eq_iff] at h ⊢
  rw [normalize_join hq, h, ← normalize_join hq]

theorem normal_join_here (p : String) : normal (join p ".") = normal p := by
  have hs : strides "." = [] := by decide
  rw [normal_eq_iff, normalize_join (by decide), hs, List.foldl_nil, List.reverse_reverse]

theorem normal_join_up (hn : (Component.name name).IsRead) (p : String) :
    normal (join (join p name) "..") = normal p := by
  have hs : strides name = [.name name] := by
    have hin : innerSteps name = [.name name] := innerSteps_text hn
    simp [strides, hin]
  have hrel : isAbsolute name = false := isAbsolute_text hn
  have hup : strides ".." = [.up] := by decide
  rw [normal_eq_iff, normalize_join (by decide), normalize_join hrel, hs, hup]
  simp [settle]

/-- One path is the other with a dot or with a name and a step up put in at some place, or with
other slashes. -/
inductive Detour : String → String → Prop
  | slashes {p q : String} (h : components p = components q) : Detour p q
  | here (p : String) : Detour (join p ".") p
  | up (p : String) {name : String} (hn : (Component.name name).IsRead) :
    Detour (join (join p name) "..") p
  | behind {p p' q : String} (h : Detour p p') (hq : isAbsolute q = false) :
    Detour (join p q) (join p' q)

abbrev Detours : String → String → Prop := Relation.EqvGen Detour

theorem Detour.normal_eq (h : Detour p q) : normal p = normal q := by
  induction h with
  | slashes h => rw [normal, h, normal]
  | here p => exact normal_join_here p
  | up p hn => exact normal_join_up hn p
  | behind h hq ih => exact normal_join ih hq

theorem Detours.normal_eq (h : Detours p q) : normal p = normal q := by
  induction h with
  | rel p q h => exact h.normal_eq
  | refl p => rfl
  | symm p q _ ih => exact ih.symm
  | trans p q r _ _ ih ih' => exact ih.trans ih'

theorem Detours.behind (h : Detours p q) {rest : String} (hq : isAbsolute rest = false) :
    Detours (join p rest) (join q rest) := by
  induction h with
  | rel p q h => exact .rel _ _ (h.behind hq)
  | refl p => exact .refl _
  | symm p q _ ih => exact .symm _ _ ih
  | trans p q r _ _ ih ih' => exact .trans _ _ _ ih ih'

theorem Detours.extend (h : Detours p q) (hr : ∀ c ∈ cs, c.IsRead) :
    Detours (Disk.extend p cs) (Disk.extend q cs) := by
  induction cs generalizing p q with
  | nil => exact h
  | cons c cs ih =>
    obtain ⟨hc, hcs⟩ := List.forall_mem_cons.mp hr
    exact ih (h.behind (isAbsolute_text hc)) hcs

theorem spell_reverse_cons (c : Component) (cs : List Component) :
    spell (c :: cs).reverse = join (spell cs.reverse) c.text := by
  rw [List.reverse_cons, spell, List.foldl_concat]
  rfl

theorem detours_settle (hr : ∀ s, .name s ∈ cs → (Component.name s).IsRead) (c : Component) :
    Detours (join (spell cs.reverse) c.text) (spell (settle cs c).reverse) := by
  rw [settle.eq_def]
  split
  · exact .rel _ _ (.here _)
  · rename_i s cs
    rw [spell_reverse_cons]
    exact .rel _ _ (.up _ (hr s List.mem_cons_self))
  · rw [spell_reverse_cons]
    exact .refl _

/-- The induction goes along the steps that are left, with the normal form of those gone in `cs`. -/
theorem detours_foldl_settle (cs : List Component)
    (hr : ∀ s, .name s ∈ cs → (Component.name s).IsRead) (hrest : ∀ c ∈ rest, c.IsRead) :
    Detours (extend (spell cs.reverse) rest) (spell (rest.foldl settle cs).reverse) := by
  induction rest generalizing cs with
  | nil => exact .refl _
  | cons c rest ih =>
    obtain ⟨hc, hrest⟩ := List.forall_mem_cons.mp hrest
    refine .trans _ _ _ ((detours_settle hr c).extend hrest) (ih _ (fun s hs => ?_) hrest)
    rcases mem_of_mem_settle hs with rfl | hs
    · exact hc
    · exact hr s hs

theorem components_spell_components (path : String) :
    components (spell (components path)) = components path := by
  by_cases h : components path = []
  · rw [h]
    rfl
  · have hne : path ≠ "" := by
      rintro rfl
      exact h rfl
    have hp : plain path = spell (components path) := by rw [plain, if_neg h]
    rw [← hp, components_plain hne]

theorem detours_normal (path : String) : Detours path (normal path) := by
  refine .trans _ _ _ (.rel _ _ (.slashes (components_spell_components path).symm)) ?_
  rw [normal, normalize, components_eq]
  split
  · refine detours_foldl_settle [.root] (by simp) fun c hc => ?_
    exact (of_mem_innerSteps (List.mem_filter.mp hc).1).1
  · refine detours_foldl_settle [] (by simp) fun c hc => ?_
    rcases List.mem_append.mp hc with hc | hc
    · exact (of_mem_innerSteps (List.mem_of_mem_take hc)).1
    · exact (of_mem_innerSteps (List.mem_of_mem_drop (List.mem_filter.mp hc).1)).1

/-- The normal form is the same if and only if the paths differ in detours alone. -/
theorem normal_eq_iff_detours : normal p = normal q ↔ Detours p q := by
  constructor
  · intro h
    refine .trans _ _ _ (detours_normal p) ?_
    rw [h]
    exact .symm _ _ (detours_normal q)
  · exact Detours.normal_eq

instance (p q : String) : Decidable (Detours p q) := decidable_of_iff _ normal_eq_iff_detours

end Path

end CommentBlocks
