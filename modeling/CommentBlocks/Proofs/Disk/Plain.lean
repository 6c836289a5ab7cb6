import CommentBlocks.Proofs.Disk.Spelled
import Mathlib.Algebra.GroupWithZero.Nat
import Mathlib.Algebra.Order.BigOperators.Group.List
import Mathlib.Algebra.Order.Group.Nat

namespace CommentBlocks

open CommentBlocks.Path

namespace Disk

def plain (path : String) : String :=
  spell (if components path = [] then [.here] else components path)

/-- The form of the plain spelling: the steps that lead on, behind the root of an absolute path, and
behind the first component of a relative one. -/
inductive PlainForm (path : String) : String → Prop
  | absolute (h : isAbsolute path = true) : PlainForm path (extend "/" (strides path))
  | relative {c cs} (h : isAbsolute path = false) (hc : c.IsRead)
    (hcs : ∀ k ∈ cs, k.IsRead ∧ k ≠ .here) (hs : (c :: cs).filter (· != .here) = strides path)
    (hk : path ≠ "" → components path = c :: cs ∧ (c :: cs).Sublist (innerSteps path)) :
    PlainForm path (extend c.text cs)

variable {d : Disk} {place loc : Location} {path : String} {c : Component} {cs : List Component}

theorem plainForm (path : String) : PlainForm path (plain path) := by
  rw [plain, components_eq]
  cases ha : isAbsolute path with
  | true => exact .absolute ha
  | false =>
    by_cases hne : path = ""
    · subst hne
      exact @PlainForm.relative "" .here [] rfl ⟨by decide, rfl⟩ (by simp) rfl (absurd rfl)
    · obtain ⟨first, segs, hseg, hfirst⟩ := exists_segments_of_relative ha hne
      obtain ⟨c, hc⟩ := component?_of_ne_nil hfirst
      obtain ⟨rest, hs⟩ : ∃ rest, innerSteps path = c :: rest :=
        ⟨segs.filterMap component?, by simp [innerSteps, hseg, hc]⟩
      have hread : ∀ k ∈ c :: rest, k.IsRead := fun k hk => (of_mem_innerSteps (hs ▸ hk)).1
      have hform : PlainForm path (extend c.text (rest.filter (· != .here))) := by
        refine .relative ha (hread c List.mem_cons_self) (fun k hk => ?_) ?_ fun _ => ⟨?_, ?_⟩
        · obtain ⟨hm, hk⟩ := List.mem_filter.mp hk
          exact ⟨hread k (List.mem_cons_of_mem c hm), by simpa using hk⟩
        · rw [strides, hs]
          by_cases hd : c = .here <;> simp [hd]
        · simp [components_eq, ha, hs]
        · rw [hs]
          exact List.Sublist.cons_cons c List.filter_sublist
      have hjoin : join "" c.text = c.text := join_empty _
      simpa [hs, spell, extend, hjoin] using hform

theorem innerSteps_text (h : c.IsRead) : innerSteps c.text = [c] := by
  simp [innerSteps, segments_of_slashless h.slashless, h.read]

theorem isRead_of_mem_strides (h : c ∈ strides path) : c.IsRead :=
  (of_mem_innerSteps (List.mem_filter.mp h).1).1

theorem isAbsolute_text (h : c.IsRead) : isAbsolute c.text = false := by
  have hj : isAbsolute (join "" c.text) = isAbsolute "" := isAbsolute_join h.slashless
  rwa [join_empty] at hj

theorem isAbsolute_plain (path : String) : isAbsolute (plain path) = isAbsolute path := by
  have hf := plainForm path
  generalize plain path = p at hf
  cases hf with
  | absolute h =>
    rw [h]
    exact isAbsolute_extend fun c hc => isRead_of_mem_strides hc
  | relative h hc hcs =>
    rw [h, isAbsolute_extend fun k hk => (hcs k hk).1, isAbsolute_text hc]

theorem strides_plain (path : String) : strides (plain path) = strides path := by
  have hf := plainForm path
  generalize plain path = p at hf
  cases hf with
  | absolute h =>
    have hroot : innerSteps "/" = [] := rfl
    rw [strides, innerSteps_extend fun c hc => isRead_of_mem_strides hc, hroot, List.nil_append,
      strides, List.filter_filter]
    simp
  | relative h hc hcs hs =>
    rw [strides, innerSteps_extend fun k hk => (hcs k hk).1, innerSteps_text hc]
    exact hs

theorem components_plain (hne : path ≠ "") : components (plain path) = components path := by
  have ha := isAbsolute_plain path
  have hs := strides_plain path
  have hf := plainForm path
  generalize plain path = p at ha hs hf
  cases hf with
  | absolute h =>
    rw [components_eq, components_eq, ha, h]
    exact congrArg (Component.root :: ·) hs
  | relative h hc hcs _ hk =>
    rw [components_eq, ha, h, (hk hne).1, innerSteps_extend fun k hk => (hcs k hk).1,
      innerSteps_text hc]
    simpa using fun k hk => (hcs k hk).2

theorem plain_empty : plain "" = "." := by decide

/-- The spelling of a base to which names can be added, with a slash in between unless it is the
root. -/
structure IsBase (path : String) : Prop where
  ne_empty : path ≠ ""
  ne_dots : path ≠ "./."
  slash : path = "/" ∨ endsInSlash path = false

theorem innerSteps_extend_text (hc : c.IsRead) (hcs : ∀ k ∈ cs, k.IsRead) :
    innerSteps (extend c.text cs) = c :: cs := by
  rw [innerSteps_extend hcs, innerSteps_text hc, List.singleton_append]

theorem endsInSlash_text (h : c.IsRead) : endsInSlash c.text = false := by
  have hj : endsInSlash (join "" c.text) = false :=
    endsInSlash_join h.slashless (text_ne_empty h)
  rwa [join_empty] at hj

theorem isBase_plain (path : String) : IsBase (plain path) := by
  have ha := isAbsolute_plain path
  have hf := plainForm path
  generalize plain path = p at ha hf
  cases hf with
  | absolute h =>
    refine ⟨fun he => ?_, fun he => ?_, ?_⟩
    · rw [he, h] at ha
      cases ha
    · rw [he, h] at ha
      exact absurd ha (by decide)
    · by_cases hs : strides path = []
      · exact .inl (by rw [hs]; rfl)
      · exact .inr (endsInSlash_extend (fun c hc => isRead_of_mem_strides hc) hs)
  | @relative c cs _ hc hcs =>
    have hread : ∀ k ∈ cs, k.IsRead := fun k hk => (hcs k hk).1
    have hsteps := innerSteps_extend_text hc hread
    refine ⟨fun he => ?_, fun he => ?_, .inr ?_⟩
    · rw [he] at hsteps
      cases hsteps
    -- A plain spelling has a dot in front only.
    · have hdots : innerSteps "./." = [.here, .here] := by decide
      rw [he, hdots] at hsteps
      obtain ⟨-, rfl⟩ := List.cons.inj hsteps
      exact (hcs .here (by simp)).2 rfl
    · by_cases hs : cs = []
      · subst hs
        exact endsInSlash_text hc
      · exact endsInSlash_extend hread hs

theorem byteLength_append (s t : String) :
    byteLength (s ++ t) = byteLength s + byteLength t := by
  rw [byteLength, byteLength, byteLength, String.toList_append]
  induction s.toList with
  | nil => simp [Bytes.width]
  | cons c s ih =>
    simp only [List.cons_append, Bytes.width, ih]
    omega

def span (cs : List Component) : Nat := (cs.map fun c => byteLength c.text + 1).sum

theorem span_cons (c : Component) (cs : List Component) :
    span (c :: cs) = byteLength c.text + 1 + span cs := by
  simp [span]

theorem span_le_of_sublist {bs : List Component} (h : bs.Sublist cs) : span bs ≤ span cs :=
  (h.map _).sum_le_sum fun _ _ => Nat.zero_le _

theorem byteLength_extend_le (path : String) (cs : List Component) :
    byteLength (extend path cs) ≤ byteLength path + span cs := by
  induction cs generalizing path with
  | nil => exact Nat.le_refl _
  | cons c cs ih =>
    have hslash : byteLength "/" = 1 := rfl
    have hj : byteLength (join path c.text) ≤ byteLength path + 1 + byteLength c.text := by
      rw [join]
      split
      · rw [byteLength_append]
        omega
      · rw [byteLength_append, byteLength_append, hslash]
    have hrest := ih (join path c.text)
    rw [extend_cons, span_cons]
    omega

theorem sum_width_segments (s : List Char) :
    ((segments s).map fun t => Bytes.width t + 1).sum = Bytes.width s + 1 := by
  induction s with
  | nil => rfl
  | cons c s ih =>
    rw [segments]
    split
    · rename_i hc
      have hslash : c.utf8Size = 1 := hc ▸ rfl
      rw [List.map_cons, List.sum_cons, ih, Bytes.width, Bytes.width, hslash]
      omega
    · cases hs : segments s with
      | nil => exact absurd hs (segments_ne_nil s)
      | cons t ts =>
        rw [hs, List.map_cons, List.sum_cons] at ih
        rw [List.map_cons, List.sum_cons, Bytes.width, Bytes.width]
        omega

theorem span_segments_le (s : List Char) :
    span ((segments s).filterMap component?) ≤ Bytes.width s + 1 := by
  rw [← sum_width_segments]
  induction segments s with
  | nil => exact Nat.le_refl _
  | cons t ts ih =>
    rw [List.filterMap_cons, List.map_cons, List.sum_cons]
    cases hk : component? t with
    | none => exact Nat.le_add_left_of_le ih
    | some k =>
      have hlen : byteLength k.text = Bytes.width t := by rw [byteLength, text_of_component? hk]
      rw [span_cons, hlen]
      omega

theorem byteLength_plain_le (hne : path ≠ "") : byteLength (plain path) ≤ byteLength path := by
  have hf := plainForm path
  generalize plain path = p at hf
  cases hf with
  | absolute h =>
    obtain ⟨rest, hp, hseg⟩ := segments_of_absolute h
    have hsub : (strides path).Sublist ((segments rest).filterMap component?) := by
      have hin : innerSteps path = (segments rest).filterMap component? := by
        rw [innerSteps, hseg]
        rfl
      rw [strides, hin]
      exact List.filter_sublist
    have hspan := (span_le_of_sublist hsub).trans (span_segments_le rest)
    have hlen : byteLength path = 1 + Bytes.width rest := by
      rw [byteLength, hp]
      rfl
    -- No slash is put between the root and the first of the steps.
    cases hs : strides path with
    | nil =>
      have hroot : byteLength "/" = 1 := rfl
      rw [extend, List.foldl_nil, hroot, hlen]
      omega
    | cons c cs =>
      rw [hs, span_cons] at hspan
      have hjoin : join "/" c.text = "/" ++ c.text := rfl
      have hroot : byteLength "/" = 1 := rfl
      have hle := byteLength_extend_le (join "/" c.text) cs
      rw [hjoin, byteLength_append, hroot] at hle
      rw [extend_cons, hjoin, hlen]
      omega
  | @relative c cs _ _ _ _ hk =>
    have hspan := (span_le_of_sublist (hk hne).2).trans (span_segments_le path.toList)
    have hle := byteLength_extend_le c.text cs
    have hlen : byteLength path = Bytes.width path.toList := rfl
    rw [span_cons] at hspan
    omega

theorem whole_plain (h : ∀ c ∈ components path, '\x00' ∉ c.text.toList) :
    '\x00' ∉ (plain path).toList := by
  rw [plain]
  split
  · decide
  · exact whole_extend (by decide) h

theorem whole_text (hw : '\x00' ∉ path.toList) (hc : c ∈ components path) :
    '\x00' ∉ c.text.toList := by
  rcases of_mem_components hc with rfl | hs
  · decide
  · exact fun hm => hw (hs hm)

theorem resolve_eq_ok_iff : d.resolve path = .ok place ↔
    byteLength path < pathLimit ∧ d.locate path = .ok place := by
  rw [resolve]
  by_cases hw : '\x00' ∈ path.toList
  · simp [hw, locate]
  · by_cases hl : pathLimit ≤ byteLength path
    · simp [hw, hl, Nat.not_lt.mpr hl]
    · simp [hw, hl, Nat.lt_of_not_le hl]

theorem course_plain (path : String) : course (plain path) = course path := by
  by_cases hne : path = ""
  · subst hne
    decide
  · rw [course, components_plain hne, course]

/-- A path that leads to a directory leads there when it is spelled plainly. -/
theorem resolve_plain {entries : List (String × Node)} (h : d.resolve path = .ok place)
    (hd : d.root.get? place = some (.directory entries)) :
    d.resolve (plain path) = .ok place := by
  obtain ⟨hlen, hl⟩ := resolve_eq_ok_iff.mp h
  obtain ⟨hw, hne, -⟩ := locate_eq_ok_iff.mp hl
  refine resolve_eq_ok_iff.mpr ⟨(byteLength_plain_le hne).trans_lt hlen, ?_⟩
  exact locate_of_course hl (course_plain path) (whole_plain fun c => whole_text hw)
    (isBase_plain path).ne_empty fun _ => ⟨entries, hd⟩

def orHere (path : String) : String := if path = "" then "." else path

theorem resolve_plain_of_orHere {entries : List (String × Node)}
    (h : d.resolve (orHere path) = .ok place)
    (hd : d.root.get? place = some (.directory entries)) : d.resolve (plain path) = .ok place := by
  rw [orHere] at h
  split at h
  · rename_i he
    rwa [he, plain_empty]
  · exact resolve_plain h hd

theorem components_plain_eq_name_iff {name : String} :
    components (plain path) = [.name name] ↔ components path = [.name name] := by
  by_cases he : path = ""
  · have hhere : components "." = [.here] := by decide
    have hnone : components "" = [] := rfl
    rw [he, plain_empty, hhere, hnone]
    simp
  · rw [components_plain he]

end Disk

end CommentBlocks
