import CommentBlocks.Glob.Filter
import CommentBlocks.Proofs.Disk.Names
import CommentBlocks.Proofs.Glob.Pattern
import Mathlib.Data.List.MinMax
import Mathlib.Order.Nat

namespace CommentBlocks

open Bytes Glob CommentBlocks.Path

namespace Filter

/-- A line that is read as it stands: no mark in front and no blank behind. -/
structure Bare (line : String) : Prop where
  front : ∀ c ∈ line.toList.head?, c ≠ '#' ∧ c ≠ '!'
  back : ∀ c ∈ line.toList.getLast?, Text.isBlank c = false

theorem bare_iff {line : String} : Bare line ↔ line.toList.head?.all (fun c => c ≠ '#' ∧ c ≠ '!') ∧
    line.toList.getLast?.all (!Text.isBlank ·) := by
  simp only [Option.all_eq_true, decide_eq_true_eq, Bool.not_eq_true']
  exact ⟨fun ⟨a, b⟩ => ⟨a, b⟩, fun ⟨a, b⟩ => ⟨a, b⟩⟩

instance (line : String) : Decidable (Bare line) := decidable_of_iff _ bare_iff.symm

/-- A filter that leaves in the files that are accepted by parts, and enters every directory. -/
def accepting (parts : List Part) : Filter := ⟨⟨parts⟩, false, false⟩

variable {line base path : String} {s : List Char} {parts : List Part}

theorem skips_accepting (isDirectory : Bool) : (accepting parts).skips base path isDirectory =
    (!isDirectory && !(Glob.mk parts).accepts (relative base path)) := by
  cases isDirectory <;> simp [skips, accepting]

theorem dropBlanksEnd_of_back (h : ∀ c ∈ s.getLast?, Text.isBlank c = false) :
    Text.dropBlanksEnd s = s := by
  rw [Text.dropBlanksEnd]
  rw [← List.head?_reverse] at h
  cases hr : s.reverse with
  | nil => simpa using hr.symm
  | cons c rest =>
    rw [hr] at h
    rw [List.dropWhile_cons_of_neg (by simp [h c rfl]), ← hr, List.reverse_reverse]

theorem trimEnd_of_bare (h : Bare line) : trimEnd line = line := by
  have hspace : ¬[' ', '\\'].isPrefixOf line.toList.reverse = true := by
    rw [List.isPrefixOf_iff_prefix]
    rintro ⟨rest, hr⟩
    have hlast : line.toList.getLast? = some ' ' := by
      rw [← List.head?_reverse, ← hr]
      rfl
    exact absurd (h.back ' ' hlast) (by decide)
  rw [trimEnd, if_neg hspace, dropBlanksEnd_of_back h.back, String.ofList_toList]

theorem marks_of_front (h : ∀ c ∈ s.head?, c ≠ '!' ∧ c ≠ '/' ∧ c ≠ '\\') :
    marks s = ⟨false, false, s⟩ := by
  cases s with
  | nil => rfl
  | cons c rest =>
    obtain ⟨hm, hs, hb⟩ := h c rfl
    unfold marks
    split <;> simp_all

theorem dropSlash_of_back (h : s.getLast? ≠ some '/') : dropSlash s = (s, false) := by
  rw [← List.head?_reverse] at h
  unfold dropSlash
  split <;> simp_all

theorem Part.depths_le {p : Part} (h : ∀ alternatives, p ≠ .choice alternatives) :
    ∀ n ∈ p.depths, n ≤ 4 := by
  cases p with
  | choice alternatives => exact absurd rfl (h alternatives)
  | literal => simp [Part.depths]
  | oneOf =>
    simp only [Part.depths]
    split <;> simp
  | _ => simp [Part.depths]

theorem checkDepth_of_flat (h : ∀ p ∈ parts, ∀ alternatives, p ≠ .choice alternatives) :
    checkDepth ⟨parts⟩ = .ok () := by
  have hall : ∀ n ∈ sequenceDepths parts, n ≤ 4 := by
    induction parts with
    | nil => simp [sequenceDepths]
    | cons p parts ih =>
      obtain ⟨hp, hrest⟩ := List.forall_mem_cons.mp h
      rw [sequenceDepths]
      exact List.forall_mem_append.mpr ⟨Part.depths_le hp, ih hrest⟩
  have hmax : (sequenceDepths parts).foldr max 0 ≤ 4 := List.max_le_of_forall_le _ _ hall
  have hdepth : (Glob.mk parts).depth ≤ depthLimit :=
    Nat.le_trans (Nat.succ_le_succ hmax) (by decide)
  rw [checkDepth, if_pos hdepth]

theorem partOf_ne_choice (c : Char) (alternatives : List (List Part)) :
    partOf c ≠ .choice alternatives := by
  rw [partOf]
  split
  · simp
  · split <;> simp

theorem ofLine?_of_bare (hb : Bare line) (hne : line ≠ "")
    (hf : ∀ c ∈ line.toList.head?, c ≠ '/' ∧ c ≠ '\\') (hl : line.toList.getLast? ≠ some '/')
    (hflat : ∀ p ∈ parts, ∀ alternatives, p ≠ .choice alternatives)
    (hp : Glob.parse (String.ofList (within (anywhere ⟨false, false, line.toList⟩ line.toList))) =
      .ok ⟨parts⟩) : ofLine? line = .ok (some (accepting parts)) := by
  have hfront : ∀ c ∈ line.toList.head?, c ≠ '!' ∧ c ≠ '/' ∧ c ≠ '\\' :=
    fun c hc => ⟨(hb.front c hc).2, hf c hc⟩
  have hremark : (line.toList.head? == some '#') = false := by
    rw [beq_eq_false_iff_ne]
    exact fun hc => (hb.front '#' hc).1 rfl
  have hempty : line.isEmpty = false := by simpa [Bool.eq_false_iff] using hne
  simp only [ofLine?, hremark, Bool.false_eq_true, if_false, trimEnd_of_bare hb, hempty,
    marks_of_front hfront, dropSlash_of_back hl, hp, checkDepth_of_flat hflat]
  rfl

variable {p q : String} {ps : List String} {front : List Char}

def IsFront (front : List Char) : Prop := front = [] ∨ ∃ v, front = v ++ ['/']

theorem within_of_pattern (hp : IsPattern p) (hf : IsFront front) :
    within (front ++ p.toList) = front ++ p.toList := by
  have hdeep : ¬['*', '*', '/'].isPrefixOf (front ++ p.toList).reverse = true := by
    rw [List.isPrefixOf_iff_prefix]
    rintro ⟨rest, hr⟩
    have hs : front ++ p.toList = (rest.reverse ++ ['/']) ++ ['*', '*'] := by
      rw [← List.reverse_inj, ← hr]
      simp
    have hlast := (append_last_inj hf (.inr ⟨_, rfl⟩) hp.slashless (by decide) hs).2
    exact hp.ne_deep (String.ext hlast)
  rw [within, if_neg hdeep]

theorem getLast?_append_plain (hne : p ≠ "") (hp : ∀ c ∈ p.toList, c ∉ reserved)
    (front : List Char) : (front ++ p.toList).getLast? ≠ some '/' := by
  intro hl
  rw [List.getLast?_append_of_ne_nil _ fun he => hne (String.ext he)] at hl
  exact hp '/' (List.mem_of_getLast? hl) (by decide)

theorem head?_append_plain (hne : p ≠ "") (hp : ∀ c ∈ p.toList, c ∉ reserved) (rest : List Char) :
    ∀ c ∈ (p.toList ++ rest).head?, c ≠ '/' ∧ c ≠ '\\' := by
  intro c hc
  rw [List.head?_append_of_ne_nil _ fun he => hne (String.ext he)] at hc
  have hr := hp c (List.mem_of_mem_head? hc)
  constructor
  · rintro rfl
    exact hr (by decide)
  · rintro rfl
    exact hr (by decide)

/-- A pattern behind two stars and a slash is read as one that stands anywhere. -/
theorem parse_anywhere (hp : IsPattern p) :
    Glob.parse (String.ofList (within ('*' :: '*' :: '/' :: p.toList))) =
      .ok ⟨.leading :: p.toList.map partOf⟩ := by
  have hw : within (['*', '*', '/'] ++ p.toList) = ['*', '*', '/'] ++ p.toList :=
    within_of_pattern hp (.inr ⟨['*', '*'], rfl⟩)
  rw [List.cons_append, List.cons_append, List.singleton_append] at hw
  rw [hw]
  exact parse_leading hp.plain fun hd => hp.ne_deep (String.ext hd)

theorem ofLine?_pattern (hp : IsPattern p) (hb : Bare p) :
    ofLine? p = .ok (some (accepting (.leading :: p.toList.map partOf))) := by
  have hd : p.toList ≠ ['*', '*'] := fun hd => hp.ne_deep (String.ext hd)
  have hany : anywhere ⟨false, false, p.toList⟩ p.toList = '*' :: '*' :: '/' :: p.toList := by
    simp [anywhere, hp.slashless, hd]
  refine ofLine?_of_bare hb hp.ne_empty ?_ ?_ ?_ ?_
  · simpa using head?_append_plain hp.ne_empty hp.plain []
  · exact getLast?_append_plain hp.ne_empty hp.plain []
  · simp [partOf_ne_choice]
  · rw [hany]
    exact parse_anywhere hp

theorem ofLine?_deep_pattern (hp : IsPattern p) (hb : Bare ("/".intercalate ["**", p])) :
    ofLine? ("/".intercalate ["**", p]) =
      .ok (some (accepting (.leading :: p.toList.map partOf))) := by
  have hline : ("/".intercalate ["**", p]).toList = '*' :: '*' :: '/' :: p.toList := by simp
  have hany (m : Marks) :
      anywhere m ('*' :: '*' :: '/' :: p.toList) = '*' :: '*' :: '/' :: p.toList := by
    simp [anywhere]
  refine ofLine?_of_bare hb (fun he => ?_) ?_ ?_ ?_ ?_
  · simp [he] at hline
  · simp
  · exact hline ▸ getLast?_append_plain hp.ne_empty hp.plain ['*', '*', '/']
  · simp [partOf_ne_choice]
  · rw [hline, hany]
    exact parse_anywhere hp

theorem ofLine?_patterns (hp : ∀ n ∈ p :: q :: ps, IsPattern n)
    (hb : Bare ("/".intercalate (p :: q :: ps))) :
    ofLine? ("/".intercalate (p :: q :: ps)) =
      .ok (some (accepting (partsOf p.toList ((q :: ps).map String.toList)))) := by
  obtain ⟨front, last, hlast⟩ := (List.eq_nil_or_concat' (p :: q :: ps)).resolve_left (by simp)
  have hlastp : IsPattern last := hp last (by simp [hlast])
  have hline : ("/".intercalate (p :: q :: ps)).toList =
      separated '/' p.toList ((q :: ps).map String.toList) := by
    rw [String.toList_intercalate]
    exact intercalate_eq_separated _ _ _
  have hend : separated '/' p.toList ((q :: ps).map String.toList) =
      (front.map String.toList).flatMap (· ++ ['/']) ++ last.toList := by
    rw [← intercalate_eq_separated, ← List.map_cons, hlast, List.map_append]
    exact intercalate_concat _ _ _
  have hany : anywhere ⟨false, false, separated '/' p.toList ((q :: ps).map String.toList)⟩
      (separated '/' p.toList ((q :: ps).map String.toList)) =
        separated '/' p.toList ((q :: ps).map String.toList) := by
    simp [anywhere, separated]
  obtain ⟨hpp, hrest⟩ := List.forall_mem_cons.mp hp
  have hread : ∀ n, IsPattern n → n.toList ≠ ['*', '*'] ∧ ∀ c ∈ n.toList, c ∉ reserved :=
    fun n hn => ⟨fun hd => hn.ne_deep (String.ext hd), hn.plain⟩
  refine ofLine?_of_bare hb (fun he => ?_) ?_ ?_ ?_ ?_
  · simp [he, separated] at hline
  · rw [hline]
    exact head?_append_plain hpp.ne_empty hpp.plain _
  · rw [hline, hend]
    exact getLast?_append_plain hlastp.ne_empty hlastp.plain _
  · intro r hr
    rw [partsOf, separated] at hr
    simp only [List.mem_append, List.mem_flatMap, List.mem_map, List.mem_cons] at hr
    rcases hr with ⟨c, -, rfl⟩ | ⟨_, ⟨_, -, rfl⟩, rfl | hr⟩
    · exact partOf_ne_choice c
    · simp
    · obtain ⟨c, -, rfl⟩ := List.mem_map.mp hr
      exact partOf_ne_choice c
  · rw [hline, hany, hend, within_of_pattern hlastp (flatMap_concat_eq_nil_or _ _), ← hend]
    refine parse_separated (hread p hpp).2 (hread p hpp).1 fun w hw => ?_
    obtain ⟨n, hn, rfl⟩ := List.mem_map.mp hw
    exact hread n (hrest n hn)

end Filter

end CommentBlocks
