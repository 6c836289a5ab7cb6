import CommentBlocks.Disk.Resolve
import Mathlib.Data.List.Basic
import Mathlib.Data.List.TakeWhile
import Mathlib.Tactic.SplitIfs

namespace CommentBlocks

namespace Path

def below (path : String) (loc : Location) : String := loc.foldl join path

variable {path name : String}

theorem below_concat (path : String) (front : Location) (name : String) :
    below path (front ++ [name]) = join (below path front) name := by
  simp [below]

theorem below_cons (path name : String) (loc : Location) :
    below path (name :: loc) = below (join path name) loc := rfl

theorem IsName.component? (h : IsName name) : component? name.toList = some (.name name) := by
  have hempty : name.toList ≠ [] := fun he => h.ne_empty (String.ext he)
  have hhere : name.toList ≠ ['.'] := fun he => h.ne_here (String.ext he)
  have hup : name.toList ≠ ['.', '.'] := fun he => h.ne_up (String.ext he)
  rw [Path.component?, if_neg hempty, if_neg hhere, if_neg hup, String.ofList_toList]

theorem segments_ne_nil (s : List Char) : segments s ≠ [] := by
  fun_cases segments s <;> simp

theorem segments_of_slashless {s : List Char} (h : '/' ∉ s) : segments s = [s] := by
  induction s with
  | nil => rfl
  | cons c s ih =>
    rw [List.mem_cons, not_or] at h
    simp [segments, Ne.symm h.1, ih h.2]

theorem segments_append_slash (a b : List Char) :
    segments (a ++ '/' :: b) = segments a ++ segments b := by
  induction a with
  | nil => simp [segments]
  | cons c a ih =>
    rw [List.cons_append, segments, segments, ih]
    split
    · rfl
    · cases hs : segments a with
      | nil => exact absurd hs (segments_ne_nil a)
      | cons s ss => rfl

/-- Joining puts the name behind the stretches of the path. A slash at the end of the path makes no
stretch of its own then. -/
theorem exists_segments_join (h : '/' ∉ name.toList) (hp : path ≠ "") :
    ∃ front, front ≠ [] ∧
      (segments path.toList = front ∨ segments path.toList = front ++ [[]]) ∧
      segments (join path name).toList = front ++ [name.toList] := by
  have he : path.isEmpty = false := by simpa [Bool.eq_false_iff] using hp
  by_cases hs : path.toList.getLast? = some '/'
  · obtain ⟨a, ha⟩ := List.getLast?_eq_some_iff.mp hs
    refine ⟨segments a, segments_ne_nil a, .inr ?_, ?_⟩
    · rw [ha, segments_append_slash]
      rfl
    · rw [join, if_pos (by simp [endsInSlash, hs]), String.toList_append, ha, List.append_assoc,
        List.singleton_append, segments_append_slash, segments_of_slashless h]
  · refine ⟨segments path.toList, segments_ne_nil _, .inl rfl, ?_⟩
    have hj : join path name = path ++ "/" ++ name := by
      rw [join, if_neg (by simp [endsInSlash, hs, he])]
    have hd : "/".toList = ['/'] := rfl
    rw [hj, String.toList_append, String.toList_append, hd, List.append_assoc,
      List.singleton_append, segments_append_slash, segments_of_slashless h]

theorem join_empty (name : String) : join "" name = name := by
  simp [join]

theorem isAbsolute_join (h : '/' ∉ name.toList) :
    isAbsolute (join path name) = isAbsolute path := by
  by_cases hp : path = ""
  · subst hp
    have hh : name.toList.head? ≠ some '/' := fun he => h (List.mem_of_head? he)
    simp [join_empty, isAbsolute, hh]
  · have hn : path.toList ≠ [] := fun he => hp (String.ext he)
    obtain ⟨c, cs, hc⟩ := List.exists_cons_of_ne_nil hn
    rw [isAbsolute, isAbsolute, join]
    split <;> simp [String.toList_append, hc]

theorem join_ne_empty (h : IsName name) : join path name ≠ "" := by
  intro he
  rw [join] at he
  split at he <;> simp_all [h.ne_empty]

theorem components_join (h : IsName name) :
    components (join path name) = components path ++ [.name name] := by
  by_cases hp : path = ""
  · subst hp
    have hh : isAbsolute name = false := by
      have hj : isAbsolute (join "" name) = isAbsolute "" := isAbsolute_join h.slashless
      rwa [join_empty] at hj
    rw [join_empty, components, segments_of_slashless h.slashless]
    simp only [hh, h.component?]
    rfl
  · obtain ⟨front, hne, hs, hj⟩ := exists_segments_join h.slashless hp
    obtain ⟨first, rest, rfl⟩ := List.exists_cons_of_ne_nil hne
    have hc : ([name.toList].filterMap component?).filter (· != .here) = [.name name] := by
      simp [h.component?]
    rw [components, hj, isAbsolute_join h.slashless]
    rw [components]
    obtain hs | hs := hs <;>
      simp only [hs, List.cons_append, List.filterMap_append, List.filter_append, hc] <;>
      split <;> simp [component?]

theorem fileName?_join (h : IsName name) : fileName? (join path name) = some name := by
  simp [fileName?, components_join h]

theorem components_below {loc : Location} (h : ∀ name ∈ loc, IsName name) :
    components (below path loc) = components path ++ loc.map .name := by
  induction loc generalizing path with
  | nil => simp [below]
  | cons name loc ih =>
    obtain ⟨hn, hl⟩ := List.forall_mem_cons.mp h
    have hc : components (below (join path name) loc) =
        components (join path name) ++ loc.map .name := ih hl
    rw [components_join hn] at hc
    simpa [below] using hc

theorem below_inj {loc loc' : Location} (h : ∀ name ∈ loc, IsName name)
    (h' : ∀ name ∈ loc', IsName name) (he : below path loc = below path loc') : loc = loc' := by
  have hc : components (below path loc) = components path ++ loc.map .name := components_below h
  rw [he, components_below h', List.append_cancel_left_eq] at hc
  exact List.map_injective_iff.mpr (fun a b hab => Component.name.inj hab) hc.symm

theorem extension?_eq_some_iff {name ext : List Char} :
    extension? name = some ext ↔ ∃ stem, stem ≠ [] ∧ name = stem ++ '.' :: ext ∧ '.' ∉ ext := by
  rw [extension?]
  constructor
  · intro h
    have hsplit := List.takeWhile_append_dropWhile (p := (· != '.')) (l := name.reverse)
    split at h
    · cases h
    · cases h
    · rename_i a b rest hd
      cases h
      have ha : a = '.' := by
        have := List.head?_dropWhile_not (· != '.') name.reverse
        simpa [hd] using this
      subst ha
      refine ⟨(b :: rest).reverse, by simp, ?_, fun hm => ?_⟩
      · rw [hd] at hsplit
        calc name = name.reverse.reverse := by simp
          _ = (_ ++ '.' :: b :: rest).reverse := congrArg List.reverse hsplit.symm
          _ = _ := by simp
      · simpa using List.mem_takeWhile_imp (List.mem_reverse.mp hm)
  · rintro ⟨stem, hs, rfl, he⟩
    obtain ⟨b, rest, hb⟩ := List.exists_cons_of_ne_nil (List.reverse_ne_nil_iff.mpr hs)
    have hr : (stem ++ '.' :: ext).reverse = ext.reverse ++ '.' :: b :: rest := by simp [← hb]
    have hall : ∀ c ∈ ext.reverse, (c != '.') = true := by
      intro c hc
      simpa using fun hd : c = '.' => he (hd ▸ List.mem_reverse.mp hc)
    rw [hr]
    simp [List.dropWhile_append_of_pos hall, List.takeWhile_append_of_pos hall]

end Path

namespace Bytes

theorem cons_ofNat_lt {m n : Nat} (hm : m < 256) (hn : n < 256) (x y : Bytes) :
    UInt8.ofNat m :: x < UInt8.ofNat n :: y ↔ m < n ∨ m = n ∧ x < y := by
  have hm' : (UInt8.ofNat m).toNat = m := by rw [UInt8.toNat_ofNat']; omega
  have hn' : (UInt8.ofNat n).toNat = n := by rw [UInt8.toNat_ofNat']; omega
  rw [List.cons_lt_cons_iff, UInt8.lt_iff_toNat_lt, ← UInt8.toNat_inj, hm', hn']

theorem digits_lt {m n : Nat} (h : m < n) :
    (m / 64 < n / 64 ∨ m / 64 = n / 64 ∧ m % 64 < n % 64) ∧
      (m / 4096 < n / 4096 ∨
        m / 4096 = n / 4096 ∧ (m / 64 = n / 64 ∨ m / 64 % 64 < n / 64 % 64)) ∧
      (m / 262144 < n / 262144 ∨
        m / 262144 = n / 262144 ∧ (m / 4096 = n / 4096 ∨ m / 4096 % 64 < n / 4096 % 64)) := by
  have hq (k : Nat) : k / 64 / 64 = k / 4096 ∧ k / 4096 / 64 = k / 262144 :=
    ⟨Nat.div_div_eq_div_mul k 64 64, Nat.div_div_eq_div_mul k 4096 64⟩
  have hm := hq m
  have hn := hq n
  omega

theorem utf8EncodeChar_append_lt {c d : Char} (h : c < d) (x y : Bytes) :
    String.utf8EncodeChar c ++ x < String.utf8EncodeChar d ++ y := by
  have hv : c.val.toNat < d.val.toNat := h
  have hd : d.val.toNat < 0x110000 := by
    rcases d.valid with h | ⟨-, h⟩ <;> omega
  unfold String.utf8EncodeChar
  dsimp only
  generalize c.val.toNat = m at hv
  generalize d.val.toNat = n at hv hd
  have hdigits := digits_lt hv
  have hm : m / 262144 % 8 = m / 262144 := by omega
  have hn : n / 262144 % 8 = n / 262144 := by omega
  -- Only characters of the same length leave a comparison of `x` and `y` behind.
  by_cases hxy : x < y <;> split_ifs <;>
    simp (disch := omega) only [List.cons_append, List.nil_append, cons_ofNat_lt, hxy, and_true,
      and_false, or_false] <;> omega

theorem ofChars_lt {a b : List Char} (h : a < b) : ofChars a < ofChars b := by
  induction h with
  | @nil b bs =>
    obtain ⟨x, xs, hx⟩ := List.exists_cons_of_ne_nil (String.utf8EncodeChar_ne_nil (c := b))
    simp only [ofChars, List.flatMap_nil, List.flatMap_cons, hx]
    exact List.Lex.nil
  | rel h => exact utf8EncodeChar_append_lt h _ _
  | cons _ ih => exact List.append_left_lt ih

end Bytes

namespace Path

/-- The order of locations: name by name, and names by their bytes. -/
def Before (a b : Location) : Prop := a.map Bytes.ofText < b.map Bytes.ofText

theorem before_cons {a b : Location} (name : String) (h : Before a b) :
    Before (name :: a) (name :: b) :=
  List.cons_lt_cons_iff.mpr (.inr ⟨rfl, h⟩)

instance : Std.Asymm Before := ⟨fun _ _ h h' => List.lt_asymm h h'⟩

theorem before_of_lt {m n : String} (h : m < n) (a b : Location) : Before (m :: a) (n :: b) :=
  List.cons_lt_cons_iff.mpr (.inl (Bytes.ofChars_lt (String.lt_iff.mp h)))

end Path

end CommentBlocks
