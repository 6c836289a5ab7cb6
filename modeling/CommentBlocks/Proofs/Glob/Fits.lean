import CommentBlocks.Proofs.Text.Characters

namespace CommentBlocks.Glob

open Bytes

/-- What is spelled character by character fits a pattern: a star stands for anything, a question
mark for one thing that characters are spelled with, and every character for itself. -/
inductive Fits {α : Type} (spell : Char → List α) : List Char → List α → Prop
  | nil : Fits spell [] []
  | star {p w} (v : List α) (h : Fits spell p w) : Fits spell ('*' :: p) (v ++ w)
  | one {p w} (a : α) (h : Fits spell p w) : Fits spell ('?' :: p) (a :: w)
  | same {p w} (c : Char) (h : Fits spell p w) : Fits spell (c :: p) (spell c ++ w)

def FitsByCharacters (pattern name : String) : Prop :=
  Fits (fun c => [c]) pattern.toList name.toList

def FitsByBytes (pattern name : String) : Prop :=
  Fits String.utf8EncodeChar pattern.toList (ofText name)

variable {α : Type} {spell : Char → List α} {p n : List Char} {x : List α} {w : Bytes}

theorem Fits.refl (p : List Char) : Fits spell p (p.flatMap spell) := by
  induction p with
  | nil => exact .nil
  | cons c p ih => exact .same c ih

theorem fits_star_iff : Fits spell ('*' :: p) x ↔ ∃ u v, x = u ++ v ∧ Fits spell p v := by
  constructor
  · intro h
    cases h with
    | star v h => exact ⟨v, _, rfl, h⟩
    | same _ h => exact ⟨_, _, rfl, h⟩
  · rintro ⟨u, v, rfl, h⟩
    exact .star u h

theorem fits_cons_iff {c : Char} (hs : c ≠ '*') (hq : c ≠ '?') :
    Fits spell (c :: p) x ↔ ∃ v, x = spell c ++ v ∧ Fits spell p v := by
  constructor
  · intro h
    cases h with
    | star => exact absurd rfl hs
    | one => exact absurd rfl hq
    | same _ h => exact ⟨_, rfl, h⟩
  · rintro ⟨v, rfl, h⟩
    exact .same c h

theorem fits_nil_iff : Fits spell [] x ↔ x = [] := by
  constructor
  · intro h
    cases h
    rfl
  · rintro rfl
    exact .nil

theorem fits_iff_of_literal (hp : ∀ c ∈ p, c ≠ '*' ∧ c ≠ '?') :
    Fits spell p x ↔ x = p.flatMap spell := by
  induction p generalizing x with
  | nil => rw [fits_nil_iff, List.flatMap_nil]
  | cons c p ih =>
    obtain ⟨⟨hs, hq⟩, hp⟩ := List.forall_mem_cons.mp hp
    simp only [fits_cons_iff hs hq, ih hp, List.flatMap_cons, exists_eq_right]

/-- Where a question mark stands for the same by characters as by bytes: there is none, or all
characters are single bytes. -/
def Alike (p n : List Char) : Prop := '?' ∉ p ∨ ∀ c ∈ n, c.toNat < 128

theorem Alike.tail {c : Char} (h : Alike (c :: p) n) {m : List Char} (hm : m ⊆ n) : Alike p m :=
  h.imp (fun hp hq => hp (List.mem_cons_of_mem c hq)) fun hn d hd => hn d (hm hd)

theorem utf8EncodeChar_of_lt {c : Char} (h : c.toNat < 128) :
    String.utf8EncodeChar c = [UInt8.ofNat c.toNat] := by
  have hv : c.val.toNat ≤ 127 := Nat.le_of_lt_succ h
  rw [String.utf8EncodeChar, if_pos hv]
  rfl

theorem Fits.toBytes (h : Fits (fun c => [c]) p n) (ha : Alike p n) :
    Fits String.utf8EncodeChar p (ofChars n) := by
  induction h with
  | nil => exact .nil
  | star v _ ih =>
    rw [ofChars_append]
    exact .star _ (ih (ha.tail (List.subset_append_right _ _)))
  | @one p w c _ ih =>
    rw [ofChars_cons]
    have htail := ih (ha.tail (List.subset_cons_self _ _))
    rcases ha with hq | hn
    · exact absurd List.mem_cons_self hq
    · rw [utf8EncodeChar_of_lt (hn c List.mem_cons_self)]
      exact .one _ htail
  | same c _ ih =>
    rw [List.singleton_append, ofChars_cons]
    exact .same c (ih (ha.tail (List.subset_cons_self _ _)))

theorem ofChars_of_lt (h : ∀ c ∈ n, c.toNat < 128) : ofChars n = n.map (UInt8.ofNat ·.toNat) := by
  induction n with
  | nil => rfl
  | cons c n ih =>
    obtain ⟨hc, hn⟩ := List.forall_mem_cons.mp h
    rw [ofChars_cons, utf8EncodeChar_of_lt hc, ih hn]
    rfl

theorem eq_nil_of_ofChars_eq_nil (h : ofChars n = []) : n = [] := ofChars_injective (b := []) h

/-- What fits by bytes at the end of a text fits by characters, from where some character begins,
and if nothing stands in front of it, it fits as a whole. -/
theorem Fits.exists_end (h : Fits String.utf8EncodeChar p w) {v : Bytes} (hn : ofChars n = v ++ w)
    (ha : Alike p n) :
    ∃ front back, n = front ++ back ∧ Fits (fun c => [c]) p back ∧ (v = [] → front = []) := by
  induction h generalizing v n with
  | nil =>
    refine ⟨n, [], (List.append_nil n).symm, .nil, ?_⟩
    rintro rfl
    exact eq_nil_of_ofChars_eq_nil hn
  | star u _ ih =>
    rw [← List.append_assoc] at hn
    obtain ⟨front, back, rfl, hf, -⟩ := ih hn (ha.tail (List.Subset.refl _))
    exact ⟨[], front ++ back, rfl, .star front hf, fun _ => rfl⟩
  | one b _ ih =>
    have hsingle : ∀ c ∈ n, c.toNat < 128 := ha.resolve_left fun hq => hq List.mem_cons_self
    rw [ofChars_of_lt hsingle] at hn
    obtain ⟨front, rest, rfl, rfl, hrest⟩ := List.map_eq_append_iff.mp hn
    obtain ⟨c, back, rfl, rfl, rfl⟩ := List.map_eq_cons_iff.mp hrest
    have hback : ∀ d ∈ back, d.toNat < 128 := fun d hd => hsingle d (by simp [hd])
    obtain ⟨first, last, rfl, hf, hfirst⟩ := ih (v := []) (ofChars_of_lt hback) (.inr hback)
    obtain rfl := hfirst rfl
    exact ⟨front, c :: last, rfl, .one c hf, List.map_eq_nil_iff.mp⟩
  | same c _ ih =>
    obtain ⟨front, back, rfl, rfl, rfl⟩ := exists_of_ofChars_eq hn
    have hback : back ⊆ front ++ c :: back := fun d hd => by simp [hd]
    obtain ⟨first, last, rfl, hf, hfirst⟩ := ih (v := []) rfl (ha.tail hback)
    obtain rfl := hfirst rfl
    exact ⟨front, c :: last, rfl, .same c hf, eq_nil_of_ofChars_eq_nil⟩

theorem fitsByBytes_iff {pattern name : String} (ha : Alike pattern.toList name.toList) :
    FitsByBytes pattern name ↔ FitsByCharacters pattern name := by
  constructor
  · intro h
    obtain ⟨front, back, hn, hf, hfront⟩ := Fits.exists_end h (v := []) rfl ha
    obtain rfl := hfront rfl
    rw [FitsByCharacters, hn]
    exact hf
  · exact fun h => h.toBytes ha

theorem FitsByBytes.refl (name : String) : FitsByBytes name name := Fits.refl name.toList

end CommentBlocks.Glob
