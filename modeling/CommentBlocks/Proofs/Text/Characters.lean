import CommentBlocks.Bytes

namespace CommentBlocks

open Bytes

theorem eq_of_utf8EncodeChar_append {c d : Char} {x y : Bytes}
    (h : String.utf8EncodeChar c ++ x = String.utf8EncodeChar d ++ y) : c = d := by
  have hc := ByteArray.utf8DecodeChar?_utf8EncodeChar_append (b := x.toByteArray) (c := c)
  have hd := ByteArray.utf8DecodeChar?_utf8EncodeChar_append (b := y.toByteArray) (c := d)
  rw [← List.toByteArray_append] at hc hd
  rw [h, hd] at hc
  exact Option.some.inj hc.symm

namespace Bytes

variable {c d : Char} {v w x bs : Bytes}

theorem ofChars_cons (c : Char) (cs : List Char) :
    ofChars (c :: cs) = String.utf8EncodeChar c ++ ofChars cs :=
  List.flatMap_cons

theorem ofChars_singleton (c : Char) : ofChars [c] = String.utf8EncodeChar c := by
  simp [ofChars]

/-- A character does not begin inside the bytes of another one. -/
theorem eq_nil_of_utf8EncodeChar_eq_append (hd : String.utf8EncodeChar d = v ++ bs) (hv : v ≠ [])
    (hc : String.utf8EncodeChar c ++ w = bs ++ x) : bs = [] := by
  cases bs with
  | nil => rfl
  | cons b bs =>
    obtain ⟨a, as, ha⟩ := List.exists_cons_of_ne_nil (String.utf8EncodeChar_ne_nil (c := c))
    have hfirst := UInt8.isUTF8FirstByte_getElem_zero_utf8EncodeChar (c := c)
    simp only [ha, List.getElem_cons_zero] at hfirst
    rw [ha] at hc
    obtain rfl : a = b := (List.cons.inj hc).1
    have hlen : v.length < (String.utf8EncodeChar d).length := by simp [hd]
    have hinner := @UInt8.isUTF8FirstByte_getElem_utf8EncodeChar d v.length hlen
    simp only [hd, List.getElem_append_right (Nat.le_refl v.length), Nat.sub_self,
      List.getElem_cons_zero] at hinner
    exact absurd (List.length_eq_zero_iff.mp (hinner.mp hfirst)) hv

/-- A character whose bytes are found in those of a text stands there. -/
theorem exists_of_ofChars_eq {n : List Char}
    (h : ofChars n = v ++ (String.utf8EncodeChar c ++ w)) :
    ∃ a b, n = a ++ c :: b ∧ ofChars a = v ∧ ofChars b = w := by
  induction n generalizing v with
  | nil => simp [ofChars, String.utf8EncodeChar_ne_nil] at h
  | cons d n ih =>
    have hmore {u : Bytes} (hv : v = String.utf8EncodeChar d ++ u)
        (hn : ofChars n = u ++ (String.utf8EncodeChar c ++ w)) :
        ∃ a b, d :: n = a ++ c :: b ∧ ofChars a = v ∧ ofChars b = w := by
      obtain ⟨a, b, rfl, ha, hb⟩ := ih hn
      exact ⟨d :: a, b, rfl, by rw [ofChars_cons, ha, hv], hb⟩
    rw [ofChars_cons] at h
    rcases List.append_eq_append_iff.mp h with ⟨u, hv, hn⟩ | ⟨bs, hd, hc⟩
    · exact hmore hv hn
    · by_cases hv : v = []
      · subst hv
        rw [List.nil_append] at h
        obtain rfl := eq_of_utf8EncodeChar_append h
        exact ⟨[], n, rfl, rfl, List.append_cancel_left h⟩
      · obtain rfl := eq_nil_of_utf8EncodeChar_eq_append hd hv hc
        exact hmore (u := []) (by simpa using hd.symm) (by simpa using hc.symm)

theorem ofChars_injective {a b : List Char} (h : ofChars a = ofChars b) : a = b := by
  have ha := chars?_ofChars a
  rw [h, chars?_ofChars] at ha
  exact (Option.some.inj ha).symm

theorem ofText_injective {s t : String} (h : ofText s = ofText t) : s = t :=
  String.ext (ofChars_injective h)

theorem slash_notMem_utf8EncodeChar (h : c ≠ '/') : slash ∉ String.utf8EncodeChar c := by
  intro hm
  obtain ⟨v, w, hc⟩ := List.append_of_mem hm
  have hs : String.utf8EncodeChar '/' = [slash] := rfl
  have hone : ofChars [c] = v ++ (String.utf8EncodeChar '/' ++ w) := by
    rw [ofChars_singleton, hc, hs, List.singleton_append]
  obtain ⟨a, b, he, -⟩ := exists_of_ofChars_eq hone
  obtain ⟨rfl, hc, -⟩ | ⟨_, -, hn⟩ := List.cons_eq_append_iff.mp he <;> simp_all

theorem slash_notMem_ofText {s : String} (h : '/' ∉ s.toList) : slash ∉ ofText s := by
  intro hm
  obtain ⟨c, hc, hs⟩ := List.mem_flatMap.mp hm
  exact slash_notMem_utf8EncodeChar (fun he => h (he ▸ hc)) hs

end Bytes

end CommentBlocks
