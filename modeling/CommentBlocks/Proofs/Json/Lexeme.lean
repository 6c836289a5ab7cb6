import CommentBlocks.Json.Numeral
import CommentBlocks.Json.Written
import Mathlib.Tactic.SplitIfs

namespace CommentBlocks.Json

theorem hexDigit?_hexDigit : ∀ n < 16, hexDigit? (hexDigit n) = some n := by decide

theorem hexCode_cons {a b c d : Char} {w x y z : Nat} (ha : hexDigit? a = some w)
    (hb : hexDigit? b = some x) (hc : hexDigit? c = some y) (hd : hexDigit? d = some z)
    (s : List Char) :
    hexCode (a :: b :: c :: d :: s) = .ok (w * 4096 + x * 256 + y * 16 + z, s) := by
  have hw : ¬ Bytes.width ((a :: b :: c :: d :: s).take 4) < 4 := by
    have := a.utf8Size_pos
    have := b.utf8Size_pos
    have := c.utf8Size_pos
    have := d.utf8Size_pos
    simp only [List.take_succ_cons, List.take_zero, Bytes.width]
    omega
  rw [hexCode, if_neg hw]
  simp only [ha, hb, hc, hd]

theorem escape_control {c : Char} (hc : c.toNat < 0x20) (s : List Char) :
    escape ('u' :: '0' :: '0' :: hexDigit (c.toNat / 16) :: hexDigit (c.toNat % 16) :: s) =
      .ok (c, s) := by
  have hv : 0 * 4096 + 0 * 256 + c.toNat / 16 * 16 + c.toNat % 16 = c.toNat := by omega
  have h := hexCode_cons (hexDigit?_hexDigit 0 (by decide)) (hexDigit?_hexDigit 0 (by decide))
    (hexDigit?_hexDigit (c.toNat / 16) (by omega)) (hexDigit?_hexDigit (c.toNat % 16) (by omega)) s
  have hh : hexDigit 0 = '0' := rfl
  rw [hv, hh] at h
  have hs : isLowSurrogate c.toNat = false ∧ isHighSurrogate c.toNat = false := by
    simp only [isLowSurrogate, isHighSurrogate, Bool.and_eq_false_iff, decide_eq_false_iff_not]
    omega
  simp [escape, h, hs.1, hs.2, Char.ofNat_toNat]

theorem chars_quote (s : List Char) : chars ('"' :: s) = .ok ([], s) := by
  rw [chars]
  rfl

theorem chars_escape {x : Char} {s rest : List Char} (h : escape s = .ok (x, rest)) :
    chars ('\\' :: s) = (chars rest).map fun (xs, after) => (x :: xs, after) := by
  rw [chars, if_neg (by decide), if_pos rfl]
  split
  · next he => simp [h] at he
  · next he =>
    rw [h] at he
    obtain ⟨rfl, rfl⟩ := Prod.mk.inj (Except.ok.inj he)
    rfl

theorem chars_plain {c : Char} (hq : c ≠ '"') (hb : c ≠ '\\') (hc : ¬ c.toNat < 0x20)
    (s : List Char) : chars (c :: s) = (chars s).map fun (xs, after) => (c :: xs, after) := by
  rw [chars, if_neg hq, if_neg hb, if_neg hc]

theorem chars_writeChar_append (c : Char) (s : List Char) :
    chars (writeChar c ++ s) = (chars s).map fun (xs, after) => (c :: xs, after) := by
  unfold writeChar
  split_ifs with h₁ h₂ h₃ h₄ h₅ h₆ h₇ h₈
  case neg => exact chars_plain h₁ h₂ h₈ s
  rotate_right
  · exact chars_escape (escape_control h₈ s)
  all_goals
    subst c
    exact chars_escape rfl

theorem chars_flatMap_writeChar (cs rest : List Char) :
    chars (cs.flatMap writeChar ++ '"' :: rest) = .ok (cs, rest) := by
  induction cs with
  | nil => exact chars_quote rest
  | cons c cs ih => rw [List.flatMap_cons, List.append_assoc, chars_writeChar_append, ih]; rfl

def goesOn (c : Char) : Bool := c.isDigit || c == '.' || c == 'e' || c == 'E'

def Ends (rest : List Char) : Prop := ∀ c ∈ rest.head?, goesOn c = false

theorem ends_nil : Ends [] := nofun

theorem ends_cons {c : Char} (h : goesOn c = false) (rest : List Char) : Ends (c :: rest) := by
  rintro _ ⟨⟩
  exact h

theorem Ends.eq_nil_or_cons {rest : List Char} (h : Ends rest) :
    rest = [] ∨ ∃ c s, rest = c :: s ∧ c.isDigit = false ∧ c ≠ '.' ∧ c ≠ 'e' ∧ c ≠ 'E' := by
  cases rest with
  | nil => exact .inl rfl
  | cons c s =>
    have hc := h c rfl
    simp only [goesOn, Bool.or_eq_false_iff, beq_eq_false_iff_ne] at hc
    exact .inr ⟨c, s, rfl, hc.1.1.1, hc.1.1.2, hc.1.2, hc.2⟩

def NoDigit (rest : List Char) : Prop := ∀ c ∈ rest.head?, c.isDigit = false

theorem noDigit_nil : NoDigit [] := nofun

theorem noDigit_cons {c : Char} (h : c.isDigit = false) (rest : List Char) :
    NoDigit (c :: rest) := by
  rintro _ ⟨⟩
  exact h

theorem Ends.noDigit {rest : List Char} (h : Ends rest) : NoDigit rest := by
  obtain rfl | ⟨c, s, rfl, hc, -⟩ := h.eq_nil_or_cons
  · exact noDigit_nil
  · exact noDigit_cons hc s

structure IsWhole (ds : List Char) : Prop where
  digit : ∀ c ∈ ds, c.isDigit = true
  nonempty : ds ≠ []
  alone : ∀ ds', ds = '0' :: ds' → ds' = []

theorem toDigits_ne_zero_cons {n : Nat} (hn : n ≠ 0) (ds : List Char) :
    Nat.toDigits 10 n ≠ '0' :: ds := by
  induction n using Nat.strongRecOn generalizing ds with
  | ind n ih =>
    intro h
    rw [Nat.toDigits_eq_if (by decide)] at h
    split at h
    · exact hn (Nat.zero_eq_digitChar.mp (List.cons.inj h).1.symm)
    · obtain ⟨c, cs, hc⟩ := List.exists_cons_of_ne_nil (Nat.toDigits_ne_nil (n := n / 10) (b := 10))
      rw [hc, List.cons_append] at h
      exact ih (n / 10) (by omega) (by omega) cs ((List.cons.inj h).1 ▸ hc)

theorem isWhole_toDigits (n : Nat) : IsWhole (Nat.toDigits 10 n) where
  digit _ hc := Nat.isDigit_of_mem_toDigits (by decide) (by decide) hc
  nonempty := Nat.toDigits_ne_nil
  alone ds h := by
    by_cases hn : n = 0
    · rw [hn, Nat.toDigits_zero] at h
      exact (List.cons.inj h).2.symm
    · exact absurd h (toDigits_ne_zero_cons hn ds)

section Numeral

variable {ds rest : List Char} {atEnd : Fault}

theorem digits_append (hd : ∀ c ∈ ds, c.isDigit = true) (hn : ds ≠ []) (hr : NoDigit rest) :
    digits atEnd (ds ++ rest) = .ok (ds, rest) := by
  obtain ⟨c, cs, rfl⟩ := List.exists_cons_of_ne_nil hn
  have ht : rest.takeWhile Char.isDigit = [] ∧ rest.dropWhile Char.isDigit = rest := by
    cases rest with
    | nil => exact ⟨rfl, rfl⟩
    | cons c s => simp [hr c rfl]
  rw [List.cons_append, digits, if_pos (hd c List.mem_cons_self), ← List.cons_append,
    List.takeWhile_append_of_pos hd, List.dropWhile_append_of_pos hd, ht.1, ht.2, List.append_nil]

theorem wholeDigits_append (hd : IsWhole ds) (hr : NoDigit rest) :
    wholeDigits atEnd (ds ++ rest) = .ok (ds, rest) := by
  unfold wholeDigits
  split
  · next c s he =>
    obtain ⟨d, ds, rfl⟩ := List.exists_cons_of_ne_nil hd.nonempty
    obtain ⟨rfl, hs⟩ := List.cons.inj he
    obtain rfl := hd.alone ds rfl
    obtain rfl : rest = c :: s := hs
    rw [if_neg (by simp [hr c rfl])]
  · exact digits_append hd.digit hd.nonempty hr

theorem fractionPart_ends (hr : Ends rest) : fractionPart atEnd rest = .ok (none, rest) := by
  obtain rfl | ⟨c, s, rfl, -, hc, -⟩ := hr.eq_nil_or_cons
  · rfl
  · unfold fractionPart
    split
    · next he => exact absurd (List.cons.inj he).1 hc
    · rfl

theorem exponentPart_ends (hr : Ends rest) : exponentPart atEnd rest = .ok (none, rest) := by
  obtain rfl | ⟨c, s, rfl, -, -, hc⟩ := hr.eq_nil_or_cons
  · rfl
  · simp only [exponentPart, if_neg (not_or.mpr hc)]

theorem numeral_append (hd : IsWhole ds) (hr : Ends rest) :
    numeral atEnd (ds ++ rest) = .ok (⟨false, ds, none, none⟩, rest) := by
  obtain ⟨c, cs, rfl⟩ := List.exists_cons_of_ne_nil hd.nonempty
  have hc : c ≠ '-' := by
    rintro rfl
    exact absurd (hd.digit '-' List.mem_cons_self) (by decide)
  unfold numeral
  split
  next he =>
    split at he
    · next hm => exact absurd (List.cons.inj hm).1 hc
    · obtain ⟨rfl, rfl⟩ := Prod.mk.inj he
      rw [wholeDigits_append hd hr.noDigit]
      simp only [bind, Except.bind, fractionPart_ends hr, exponentPart_ends hr]
      rfl

end Numeral

theorem writeNat_eq (n : Nat) : writeNat n = Nat.toDigits 10 n := by
  rw [writeNat, Nat.toString_eq_ofList_toDigits, String.toList_ofList]

theorem exists_writeNat_eq_cons (n : Nat) : ∃ c l, writeNat n = c :: l ∧ c.isDigit = true := by
  obtain ⟨c, l, hc⟩ := List.exists_cons_of_ne_nil (isWhole_toDigits n).nonempty
  refine ⟨c, l, (writeNat_eq n).trans hc, (isWhole_toDigits n).digit c ?_⟩
  rw [hc]
  exact List.mem_cons_self

theorem number_writeNat {n : Nat} (hn : n < wordValues) {rest : List Char} (hr : Ends rest) :
    ∃ k, number (writeNat n ++ rest) = .ok (k, rest) ∧ k.natural? = some n := by
  have hv : valueOf (Nat.toDigits 10 n) = n := Nat.ofDigitChars_ten_toDigits
  have hk : (⟨false, Nat.toDigits 10 n, none, none⟩ : Numeral).natural? = some n := by
    simp [Numeral.natural?, hv, hn]
  refine ⟨_, ?_, hk⟩
  rw [writeNat_eq, number, numeral_append (isWhole_toDigits n) hr]
  simp only [bind, Except.bind, hk]
  rfl

end CommentBlocks.Json
