import CommentBlocks.Message.Template

namespace CommentBlocks.Template

inductive Piece
  | text (t : String) (plain : openBrace ∉ t.toList)
  | place (zeros n : Nat)

def numeral (zeros n : Nat) : List Char := List.replicate zeros '0' ++ Nat.toDigits 10 n

namespace Piece

def spelling : Piece → String
  | text t _ => t
  | place zeros n => String.ofList (openBrace :: (numeral zeros n ++ [closeBrace]))

/-- What is in the place of a piece once its template is filled. A place whose number is that of no
argument stays as it is spelled. -/
def filled (args : List String) (p : Piece) : String :=
  match p with
  | text t _ => t
  | place zeros n => args[n]?.getD (place zeros n).spelling

end Piece

variable {args : List (List Char)} {zeros n : Nat}

theorem isDigit_of_mem_numeral {c : Char} (h : c ∈ numeral zeros n) : c.isDigit = true := by
  rcases List.mem_append.mp h with h | h
  · obtain rfl := List.eq_of_mem_replicate h
    rfl
  · exact Nat.isDigit_of_mem_toDigits (by decide) (by decide) h

theorem numeral_ne_nil (zeros n : Nat) : numeral zeros n ≠ [] := by
  simp [numeral, Nat.toDigits_ne_nil]

theorem notMem_numeral {c : Char} (h : c.isDigit = false) : c ∉ numeral zeros n := by
  intro hm
  simp [isDigit_of_mem_numeral hm] at h

theorem ofDigitChars_numeral (zeros n : Nat) :
    Nat.ofDigitChars 10 (numeral zeros n) 0 = n := by
  rw [numeral, Nat.ofDigitChars_append]
  have hzeros : Nat.ofDigitChars 10 (List.replicate zeros '0') 0 = 0 := by
    induction zeros with
    | zero => rfl
    | succ zeros ih => simpa [List.replicate_succ, Nat.ofDigitChars] using ih
  rw [hzeros, Nat.ofDigitChars_ten_toDigits]

theorem number?_numeral : number? (numeral zeros n) = some n := by
  obtain ⟨c, cs, hc⟩ := List.exists_cons_of_ne_nil (numeral_ne_nil zeros n)
  have hplus : c ≠ '+' := by
    rintro rfl
    exact notMem_numeral (by decide) (hc ▸ List.mem_cons_self)
  have hall : (numeral zeros n).all Char.isDigit = true :=
    List.all_eq_true.mpr fun c hm => isDigit_of_mem_numeral hm
  have hvalue := ofDigitChars_numeral zeros n
  have hdigits : number? (c :: cs) =
      if (c :: cs).all Char.isDigit then some (Nat.ofDigitChars 10 (c :: cs) 0) else none := by
    simp [number?, hplus, Nat.ofDigitChars]
  rw [hc] at hall hvalue
  rw [hc, hdigits, if_pos hall, hvalue]

theorem argument?_numeral (args : List (List Char)) (zeros n : Nat) (rest : List Char) :
    argument? args (numeral zeros n ++ closeBrace :: rest) = args[n]?.map (·, rest) := by
  have hbrace : ∀ c ∈ numeral zeros n, (c != closeBrace) = true := by
    intro c hm
    have hc : c ≠ closeBrace := fun hc => notMem_numeral (by decide) (hc ▸ hm)
    simpa using hc
  rw [argument?, List.dropWhile_append_of_pos hbrace, List.takeWhile_append_of_pos hbrace]
  simp [number?_numeral]

theorem fillChars_append {t : List Char} (h : openBrace ∉ t) (args : List (List Char))
    (rest : List Char) :
    fillChars args (t ++ rest) = t ++ fillChars args rest := by
  induction t with
  | nil => rfl
  | cons c t ih =>
    rw [List.mem_cons, not_or] at h
    rw [List.cons_append, fillChars, if_neg (Ne.symm h.1), ih h.2, List.cons_append]

theorem fillChars_place (rest : List Char) :
    fillChars args (openBrace :: (numeral zeros n ++ closeBrace :: rest)) =
      args[n]?.getD (openBrace :: (numeral zeros n ++ [closeBrace])) ++ fillChars args rest := by
  rw [fillChars, if_pos rfl]
  have harg := argument?_numeral args zeros n rest
  cases hn : args[n]? with
  | some arg =>
    rw [hn, Option.map_some] at harg
    split
    · next h =>
      obtain ⟨rfl, rfl⟩ := Prod.mk.inj (Option.some.inj (harg.symm.trans h))
      rfl
    · next h => simp [harg] at h
  | none =>
    rw [hn, Option.map_none] at harg
    split
    · next h => simp [harg] at h
    -- The brace stays, and nothing behind it up to the closing brace opens a place.
    · have hbrace : openBrace ∉ numeral zeros n := notMem_numeral (by decide)
      have hplain : openBrace ∉ numeral zeros n ++ [closeBrace] := by
        rw [List.mem_append, not_or]
        exact ⟨hbrace, by decide⟩
      have hrest := fillChars_append hplain args rest
      rw [List.append_assoc, List.singleton_append] at hrest
      rw [hrest]
      rfl

/-- A template is filled piece by piece: texts stay as they are, and so do places without an
argument. What is put into a place is not looked at again. -/
theorem fill_pieces (pieces : List Piece) (args : List String) :
    fill (String.join (pieces.map Piece.spelling)) args =
      String.join (pieces.map (Piece.filled args)) := by
  rw [fill]
  apply String.ext
  rw [String.toList_ofList]
  induction pieces with
  | nil => simp [fillChars]
  | cons p pieces ih =>
    simp only [List.map_cons, String.join_cons, String.toList_append]
    cases p with
    | text t plain => rw [Piece.spelling, Piece.filled, fillChars_append plain, ih]
    | place zeros n =>
      rw [Piece.spelling, String.toList_ofList, List.cons_append, List.append_assoc,
        List.singleton_append, fillChars_place, ih, Piece.filled, Piece.spelling]
      cases hn : args[n]? <;> simp [hn]

example : fill "\x7b01\x7d\x7b0\x7d-\x7b2\x7d" ["a", "\x7b0\x7d"] = "\x7b0\x7da-\x7b2\x7d" := by cbv

end CommentBlocks.Template
