import CommentBlocks.Json.Value
import CommentBlocks.Proofs.Json.Lexeme
import Mathlib.Data.List.Forall2

namespace CommentBlocks.Json

abbrev Lexemes := List (List Char)

/-- The text consists of the lexemes, with any blanks in front of each of them. -/
inductive Spaced : Lexemes → List Char → Prop
  | nil : Spaced [] []
  | cons {b : List Char} {ls : Lexemes} {s : List Char} (hb : ∀ c ∈ b, isBlank c = true)
      (l : List Char) (hs : Spaced ls s) : Spaced (l :: ls) (b ++ (l ++ s))

theorem spaced_flatten (ls : Lexemes) : Spaced ls ls.flatten := by
  induction ls with
  | nil => exact .nil
  | cons l ls ih => exact .cons (b := []) (List.forall_mem_nil _) l ih

theorem Spaced.exists_append {ls ms : Lexemes} {s : List Char} (h : Spaced (ls ++ ms) s) :
    ∃ t u, s = t ++ u ∧ Spaced ls t ∧ Spaced ms u := by
  induction ls generalizing s with
  | nil => exact ⟨[], s, rfl, .nil, h⟩
  | cons l ls ih =>
    cases h with
    | cons hb _ hs =>
      obtain ⟨t, u, rfl, ht, hu⟩ := ih hs
      exact ⟨_, u, by simp only [List.append_assoc], .cons hb l ht, hu⟩

theorem skipBlanks_append {b : List Char} (hb : ∀ c ∈ b, isBlank c = true) (s : List Char) :
    skipBlanks (b ++ s) = skipBlanks s := List.dropWhile_append_of_pos hb

theorem skipBlanks_cons {c : Char} (hc : isBlank c = false) (s : List Char) :
    skipBlanks (c :: s) = c :: s := by
  rw [skipBlanks, List.dropWhile_cons, hc]
  rfl

theorem Spaced.skipBlanks_eq {c : Char} {l : List Char} {ls : Lexemes} {s : List Char}
    (h : Spaced ((c :: l) :: ls) s) (hc : isBlank c = false) (rest : List Char) :
    ∃ t, Spaced ls t ∧ skipBlanks (s ++ rest) = c :: (l ++ (t ++ rest)) := by
  cases h with
  | cons hb _ hs =>
    refine ⟨_, hs, ?_⟩
    rw [List.append_assoc, skipBlanks_append hb, List.append_assoc]
    exact skipBlanks_cons hc _

theorem goesOn_of_isBlank {c : Char} (h : isBlank c = true) : goesOn c = false := by
  simp only [isBlank, Bool.or_eq_true, beq_iff_eq] at h
  obtain ((rfl | rfl) | rfl) | rfl := h <;> rfl

theorem Spaced.ends {c : Char} {l : List Char} {ls : Lexemes} {s : List Char}
    (h : Spaced ((c :: l) :: ls) s) (hc : goesOn c = false) (rest : List Char) :
    Ends (s ++ rest) := by
  cases h with
  | @cons b _ _ hb _ hs =>
    cases b with
    | nil => exact ends_cons hc _
    | cons d b => exact ends_cons (goesOn_of_isBlank (hb d List.mem_cons_self)) _

variable {α β : Type} {p : List Char → Reading α} {ls : Lexemes} {a : α}

def Opens (ls : Lexemes) : Prop := ∃ c l ls', ls = (c :: l) :: ls' ∧ isBlank c = false ∧ c ≠ ']'

/-- The reader takes the lexemes and gives `a`. -/
structure Reads (p : List Char → Reading α) (ls : Lexemes) (a : α) : Prop where
  opens : Opens ls
  read : ∀ s, Spaced ls s → ∀ rest, Ends rest → p (s ++ rest) = .ok (a, rest)

theorem Reads.map (h : Reads p ls a) (g : α → β) :
    Reads (fun s => (p s).map fun (v, rest) => (g v, rest)) ls (g a) where
  opens := h.opens
  read s hs rest hr := by simp only [h.read s hs rest hr, Except.map]

theorem exists_of_map {r : Reading α} {g : α → β} {b : β} {rest : List Char}
    (h : (r.map fun (v, rest) => (g v, rest)) = .ok (b, rest)) :
    ∃ v, r = .ok (v, rest) ∧ g v = b := by
  cases r with
  | error e => cases h
  | ok p =>
    obtain ⟨hb, hr⟩ := Prod.mk.inj (Except.ok.inj h)
    exact ⟨p.1, congrArg Except.ok (Prod.ext rfl hr), hb⟩

theorem reads_single {c : Char} {l : List Char} (hb : isBlank c = false) (hc : c ≠ ']')
    (h : ∀ s rest, skipBlanks s = c :: (l ++ rest) → Ends rest → p s = .ok (a, rest)) :
    Reads p [c :: l] a where
  opens := ⟨c, l, [], rfl, hb, hc⟩
  read s hs rest hr := by
    obtain ⟨t, ht, he⟩ := hs.skipBlanks_eq hb rest
    cases ht
    exact h _ _ he hr

theorem reads_text (t : String) : Reads text [writeText t] t.toList := by
  refine reads_single (l := t.toList.flatMap writeChar ++ ['"']) (by decide) (by decide) ?_
  intro s rest hs _
  rw [List.append_assoc, List.singleton_append] at hs
  simp only [text, hs]
  exact chars_flatMap_writeChar t.toList rest

theorem reads_text?_some (t : String) : Reads text? [writeText t] (some t.toList) := by
  refine reads_single (l := t.toList.flatMap writeChar ++ ['"']) (by decide) (by decide) ?_
  intro s rest hs _
  rw [List.append_assoc, List.singleton_append] at hs
  have ht : text ('"' :: (t.toList.flatMap writeChar ++ '"' :: rest)) = .ok (t.toList, rest) := by
    simp only [text, skipBlanks_cons (c := '"') (by decide)]
    exact chars_flatMap_writeChar t.toList rest
  simp only [text?, hs]
  exact congrArg (Except.map fun x => (some x.1, x.2)) ht

theorem reads_text?_none : Reads text? ["null".toList] none := by
  refine reads_single (c := 'n') (by decide) (by decide) fun s rest hs _ => ?_
  simp only [text?, hs]
  rfl

theorem reads_bool (b : Bool) : Reads bool [writeBool b] b := by
  cases b with
  | false =>
    refine reads_single (c := 'f') (by decide) (by decide) fun s rest hs _ => ?_
    simp only [bool, hs]
    rfl
  | true =>
    refine reads_single (c := 't') (by decide) (by decide) fun s rest hs _ => ?_
    simp only [bool, hs]
    rfl

theorem isBlank_of_isDigit {c : Char} (h : c.isDigit = true) : isBlank c = false := by
  refine Bool.eq_false_iff.mpr fun hb => ?_
  simp only [isBlank, Bool.or_eq_true, beq_iff_eq] at hb
  obtain ((rfl | rfl) | rfl) | rfl := hb <;> revert h <;> decide

theorem reads_natural {n bound : Nat} (hn : n < bound) (hb : bound ≤ wordValues) :
    Reads (natural bound) [writeNat n] n := by
  obtain ⟨c, l, hw, hc⟩ := exists_writeNat_eq_cons n
  have he : c ≠ ']' := by
    rintro rfl
    exact absurd hc (by decide)
  rw [hw]
  refine reads_single (isBlank_of_isDigit hc) he fun s rest hs hr => ?_
  obtain ⟨k, hk, hv⟩ := number_writeNat (Nat.lt_of_lt_of_le hn hb) hr
  rw [hw, List.cons_append] at hk
  simp only [natural, hs, hc, or_true, if_true, hk, hv, if_pos hn]

theorem lt_of_natural {bound n : Nat} {s rest : List Char} (h : natural bound s = .ok (n, rest)) :
    n < bound := by
  unfold natural at h
  split at h
  · cases h
  · split at h
    · split at h
      · cases h
      · split at h
        · split at h
          · next hlt =>
            obtain ⟨rfl, -⟩ := Prod.mk.inj (Except.ok.inj h)
            exact hlt
          · cases h
        · cases h
    · cases h

def row : Bool → List Lexemes → Lexemes
  | _, [] => []
  | true, p :: ps => p ++ row false ps
  | false, p :: ps => [','] :: p ++ row false ps

theorem flatten_row (ps : List Lexemes) : (row true ps).flatten = separated (ps.map List.flatten) := by
  induction ps with
  | nil => rfl
  | cons p ps ih =>
    cases ps with
    | nil => simp [row, separated]
    | cons q ps =>
      rw [List.map_cons, List.map_cons, separated, ← List.map_cons, ← ih]
      · simp [row]
      · simp

def listOf (ps : List Lexemes) : Lexemes := ['['] :: row true ps ++ [[']']]

theorem flatten_listOf (ps : List Lexemes) :
    (listOf ps).flatten = '[' :: separated (ps.map List.flatten) ++ [']'] := by
  simp [listOf, flatten_row]

theorem flatten_listOf_singles (item : α → List Char) (as : List α) :
    (listOf (as.map fun a => [item a])).flatten = writeList item as := by
  rw [flatten_listOf, List.map_map, writeList]
  simp [Function.comp_def]

variable {p : Lexemes} {ps : List Lexemes} {first : Bool} {s : List Char} {e : Char}

theorem ends_row (he : goesOn e = false) (h : Spaced (row false ps ++ [[e]]) s) (rest : List Char) :
    Ends (s ++ rest) := by
  cases ps with
  | nil => exact h.ends he rest
  | cons p ps => exact h.ends (c := ',') (by decide) rest

theorem Spaced.row_cons (h : Spaced (row first (p :: ps) ++ ls) s) :
    first = true ∧ Spaced (p ++ (row false ps ++ ls)) s ∨
      first = false ∧ ∃ t, Spaced (p ++ (row false ps ++ ls)) t ∧
        ∀ rest, skipBlanks (s ++ rest) = ',' :: (t ++ rest) := by
  cases first with
  | true =>
    rw [row, List.append_assoc] at h
    exact .inl ⟨rfl, h⟩
  | false =>
    rw [row, List.append_assoc] at h
    cases h with
    | cons hb _ hs =>
      refine .inr ⟨rfl, _, hs, fun rest => ?_⟩
      rw [List.append_assoc, skipBlanks_append hb]
      exact skipBlanks_cons (by decide) _

theorem length_le_of_row (hp : ∀ p ∈ ps, Opens p)
    (h : Spaced (row first ps ++ ls) s) : ps.length ≤ s.length := by
  induction ps generalizing first s with
  | nil => exact Nat.zero_le _
  | cons p ps ih =>
    -- behind its comma, if there is one, the part takes a character, and the others stand behind it
    have hpart {t : List Char} (ht : Spaced (p ++ (row false ps ++ ls)) t) :
        ps.length < t.length := by
      obtain ⟨c, l, ls', rfl, -⟩ := hp p List.mem_cons_self
      obtain ⟨u, v, rfl, hu, hv⟩ := ht.exists_append
      cases hu with
      | cons hb _ hs =>
        have hl := ih (fun q hq => hp q (List.mem_cons_of_mem _ hq)) hv
        simp only [List.length_append, List.length_cons]
        omega
    obtain ⟨-, hs⟩ | ⟨-, t, hs, ht⟩ := h.row_cons
    · exact hpart hs
    · have hle := (List.dropWhile_suffix isBlank (l := s ++ [])).length_le
      have hl : (skipBlanks (s ++ [])).length = t.length + 1 := by rw [ht, List.append_nil]; rfl
      rw [skipBlanks] at hl
      rw [List.append_nil] at hle hl
      have := hpart hs
      simp only [List.length_cons]
      omega

theorem nextElement_row {c : Char} {l : List Char}
    (h : Spaced (row first (((c :: l) :: p) :: ps) ++ [[']']]) s) (hb : isBlank c = false)
    (hc : c ≠ ']') (rest : List Char) :
    ∃ t, nextElement first (s ++ rest) = .ok (some (t ++ rest)) ∧
      Spaced (((c :: l) :: p) ++ (row false ps ++ [[']']])) t := by
  obtain ⟨rfl, hs⟩ | ⟨rfl, t, hs, ht⟩ := h.row_cons
  · obtain ⟨u, hu, he⟩ := hs.skipBlanks_eq hb rest
    refine ⟨c :: (l ++ u), ?_, .cons (b := []) (List.forall_mem_nil _) (c :: l) hu⟩
    simp only [nextElement, he, if_neg hc, if_true, List.cons_append, List.append_assoc]
  · obtain ⟨u, hu, he⟩ := hs.skipBlanks_eq hb rest
    refine ⟨c :: (l ++ u), ?_, .cons (b := []) (List.forall_mem_nil _) (c :: l) hu⟩
    simp [nextElement, ht, he, if_neg hc]

theorem nextElement_end (first : Bool) (h : Spaced [[']']] s) (rest : List Char) :
    nextElement first (s ++ rest) = .ok none ∧ endList (s ++ rest) = .ok rest := by
  obtain ⟨t, ht, he⟩ := h.skipBlanks_eq (by decide) rest
  cases ht
  simp [nextElement, endList, he]

theorem elements_row {item : List Char → Reading α} {as : List α} {fuel : Nat}
    (hp : List.Forall₂ (Reads item) ps as) (h : Spaced (row first ps ++ [[']']]) s)
    (hf : ps.length < fuel) (rest : List Char) :
    elements item fuel first (s ++ rest) = .ok (as, rest) := by
  induction hp generalizing first s fuel with
  | nil =>
    obtain ⟨fuel, rfl⟩ := Nat.exists_eq_succ_of_ne_zero (Nat.ne_of_gt hf)
    obtain ⟨hn, he⟩ := nextElement_end first h rest
    simp only [elements, hn, he, Except.map]
  | @cons p a ps as hr _ ih =>
    obtain ⟨fuel, rfl⟩ := Nat.exists_eq_succ_of_ne_zero (Nat.ne_zero_of_lt hf)
    obtain ⟨c, l, ls, rfl, hb, hc⟩ := hr.opens
    obtain ⟨t, hn, ht⟩ := nextElement_row h hb hc rest
    obtain ⟨u, v, rfl, hu, hv⟩ := ht.exists_append
    have hi := hr.read u hu (v ++ rest) (ends_row (by decide) hv rest)
    have hl := ih hv (Nat.lt_of_succ_lt_succ hf)
    rw [List.append_assoc] at hn
    simp only [elements, hn, hi, hl, Except.map]

theorem reads_list {item : List Char → Reading α} {as : List α}
    (hp : List.Forall₂ (Reads item) ps as) : Reads (list item) (listOf ps) as where
  opens := ⟨'[', [], _, rfl, by decide, by decide⟩
  read s hs rest _ := by
    obtain ⟨t, ht, he⟩ := hs.skipBlanks_eq (c := '[') (by decide) rest
    have ho : ∀ p ∈ ps, Opens p :=
      ((List.forall₂_and_left ps as).mp (hp.imp fun p a h => ⟨h.opens, h⟩)).1
    have hl := length_le_of_row ho ht
    simp only [list, he, List.nil_append]
    refine elements_row hp ht ?_ rest
    rw [List.length_append]
    omega

end CommentBlocks.Json
