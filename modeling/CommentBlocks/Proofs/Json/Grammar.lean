import CommentBlocks.Proofs.Json.Record

namespace CommentBlocks.Json

def quoted (k : List Char) : List Char := '"' :: (k ++ ['"'])

inductive Code : List Char → Nat → Prop
  | digits {a b c d : Char} {w x y z : Nat} (ha : hexDigit? a = some w) (hb : hexDigit? b = some x)
      (hc : hexDigit? c = some y) (hd : hexDigit? d = some z) :
      Code [a, b, c, d] (w * 4096 + x * 256 + y * 16 + z)

inductive IsContent : List Char → Prop
  | nil : IsContent []
  | plain {c : Char} {s : List Char} (hq : c ≠ '"') (hb : c ≠ '\\') (hc : ¬ c.toNat < 0x20)
      (h : IsContent s) : IsContent (c :: s)
  | short {e : Char} {s : List Char} (he : (shortEscape? e).isSome = true) (h : IsContent s) :
      IsContent ('\\' :: e :: s)
  | code {ds s : List Char} {n : Nat} (hd : Code ds n) (h : IsContent s) :
      IsContent ('\\' :: 'u' :: (ds ++ s))

/-- The content of a string that stands for a text: surrogates come in pairs. -/
inductive Spells : List Char → List Char → Prop
  | nil : Spells [] []
  | plain {c : Char} {s t : List Char} (hq : c ≠ '"') (hb : c ≠ '\\') (hc : ¬ c.toNat < 0x20)
      (h : Spells s t) : Spells (c :: s) (c :: t)
  | short {e c : Char} {s t : List Char} (he : shortEscape? e = some c) (h : Spells s t) :
      Spells ('\\' :: e :: s) (c :: t)
  | code {ds s t : List Char} {n : Nat} (hd : Code ds n) (hl : isLowSurrogate n = false)
      (hh : isHighSurrogate n = false) (h : Spells s t) :
      Spells ('\\' :: 'u' :: (ds ++ s)) (Char.ofNat n :: t)
  | pair {ds es s t : List Char} {high low : Nat} (hd : Code ds high)
      (hh : isHighSurrogate high = true) (he : Code es low) (hl : isLowSurrogate low = true)
      (h : Spells s t) :
      Spells ('\\' :: 'u' :: (ds ++ '\\' :: 'u' :: (es ++ s)))
        (Char.ofNat ((high - 0xD800) * 0x400 + (low - 0xDC00) + 0x10000) :: t)

theorem Spells.self {t : List Char}
    (h : t.all (fun c => c != '"' && c != '\\' && !decide (c.toNat < 0x20)) = true) : Spells t t := by
  induction t with
  | nil => exact .nil
  | cons c t ih =>
    simp only [List.all_cons, Bool.and_eq_true, bne_iff_ne, Bool.not_eq_true',
      decide_eq_false_iff_not] at h
    obtain ⟨⟨⟨hq, hb⟩, hc⟩, ht⟩ := h
    exact .plain hq hb hc (ih ht)

theorem Spells.isContent {k t : List Char} (h : Spells k t) : IsContent k := by
  induction h with
  | nil => exact .nil
  | plain hq hb hc _ ih => exact .plain hq hb hc ih
  | short he _ ih => exact .short (by rw [he]; rfl) ih
  | code hd _ _ _ ih => exact .code hd ih
  | pair hd _ he _ _ ih => exact .code hd (.code he ih)

theorem Code.hexCode_append {ds : List Char} {n : Nat} (h : Code ds n) (s : List Char) :
    hexCode (ds ++ s) = .ok (n, s) := by
  cases h with
  | digits ha hb hc hd => exact hexCode_cons ha hb hc hd s

theorem ne_of_shortEscape? {e : Char} (h : (shortEscape? e).isSome = true) : e ≠ 'u' := by
  rintro rfl
  simp [shortEscape?] at h

theorem escape_short {e c : Char} (h : shortEscape? e = some c) (s : List Char) :
    escape (e :: s) = .ok (c, s) := by
  have hu : e ≠ 'u' := ne_of_shortEscape? (by simp [h])
  unfold escape
  split
  · next he => cases he
  · next he => exact absurd (List.cons.inj he).1 hu
  · next he =>
    obtain ⟨rfl, rfl⟩ := List.cons.inj he
    rw [h]

theorem skipEscape_short {e : Char} (h : (shortEscape? e).isSome = true) (s : List Char) :
    skipEscape (e :: s) = .ok s := by
  have hu := ne_of_shortEscape? h
  unfold skipEscape
  split
  · next he => cases he
  · next he => exact absurd (List.cons.inj he).1 hu
  · next he =>
    obtain ⟨rfl, rfl⟩ := List.cons.inj he
    rw [if_pos h]

theorem escape_code {ds : List Char} {n : Nat} (hd : Code ds n) (hl : isLowSurrogate n = false)
    (hh : isHighSurrogate n = false) (s : List Char) :
    escape ('u' :: (ds ++ s)) = .ok (Char.ofNat n, s) := by
  simp [escape, hd.hexCode_append s, hl, hh]

theorem isLowSurrogate_of_high {n : Nat} (h : isHighSurrogate n = true) :
    isLowSurrogate n = false := by
  simp only [isHighSurrogate, isLowSurrogate, Bool.and_eq_true, decide_eq_true_eq,
    Bool.and_eq_false_iff, decide_eq_false_iff_not] at h ⊢
  omega

theorem escape_pair {ds es : List Char} {high low : Nat} (hd : Code ds high)
    (hh : isHighSurrogate high = true) (he : Code es low) (hl : isLowSurrogate low = true)
    (s : List Char) :
    escape ('u' :: (ds ++ '\\' :: 'u' :: (es ++ s))) =
      .ok (Char.ofNat ((high - 0xD800) * 0x400 + (low - 0xDC00) + 0x10000), s) := by
  simp [escape, hd.hexCode_append, isLowSurrogate_of_high hh, hh, lowSurrogate,
    he.hexCode_append, hl]

theorem Spells.chars_append {k t : List Char} (h : Spells k t) (rest : List Char) :
    chars (k ++ '"' :: rest) = .ok (t, rest) := by
  induction h with
  | nil => exact chars_quote rest
  | plain hq hb hc _ ih => rw [List.cons_append, chars_plain hq hb hc, ih]; rfl
  | short he _ ih =>
    rw [List.cons_append, List.cons_append, chars_escape (escape_short he _), ih]
    rfl
  | code hd hl hh _ ih =>
    rw [List.cons_append, List.cons_append, List.append_assoc,
      chars_escape (escape_code hd hl hh _), ih]
    rfl
  | pair hd hh he hl _ ih =>
    rw [List.cons_append, List.cons_append, List.append_assoc, List.cons_append, List.cons_append,
      List.append_assoc, chars_escape (escape_pair hd hh he hl _), ih]
    rfl

theorem skipChars_escape {s rest : List Char} (h : skipEscape s = .ok rest) :
    skipChars ('\\' :: s) = skipChars rest := by
  rw [skipChars, if_neg (by decide), if_pos rfl]
  split
  · next he => simp [h] at he
  · next he => rw [Except.ok.inj (h.symm.trans he)]

theorem IsContent.skipChars_append {k : List Char} (h : IsContent k) (rest : List Char) :
    skipChars (k ++ '"' :: rest) = .ok rest := by
  induction h with
  | nil => rw [List.nil_append, skipChars, if_pos rfl]
  | plain hq hb hc _ ih => rw [List.cons_append, skipChars, if_neg hq, if_neg hb, if_neg hc, ih]
  | short he _ ih =>
    rw [List.cons_append, List.cons_append, skipChars_escape (skipEscape_short he _), ih]
  | @code ds s n hd _ ih =>
    have he : skipEscape ('u' :: (ds ++ (s ++ '"' :: rest))) = .ok (s ++ '"' :: rest) := by
      simp [skipEscape, hd.hexCode_append, Except.map]
    rw [List.cons_append, List.cons_append, List.append_assoc, skipChars_escape he, ih]

structure IsDigits (ds : List Char) : Prop where
  digit : ∀ c ∈ ds, c.isDigit = true
  nonempty : ds ≠ []

inductive IsFraction : List Char → Prop
  | none : IsFraction []
  | some {ds : List Char} (h : IsDigits ds) : IsFraction ('.' :: ds)

inductive IsExponent : List Char → Prop
  | none : IsExponent []
  | some {e : Char} {sign ds : List Char} (he : e = 'e' ∨ e = 'E')
      (hs : sign = [] ∨ sign = ['+'] ∨ sign = ['-']) (hd : IsDigits ds) :
      IsExponent (e :: (sign ++ ds))

inductive IsNumber : List Char → Prop
  | parts {sign whole fraction exponent : List Char} (hs : sign = [] ∨ sign = ['-'])
      (hw : IsWhole whole) (hf : IsFraction fraction) (he : IsExponent exponent) :
      IsNumber (sign ++ (whole ++ (fraction ++ exponent)))

section Number

variable {l rest : List Char} {atEnd : Fault}

theorem IsDigits.digits_append (h : IsDigits l) (hr : NoDigit rest) :
    digits atEnd (l ++ rest) = .ok (l, rest) := Json.digits_append h.digit h.nonempty hr

theorem IsExponent.noDigit_append (h : IsExponent l) (hr : Ends rest) : NoDigit (l ++ rest) := by
  cases h with
  | none => exact hr.noDigit
  | some he _ _ => exact noDigit_cons (by obtain rfl | rfl := he <;> rfl) _

theorem IsDigits.exists_cons (h : IsDigits l) : ∃ c cs, l = c :: cs ∧ c.isDigit = true := by
  obtain ⟨c, cs, rfl⟩ := List.exists_cons_of_ne_nil h.nonempty
  exact ⟨c, cs, rfl, h.digit c List.mem_cons_self⟩

theorem ne_sign_of_isDigit {c : Char} (h : c.isDigit = true) : c ≠ '+' ∧ c ≠ '-' := by
  constructor <;> rintro rfl <;> exact absurd h (by decide)

theorem IsExponent.exponentPart_append (h : IsExponent l) (hr : Ends rest) :
    ∃ e, exponentPart atEnd (l ++ rest) = .ok (e, rest) := by
  cases h with
  | none => exact ⟨_, exponentPart_ends hr⟩
  | @some e sign ds he hs hd =>
    have hds : digits atEnd (ds ++ rest) = .ok (ds, rest) := hd.digits_append hr.noDigit
    obtain rfl | rfl | rfl := hs
    · obtain ⟨c, cs, rfl, hc⟩ := hd.exists_cons
      obtain ⟨hplus, hminus⟩ := ne_sign_of_isDigit hc
      refine ⟨Option.some (false, c :: cs), ?_⟩
      rw [List.cons_append] at hds
      rw [List.nil_append, List.cons_append, List.cons_append, exponentPart, if_pos he, hds]
      · rfl
      · exact fun s hm => hplus (List.cons.inj hm).1
      · exact fun s hm => hminus (List.cons.inj hm).1
    · refine ⟨Option.some (false, ds), ?_⟩
      simp only [exponentPart, List.cons_append, List.nil_append, if_pos he, hds, Except.map]
    · refine ⟨Option.some (true, ds), ?_⟩
      simp only [exponentPart, List.cons_append, List.nil_append, if_pos he, hds, Except.map]

theorem IsFraction.noDigit_append (h : IsFraction l) (hr : NoDigit rest) : NoDigit (l ++ rest) := by
  cases h with
  | none => exact hr
  | some _ => exact noDigit_cons rfl _

theorem IsFraction.fractionPart_append (h : IsFraction l) (hr : NoDigit rest)
    (hp : ∀ c ∈ rest.head?, c ≠ '.') : ∃ f, fractionPart atEnd (l ++ rest) = .ok (f, rest) := by
  cases h with
  | none =>
    refine ⟨Option.none, ?_⟩
    unfold fractionPart
    split
    · next he => exact absurd rfl (hp '.' (by rw [List.nil_append] at he; rw [he]; rfl))
    · rfl
  | @some ds hd =>
    refine ⟨Option.some ds, ?_⟩
    simp only [fractionPart, List.cons_append, hd.digits_append hr, Except.map]

theorem IsExponent.ne_point (h : IsExponent l) (hr : Ends rest) :
    ∀ c ∈ (l ++ rest).head?, c ≠ '.' := by
  cases h with
  | none =>
    rintro c hc rfl
    exact absurd (hr '.' hc) (by decide)
  | some he _ _ =>
    rintro c ⟨⟩
    obtain rfl | rfl := he <;> decide

theorem IsWhole.isDigits (h : IsWhole l) : IsDigits l := ⟨h.digit, h.nonempty⟩

theorem IsNumber.numeral_append (h : IsNumber l) (hr : Ends rest) :
    ∃ n, numeral atEnd (l ++ rest) = .ok (n, rest) := by
  cases h with
  | @parts sign whole fraction exponent hs hw hf he =>
    have hnd := he.noDigit_append hr
    have hwhole : wholeDigits atEnd (whole ++ (fraction ++ (exponent ++ rest))) = .ok (whole, _) :=
      wholeDigits_append hw (hf.noDigit_append hnd)
    obtain ⟨f, hfrac⟩ : ∃ f, fractionPart atEnd (fraction ++ (exponent ++ rest)) = .ok (f, _) :=
      hf.fractionPart_append hnd (he.ne_point hr)
    obtain ⟨e, hexp⟩ : ∃ e, exponentPart atEnd (exponent ++ rest) = .ok (e, rest) :=
      he.exponentPart_append hr
    obtain rfl | rfl := hs
    · refine ⟨⟨false, whole, f, e⟩, ?_⟩
      -- the first digit is not taken for a sign
      obtain ⟨c, cs, rfl, hc⟩ := hw.isDigits.exists_cons
      have hminus := (ne_sign_of_isDigit hc).2
      rw [List.nil_append, List.append_assoc, List.append_assoc]
      unfold numeral
      split
      next hm =>
        split at hm
        · next hn => exact absurd (List.cons.inj hn).1 hminus
        · obtain ⟨rfl, rfl⟩ := Prod.mk.inj hm
          simp only [hwhole, hfrac, hexp, bind, Except.bind, pure, Except.pure]
    · refine ⟨⟨true, whole, f, e⟩, ?_⟩
      rw [List.append_assoc, List.append_assoc, List.append_assoc, List.singleton_append]
      simp only [numeral, hwhole, hfrac, hexp, bind, Except.bind, pure, Except.pure]

end Number

def entry (k : List Char) (ls : Lexemes) : Lexemes := quoted k :: [':'] :: ls

inductive IsValue : Lexemes → Prop
  | null : IsValue ["null".toList]
  | bool (b : Bool) : IsValue [writeBool b]
  | number {l : List Char} (h : IsNumber l) : IsValue [l]
  | string {k : List Char} (h : IsContent k) : IsValue [quoted k]
  | list {ps : List Lexemes} (h : ∀ p ∈ ps, IsValue p) : IsValue (listOf ps)
  | object {ms : List (List Char × Lexemes)} (hk : ∀ m ∈ ms, IsContent m.1)
      (hv : ∀ m ∈ ms, IsValue m.2) :
      IsValue (objectOf (ms.map fun m => entry m.1 m.2))

/-- The lexemes are passed over as a value, in two steps at most for each of them: one for a value,
and one for the list or object that it stands in. -/
structure Passes (ls : Lexemes) : Prop where
  opens : Opens ls
  nonempty : ∀ l ∈ ls, l ≠ []
  pass : ∀ s, Spaced ls s → ∀ rest, Ends rest → ∀ fuel, 2 * ls.length ≤ fuel →
    skipValue fuel (s ++ rest) = .ok rest

theorem passes_single {c : Char} {l : List Char} (hb : isBlank c = false) (hc : c ≠ ']')
    (h : ∀ fuel s rest, skipBlanks s = c :: (l ++ rest) → Ends rest →
      skipValue (fuel + 1) s = .ok rest) : Passes [c :: l] where
  opens := ⟨c, l, [], rfl, hb, hc⟩
  nonempty := by simp
  pass s hs rest hr fuel hf := by
    obtain ⟨t, ht, he⟩ := hs.skipBlanks_eq hb rest
    cases ht
    obtain ⟨fuel, rfl⟩ := Nat.exists_eq_succ_of_ne_zero (Nat.ne_zero_of_lt hf)
    exact h fuel _ rest he hr

theorem passes_null : Passes ["null".toList] :=
  passes_single (c := 'n') (by decide) (by decide) fun fuel s rest hs _ => by
    simp only [skipValue, hs]
    rfl

theorem passes_bool (b : Bool) : Passes [writeBool b] := by
  cases b with
  | false =>
    refine passes_single (c := 'f') (by decide) (by decide) fun fuel s rest hs _ => ?_
    simp only [skipValue, hs]
    rfl
  | true =>
    refine passes_single (c := 't') (by decide) (by decide) fun fuel s rest hs _ => ?_
    simp only [skipValue, hs]
    rfl

theorem passes_string {k : List Char} (h : IsContent k) : Passes [quoted k] := by
  refine passes_single (l := k ++ ['"']) (by decide) (by decide) fun fuel s rest hs _ => ?_
  rw [List.append_assoc, List.singleton_append] at hs
  simp [skipValue, hs, h.skipChars_append rest]

theorem IsNumber.exists_cons {l : List Char} (h : IsNumber l) :
    ∃ c cs, l = c :: cs ∧ (c = '-' ∨ c.isDigit = true) := by
  cases h with
  | parts hs hw _ _ =>
    obtain rfl | rfl := hs
    · obtain ⟨c, cs, rfl, hc⟩ := hw.isDigits.exists_cons
      exact ⟨c, _, rfl, .inr hc⟩
    · exact ⟨'-', _, rfl, .inl rfl⟩

theorem passes_number {l : List Char} (h : IsNumber l) : Passes [l] := by
  obtain ⟨c, cs, rfl, hc⟩ := h.exists_cons
  have hb : isBlank c = false ∧ c ≠ ']' ∧ c ≠ 'n' ∧ c ≠ 't' ∧ c ≠ 'f' := by
    obtain rfl | hd := hc
    · decide
    · refine ⟨isBlank_of_isDigit hd, ?_, ?_, ?_, ?_⟩ <;> rintro rfl <;> exact absurd hd (by decide)
  obtain ⟨hblank, hclose, hn, ht, hf⟩ := hb
  refine passes_single hblank hclose fun fuel s rest hs hr => ?_
  obtain ⟨n, he⟩ : ∃ n, numeral .malformed (c :: (cs ++ rest)) = .ok (n, rest) :=
    h.numeral_append hr
  simp only [skipValue, hs, if_neg hn, if_neg ht, if_neg hf, if_pos hc, he, Except.map]

section Row

variable {p : Lexemes} {ps : List Lexemes} {first : Bool} {s : List Char} {fuel : Nat}

theorem Opens.length_pos (h : Opens p) : 0 < p.length := by
  obtain ⟨c, l, ls, rfl, -⟩ := h
  exact Nat.succ_pos _

theorem length_row_cons (first : Bool) (p : Lexemes) (ps : List Lexemes) :
    p.length + (row false ps).length ≤ (row first (p :: ps)).length := by
  cases first <;> simp [row]

theorem nonempty_row (hp : ∀ p ∈ ps, ∀ l ∈ p, l ≠ []) : ∀ l ∈ row first ps, l ≠ [] := by
  induction ps generalizing first with
  | nil => cases first <;> exact List.forall_mem_nil _
  | cons p ps ih =>
    obtain ⟨hfirst, hrest⟩ := List.forall_mem_cons.mp hp
    have htail : ∀ l ∈ p ++ row false ps, l ≠ [] :=
      List.forall_mem_append.mpr ⟨hfirst, ih hrest⟩
    cases first with
    | true => exact htail
    | false => exact List.forall_mem_cons.mpr ⟨by decide, htail⟩

theorem skipElements_row (hp : ∀ p ∈ ps, Passes p) (h : Spaced (row first ps ++ [[']']]) s)
    (hf : 2 * (row first ps).length + 1 ≤ fuel) (rest : List Char) :
    skipElements fuel first (s ++ rest) = .ok rest := by
  induction ps generalizing first s fuel with
  | nil =>
    obtain ⟨fuel, rfl⟩ := Nat.exists_eq_succ_of_ne_zero (Nat.ne_zero_of_lt hf)
    obtain ⟨hn, he⟩ := nextElement_end first h rest
    simp only [skipElements, hn, he]
  | cons p ps ih =>
    obtain ⟨hpass, hps⟩ := List.forall_mem_cons.mp hp
    obtain ⟨fuel, rfl⟩ := Nat.exists_eq_succ_of_ne_zero (Nat.ne_zero_of_lt hf)
    have hlen := length_row_cons first p ps
    have hpos := hpass.opens.length_pos
    obtain ⟨c, l, ls, rfl, hb, hc⟩ := hpass.opens
    obtain ⟨t, hn, ht⟩ := nextElement_row h hb hc rest
    obtain ⟨u, v, rfl, hu, hv⟩ := ht.exists_append
    have hskip := hpass.pass u hu (v ++ rest) (ends_row (by decide) hv rest) fuel (by omega)
    have hnext : skipElements fuel false (v ++ rest) = .ok rest := ih hps hv (by omega)
    rw [List.append_assoc] at hn
    simp only [skipElements, hn, hskip, hnext]

theorem colon_spaced {ls : Lexemes} (h : Spaced ([':'] :: ls) s) (rest : List Char) :
    ∃ t, colon (s ++ rest) = .ok (t ++ rest) ∧ Spaced ls t := by
  obtain ⟨t, ht, he⟩ := h.skipBlanks_eq (c := ':') (by decide) rest
  exact ⟨t, by simp [colon, he], ht⟩

theorem skipMembers_row {ms : List (List Char × Lexemes)} (hk : ∀ m ∈ ms, IsContent m.1)
    (hp : ∀ m ∈ ms, Passes m.2)
    (h : Spaced (row first (ms.map fun m => entry m.1 m.2) ++ [['\x7d']]) s)
    (hf : 2 * (row first (ms.map fun m => entry m.1 m.2)).length + 1 ≤ fuel) (rest : List Char) :
    skipMembers fuel first (s ++ rest) = .ok rest := by
  induction ms generalizing first s fuel with
  | nil =>
    obtain ⟨fuel, rfl⟩ := Nat.exists_eq_succ_of_ne_zero (Nat.ne_zero_of_lt hf)
    obtain ⟨hn, he⟩ := nextKey_end first h rest
    simp only [skipMembers, hn, he]
  | cons m ms ih =>
    obtain ⟨hcontent, hks⟩ := List.forall_mem_cons.mp hk
    obtain ⟨hpass, hps⟩ := List.forall_mem_cons.mp hp
    obtain ⟨fuel, rfl⟩ := Nat.exists_eq_succ_of_ne_zero (Nat.ne_zero_of_lt hf)
    rw [List.map_cons] at h hf
    have hlen := length_row_cons first (entry m.1 m.2) (ms.map fun m => entry m.1 m.2)
    have hentry : (entry m.1 m.2).length = m.2.length + 2 := rfl
    obtain ⟨t, hn, ht⟩ := nextKey_row h rest
    obtain ⟨u, hcolon, hu⟩ := colon_spaced ht rest
    obtain ⟨v, w, rfl, hv, hw⟩ := hu.exists_append
    have hkey : skipChars (m.1 ++ ['"'] ++ (t ++ rest)) = .ok (t ++ rest) := by
      rw [List.append_assoc]
      exact hcontent.skipChars_append (t ++ rest)
    have hskip := hpass.pass v hv (w ++ rest) (ends_row (by decide) hw rest) fuel (by omega)
    have hnext : skipMembers fuel false (w ++ rest) = .ok rest := ih hks hps hw (by omega)
    rw [List.append_assoc] at hcolon
    simp only [skipMembers, hn, hkey, Except.bind, hcolon, hskip, hnext]

theorem nonempty_brackets {a b : Char} (hp : ∀ p ∈ ps, ∀ l ∈ p, l ≠ []) :
    ∀ l ∈ [a] :: row true ps ++ [[b]], l ≠ [] := by
  refine List.forall_mem_append.mpr ⟨List.forall_mem_cons.mpr ⟨by simp, nonempty_row hp⟩, ?_⟩
  simp

theorem passes_list (hp : ∀ p ∈ ps, Passes p) : Passes (listOf ps) where
  opens := ⟨'[', [], _, rfl, by decide, by decide⟩
  nonempty := nonempty_brackets fun p hm => (hp p hm).nonempty
  pass s hs rest _ fuel hf := by
    obtain ⟨t, ht, he⟩ := hs.skipBlanks_eq (c := '[') (by decide) rest
    have hl : (listOf ps).length = (row true ps).length + 2 := by simp [listOf]
    obtain ⟨fuel, rfl⟩ := Nat.exists_eq_succ_of_ne_zero (n := fuel) (by omega)
    have hskip : skipElements fuel true (t ++ rest) = .ok rest :=
      skipElements_row hp ht (by omega) rest
    simp [skipValue, he, hskip]

theorem passes_object {ms : List (List Char × Lexemes)} (hk : ∀ m ∈ ms, IsContent m.1)
    (hp : ∀ m ∈ ms, Passes m.2) : Passes (objectOf (ms.map fun m => entry m.1 m.2)) where
  opens := ⟨'\x7b', [], _, rfl, by decide, by decide⟩
  nonempty := by
    refine nonempty_brackets (List.forall_mem_map.mpr fun m hm => ?_)
    refine List.forall_mem_cons.mpr ⟨by simp [quoted], List.forall_mem_cons.mpr ⟨by decide, ?_⟩⟩
    exact (hp m hm).nonempty
  pass s hs rest _ fuel hf := by
    obtain ⟨t, ht, he⟩ := hs.skipBlanks_eq (c := '\x7b') (by decide) rest
    have hl : (objectOf (ms.map fun m => entry m.1 m.2)).length =
        (row true (ms.map fun m => entry m.1 m.2)).length + 2 := by simp [objectOf]
    obtain ⟨fuel, rfl⟩ := Nat.exists_eq_succ_of_ne_zero (n := fuel) (by omega)
    have hskip : skipMembers fuel true (t ++ rest) = .ok rest :=
      skipMembers_row hk hp ht (by omega) rest
    simp [skipValue, he, hskip]

end Row

theorem IsValue.passes {ls : Lexemes} (h : IsValue ls) : Passes ls := by
  induction h with
  | null => exact passes_null
  | bool b => exact passes_bool b
  | number h => exact passes_number h
  | string h => exact passes_string h
  | list _ ih => exact passes_list ih
  | object hk _ ih => exact passes_object hk ih

theorem length_le_of_spaced {ls : Lexemes} {s : List Char} (hn : ∀ l ∈ ls, l ≠ [])
    (h : Spaced ls s) : ls.length ≤ s.length := by
  induction h with
  | nil => exact Nat.le_refl _
  | cons hb l _ ih =>
    obtain ⟨hl, hls⟩ := List.forall_mem_cons.mp hn
    have hpos := List.length_pos_iff.mpr hl
    have := ih hls
    simp only [List.length_append, List.length_cons]
    omega

/-- A value is passed over as a whole, however deep it is. -/
theorem IsValue.skip_append {ls : Lexemes} {s rest : List Char} (h : IsValue ls) (hs : Spaced ls s)
    (hr : Ends rest) : skip (s ++ rest) = .ok rest := by
  have hl := length_le_of_spaced h.passes.nonempty hs
  refine h.passes.pass s hs rest hr _ ?_
  rw [List.length_append]
  omega

end CommentBlocks.Json
