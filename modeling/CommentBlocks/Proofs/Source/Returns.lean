import CommentBlocks.Proofs.Source.Quoted
import Mathlib.Data.List.Find

namespace CommentBlocks

open Bytes

/-- The bytes with a carriage return in front of every newline. -/
def withReturns : Bytes → Bytes
  | [] => []
  | b :: rest =>
    if b = newline then carriageReturn :: newline :: withReturns rest else b :: withReturns rest

def withoutReturns (b : Bytes) : Bytes := b.filter (· != carriageReturn)

def Unbroken (b : Bytes) : Prop := newline ∉ b ∧ carriageReturn ∉ b

instance : DecidablePred Unbroken := fun b =>
  inferInstanceAs (Decidable (newline ∉ b ∧ carriageReturn ∉ b))

def Rule.Unbroken : Rule → Prop
  | quoted delimiter escape =>
    CommentBlocks.Unbroken delimiter ∧ escape ≠ some '\n' ∧ escape ≠ some '\r'
  | character quote escape => CommentBlocks.Unbroken quote ∧ escape ≠ some '\n' ∧ escape ≠ some '\r'
  | line opener => CommentBlocks.Unbroken opener
  | block opener closer => CommentBlocks.Unbroken opener ∧ CommentBlocks.Unbroken closer

section bytes

variable {mark data rest body : Bytes} {b : UInt8}

theorem withReturns_newline (rest : Bytes) :
    withReturns (newline :: rest) = carriageReturn :: newline :: withReturns rest := if_pos rfl

theorem withReturns_cons (h : b ≠ newline) (rest : Bytes) :
    withReturns (b :: rest) = b :: withReturns rest := if_neg h

theorem withReturns_append (b c : Bytes) : withReturns (b ++ c) = withReturns b ++ withReturns c := by
  induction b with
  | nil => rfl
  | cons x b ih =>
    by_cases hx : x = newline
    · subst hx
      simp only [List.cons_append, withReturns_newline, ih]
    · simp only [List.cons_append, withReturns_cons hx, ih]

theorem withReturns_of_notMem (h : newline ∉ body) : withReturns body = body := by
  induction body with
  | nil => rfl
  | cons b body ih =>
    obtain ⟨hb, hbody⟩ := not_or.mp fun hm => h (List.mem_cons.mpr hm)
    rw [withReturns_cons (Ne.symm hb), ih hbody]

theorem withReturns_eq_nil_iff : withReturns data = [] ↔ data = [] := by
  cases data with
  | nil => simp [withReturns]
  | cons b rest => by_cases hb : b = newline <;> simp [withReturns, hb]

theorem withoutReturns_append (b c : Bytes) :
    withoutReturns (b ++ c) = withoutReturns b ++ withoutReturns c := List.filter_append _ _

theorem withoutReturns_of_notMem (h : carriageReturn ∉ body) : withoutReturns body = body :=
  List.filter_eq_self.mpr fun b hb => by simpa using fun hn : b = carriageReturn => h (hn ▸ hb)

theorem withoutReturns_withReturns (h : carriageReturn ∉ body) :
    withoutReturns (withReturns body) = body := by
  induction body with
  | nil => rfl
  | cons b body ih =>
    obtain ⟨hb, hbody⟩ := not_or.mp fun hm => h (List.mem_cons.mpr hm)
    by_cases hn : b = newline
    · subst hn
      rw [withReturns_newline]
      exact congrArg (newline :: ·) (ih hbody)
    · rw [withReturns_cons hn, withoutReturns, List.filter_cons_of_pos (by simpa using Ne.symm hb)]
      exact congrArg (b :: ·) (ih hbody)

theorem newlines_withoutReturns (b : Bytes) : newlines (withoutReturns b) = newlines b :=
  List.count_filter (by decide)

theorem carriageReturn_ne_newline : carriageReturn ≠ newline := by decide

theorem lineOf_carriageReturn : lineOf carriageReturn = 0 := rfl

theorem Unbroken.not_isPrefix (h : Unbroken mark) (hm : mark ≠ [])
    (hb : b = newline ∨ b = carriageReturn) (rest : Bytes) : ¬ mark <+: b :: rest := by
  refine not_isPrefix_cons hm (fun hd => ?_) rest
  have hmem := List.mem_of_head? hd
  obtain rfl | rfl := hb
  · exact h.1 hmem
  · exact h.2 hmem

theorem Unbroken.isPrefix_withReturns (h : Unbroken mark) :
    mark <+: withReturns data ↔ mark <+: data := by
  induction mark generalizing data with
  | nil => simp
  | cons m mark ih =>
    obtain ⟨hn, hr⟩ := h
    obtain ⟨hnm, hn⟩ := not_or.mp fun hm => hn (List.mem_cons.mpr hm)
    obtain ⟨hrm, hr⟩ := not_or.mp fun hm => hr (List.mem_cons.mpr hm)
    cases data with
    | nil => simp [withReturns]
    | cons b rest =>
      by_cases hb : b = newline
      · subst hb
        simp [withReturns_newline, List.cons_prefix_cons, Ne.symm hnm, Ne.symm hrm]
      · rw [withReturns_cons hb, List.cons_prefix_cons, List.cons_prefix_cons, ih ⟨hn, hr⟩]

theorem Unbroken.isPrefixOf_withReturns (h : Unbroken mark) (data : Bytes) :
    mark.isPrefixOf (withReturns data) = mark.isPrefixOf data := by
  rw [Bool.eq_iff_iff, List.isPrefixOf_iff_prefix, List.isPrefixOf_iff_prefix,
    h.isPrefix_withReturns]

theorem Unbroken.drop_withReturns (h : Unbroken mark) (hp : mark <+: data) :
    (withReturns data).drop mark.length = withReturns (data.drop mark.length) := by
  obtain ⟨rest, rfl⟩ := hp
  rw [withReturns_append, withReturns_of_notMem h.1, List.drop_left, List.drop_left]

theorem take_withReturns {n : Nat} (h : newline ∉ data.take n) :
    (withReturns data).take n = data.take n ∧
      (withReturns data).drop n = withReturns (data.drop n) := by
  have hd : withReturns data = data.take n ++ withReturns (data.drop n) := by
    rw [← withReturns_of_notMem h, ← withReturns_append, List.take_append_drop]
  obtain hl | hl := Nat.le_total n data.length
  · have hn : (data.take n).length = n := List.length_take_of_le hl
    rw [hd, List.take_left' hn, List.drop_left' hn]
    exact ⟨rfl, rfl⟩
  · rw [List.drop_eq_nil_of_le hl, List.take_of_length_le hl] at hd
    have hd : withReturns data = data := hd.trans (List.append_nil _)
    rw [hd, List.drop_eq_nil_of_le hl]
    exact ⟨rfl, rfl⟩

end bytes

section searches

variable {mark delimiter quote data rest body after : Bytes} {escape : Option UInt8}

theorem splitAtMark_mark (mark after : Bytes) : splitAtMark mark (mark ++ after) = some ([], after) :=
  splitAtMark_iff.mpr ⟨rfl, clearOf_nil mark⟩

theorem splitAtMark_cons {b : UInt8} (hp : ¬ mark <+: b :: data) :
    splitAtMark mark (b :: data) =
      (splitAtMark mark data).map fun (body, after) => (b :: body, after) := by
  rw [← List.isPrefixOf_iff_prefix] at hp
  rw [splitAtMark, if_neg hp]

theorem Unbroken.not_isPrefix_withReturns {b : UInt8} (h : Unbroken mark) (hb : b ≠ newline)
    (hp : ¬ mark.isPrefixOf (b :: rest) = true) : ¬ mark <+: b :: withReturns rest := by
  rw [← withReturns_cons hb, h.isPrefix_withReturns, ← List.isPrefixOf_iff_prefix]
  exact hp

theorem withReturns_of_isPrefixOf (hu : Unbroken mark) (hp : mark.isPrefixOf data = true) :
    withReturns data = mark ++ withReturns (data.drop mark.length) := by
  conv_lhs => rw [← append_drop_of_isPrefixOf hp, withReturns_append, withReturns_of_notMem hu.1]

theorem splitAtMark_withReturns (hm : mark ≠ []) (hu : Unbroken mark) (data : Bytes) :
    splitAtMark mark (withReturns data) =
      (splitAtMark mark data).map fun (body, after) => (withReturns body, withReturns after) := by
  fun_induction splitAtMark mark data with
  | case1 he => exact absurd (List.isEmpty_iff.mp he) hm
  | case2 he => simp [withReturns, splitAtMark, he]
  | case3 b rest hp =>
    rw [withReturns_of_isPrefixOf hu hp, splitAtMark_mark]
    rfl
  | case4 b rest hp ih =>
    by_cases hb : b = newline
    · subst hb
      rw [withReturns_newline, splitAtMark_cons (hu.not_isPrefix hm (.inr rfl) _),
        splitAtMark_cons (hu.not_isPrefix hm (.inl rfl) _), ih]
      simp [Function.comp_def, withReturns_newline]
    · rw [withReturns_cons hb, splitAtMark_cons (hu.not_isPrefix_withReturns hb hp), ih]
      simp [Function.comp_def, withReturns_cons hb]

theorem splitInLine_withReturns (hm : mark ≠ []) (hu : Unbroken mark) (data : Bytes) :
    splitInLine mark (withReturns data) =
      (splitInLine mark data).map fun (body, after) => (body, withReturns after) := by
  fun_induction splitInLine mark data with
  | case1 => rfl
  | case2 b rest hp =>
    rw [withReturns_of_isPrefixOf hu hp, splitInLine_mark hm]
    rfl
  | case3 rest hp =>
    rw [withReturns_newline,
      splitInLine_cons (hu.not_isPrefix hm (.inr rfl) _) carriageReturn_ne_newline,
      splitInLine, if_neg (by simpa using hu.not_isPrefix hm (.inl rfl) _), if_pos rfl]
    rfl
  | case4 b rest hp hb ih =>
    rw [withReturns_cons hb, splitInLine_cons (hu.not_isPrefix_withReturns hb hp) hb, ih]
    simp [Function.comp_def]

/-- An escape at the end of a line takes the return and leaves the newline, which counts all the
same. -/
theorem closeQuoted_withReturns (hd : delimiter ≠ []) (hu : Unbroken delimiter)
    (hn : escape ≠ some newline) (hr : escape ≠ some carriageReturn) (data : Bytes) :
    closeQuoted delimiter escape (withReturns data) =
      (closeQuoted delimiter escape data).map fun (body, lines, after) =>
        (withReturns body, lines, withReturns after) := by
  fun_induction closeQuoted delimiter escape data with
  | case1 => rfl
  | case2 b rest hp =>
    rw [withReturns_of_isPrefixOf hu hp, closeQuoted_delimiter hd]
    simp [withReturns_of_notMem hu.1]
  | case3 b hb hp =>
    have hbn : b ≠ newline := fun h => hn (by rw [← hb, h])
    rw [withReturns_cons hbn, withReturns, closeQuoted.eq_def]
    simp [hp, hb]
  | case4 b hb c rest hp ih =>
    have hbn : b ≠ newline := fun h => hn (by rw [← hb, h])
    have hp := hu.not_isPrefix_withReturns hbn hp
    by_cases hc : c = newline
    · subst hc
      rw [withReturns_newline] at hp
      rw [withReturns_cons hbn, withReturns_newline, closeQuoted_escaped hp hb.symm,
        closeQuoted_byte (hu.not_isPrefix hd (.inl rfl) _) hn, ih]
      simp [Function.comp_def, withReturns_newline, withReturns_cons hbn, lineOf_carriageReturn]
    · rw [withReturns_cons hc] at hp
      rw [withReturns_cons hbn, withReturns_cons hc, closeQuoted_escaped hp hb.symm, ih]
      simp [Function.comp_def, withReturns_cons hbn, withReturns_cons hc]
  | case5 b rest hp hb ih =>
    by_cases hbn : b = newline
    · subst hbn
      rw [withReturns_newline, closeQuoted_byte (hu.not_isPrefix hd (.inr rfl) _) hr,
        closeQuoted_byte (hu.not_isPrefix hd (.inl rfl) _) hn, ih]
      simp [Function.comp_def, withReturns_newline, lineOf_carriageReturn]
    · have hp := hu.not_isPrefix_withReturns hbn hp
      rw [withReturns_cons hbn, closeQuoted_byte hp (Ne.symm hb), ih]
      simp [Function.comp_def, withReturns_cons hbn]

/-- What stands between the quotes of a character literal is on one line, so there is no return in
it. -/
theorem closeCharacter_withReturns (hq : quote ≠ []) (hu : Unbroken quote)
    (hn : escape ≠ some newline) (hr : escape ≠ some carriageReturn)
    (hx : ∀ x, escape = some x → ¬ [x, newline] <:+: data)
    (hc : ∀ before b rest, data = before ++ b :: rest → newline ∉ rest.take (charLength b - 1)) :
    closeCharacter quote escape (withReturns data) =
      (closeCharacter quote escape data).map fun (body, after) => (body, withReturns after) := by
  cases data with
  | nil => rfl
  | cons b rest =>
    by_cases hb : b = newline
    · subst hb
      have hp := hu.not_isPrefix hq (.inl rfl) (withReturns rest)
      rw [← List.isPrefixOf_iff_prefix] at hp
      have hw : charLength carriageReturn = 1 := rfl
      rw [withReturns_newline, closeCharacter.eq_def, closeCharacter.eq_def]
      simp [Ne.symm hn, Ne.symm hr, hw, hp, carriageReturn_ne_newline]
    · rw [withReturns_cons hb]
      by_cases he : some b = escape
      · cases rest with
        | nil =>
          rw [closeCharacter.eq_def, closeCharacter.eq_def]
          simp [he, withReturns]
        | cons c rest =>
          have hcn : c ≠ newline := by
            rintro rfl
            exact hx b he.symm ⟨[], rest, rfl⟩
          rw [withReturns_cons hcn, closeCharacter_escaped he.symm, closeCharacter_escaped he.symm,
            splitInLine_withReturns hq hu]
          simp [Function.comp_def]
      · obtain ⟨n, hw⟩ := Nat.exists_eq_add_of_le' (one_le_charLength b)
        have ht := hc [] b rest rfl
        rw [hw, Nat.add_sub_cancel] at ht
        obtain ⟨htake, hdrop⟩ := take_withReturns ht
        have hrest := hu.isPrefixOf_withReturns (rest.drop n)
        rw [closeCharacter.eq_def, closeCharacter.eq_def]
        by_cases hp : n < rest.length ∧ quote <+: rest.drop n
        · simp [he, hb, hw, htake, hdrop, hrest, withReturns_eq_nil_iff, hp,
            hu.drop_withReturns hp.2]
        · simp [he, hb, hw, hdrop, hrest, withReturns_eq_nil_iff, hp]

end searches

def Piece.withReturns : Piece → Piece
  | literal text lines => literal (CommentBlocks.withReturns text) lines
  | blockComment opener body closer => blockComment opener (CommentBlocks.withReturns body) closer
  | p => p

def Head.withReturns : Head → Head
  | piece p rest => piece p.withReturns (CommentBlocks.withReturns rest)
  | unclosed => unclosed
  | endless => endless

/-- The piece without the returns in it. A return by itself is none. -/
def Piece.withoutReturns? : Piece → Option Piece
  | blank b => if b = carriageReturn then none else some (blank b)
  | literal text lines => some (literal (withoutReturns text) lines)
  | lineComment opener body => some (lineComment opener (withoutReturns body))
  | blockComment opener body closer => some (blockComment opener (withoutReturns body) closer)
  | newline => some newline
  | code text => some (code text)

section cut

variable {rules : List Rule} {rule : Rule} {data rest : Bytes} {b : UInt8} {p : Piece}

theorem Rule.Unbroken.opener (h : rule.Unbroken) : CommentBlocks.Unbroken rule.opener := by
  cases rule with
  | quoted | character | block => exact h.1
  | line => exact h

theorem Rule.Unbroken.opensAt_withReturns (h : rule.Unbroken) (data : Bytes) :
    rule.opensAt (CommentBlocks.withReturns data) = rule.opensAt data := by
  have hp := h.opener.isPrefixOf_withReturns data
  cases rule <;> simp_all [Rule.opensAt, Rule.opener]

theorem Rule.Unbroken.opensAt_eq_false (h : rule.Unbroken) (hp : rule.Proper)
    (hb : b = newline ∨ b = carriageReturn) (rest : Bytes) : rule.opensAt (b :: rest) = false := by
  refine Bool.eq_false_iff.mpr fun ho => ?_
  exact h.opener.not_isPrefix hp.opener_ne_nil hb rest
    (List.isPrefixOf_iff_prefix.mp (opener_isPrefixOf ho))

theorem escapeByte_ne_carriageReturn {e : Option Char} (h : e ≠ some '\r') :
    Rule.escapeByte e ≠ some carriageReturn := escapeByte_ne (by decide) h

theorem Rule.read_withReturns (hp : rule.Proper) (hu : rule.Unbroken)
    (hl : ∀ opener, rule ≠ .line opener) (hm : rule ∈ rules) (hk : KeepsLines rules data)
    (ho : rule.opensAt data = true) :
    rule.read (CommentBlocks.withReturns data) = (rule.read data).withReturns := by
  have hd := hu.opener.drop_withReturns (List.isPrefixOf_iff_prefix.mp (opener_isPrefixOf ho))
  cases rule with
  | quoted delimiter escape =>
    obtain ⟨hu, hn, hr⟩ := hu
    have hc := closeQuoted_withReturns hp hu (escapeByte_ne_newline hn)
      (escapeByte_ne_carriageReturn hr) (data.drop delimiter.length)
    simp only [Rule.read]
    rw [Rule.opener] at hd
    rw [hd, hc]
    cases closeQuoted delimiter (escapeByte escape) (data.drop delimiter.length) with
    | none => rfl
    | some found =>
      simp [Head.withReturns, Piece.withReturns, withReturns_append, withReturns_of_notMem hu.1]
  | character quote escape =>
    obtain ⟨hu, hn, hr⟩ := hu
    have hk := hk.of_suffix (List.drop_suffix quote.length data)
    have hx (x : UInt8) := hk.escape quote escape x hm
    have hw := hk.character quote escape hm
    have hc := closeCharacter_withReturns hp hu (escapeByte_ne_newline hn)
      (escapeByte_ne_carriageReturn hr) hx hw
    simp only [Rule.read]
    rw [Rule.opener] at hd
    rw [hd, hc]
    cases hf : closeCharacter quote (escapeByte escape) (data.drop quote.length) with
    | none => rfl
    | some found =>
      have hb : newline ∉ quote ++ found.1 ++ quote := by
        have hb := newline_notMem_closeCharacter (escapeByte_ne_newline hn) hx hw hf
        simp [hu.1, hb]
      simp only [Option.map_some, Head.withReturns, Piece.withReturns, withReturns_of_notMem hb]
  | line opener => exact absurd rfl (hl opener)
  | block opener closer =>
    have hc := splitAtMark_withReturns hp.2 hu.2 (data.drop opener.length)
    have he : closer.isEmpty = false := by simpa using hp.2
    simp only [Rule.read, he, Bool.false_eq_true, if_false]
    rw [Rule.opener] at hd
    rw [hd, hc]
    cases splitAtMark closer (data.drop opener.length) <;> rfl

theorem find?_withReturns (hu : ∀ rule ∈ rules, rule.Unbroken) (data : Bytes) :
    rules.find? (·.opensAt (CommentBlocks.withReturns data)) = rules.find? (·.opensAt data) :=
  List.find?_congr fun rule hm => (hu rule hm).opensAt_withReturns data

theorem Piece.withReturns_plain (b : UInt8) : (plain b).withReturns = plain b := by
  unfold plain
  split
  · rfl
  · split <;> rfl

theorem Piece.withoutReturns?_withReturns (h : carriageReturn ∉ p.text) :
    p.withReturns.withoutReturns? = some p := by
  cases p with
  | newline | code => rfl
  | blank b =>
    have hb : b ≠ carriageReturn := fun hb => h (by rw [hb]; exact List.mem_singleton_self _)
    exact if_neg hb
  | literal text lines => exact congrArg (some <| literal · lines) (withoutReturns_withReturns h)
  | lineComment opener body =>
    have hb : carriageReturn ∉ body := fun hb => h (List.mem_append_right _ hb)
    exact congrArg (some <| lineComment opener ·) (withoutReturns_of_notMem hb)
  | blockComment opener body closer =>
    have hb : carriageReturn ∉ body :=
      fun hb => h (List.mem_append_left _ (List.mem_append_right _ hb))
    exact congrArg (some <| blockComment opener · closer) (withoutReturns_withReturns hb)

theorem head_withReturns (hp : ∀ rule ∈ rules, rule.Proper) (hu : ∀ rule ∈ rules, rule.Unbroken)
    (hk : KeepsLines rules (b :: data)) (hb : b ≠ newline)
    (hl : ∀ opener, ¬ Rule.Opens rules (.line opener) (b :: data)) :
    head rules b (CommentBlocks.withReturns data) = (head rules b data).withReturns := by
  have hw := withReturns_cons hb data
  have hf := find?_withReturns hu (b :: data)
  rw [hw] at hf
  cases ho : rules.find? (·.opensAt (b :: data)) with
  | none =>
    rw [head, head, hf, ho]
    simp [Head.withReturns, Piece.withReturns_plain]
  | some rule =>
    have ho : Rule.Opens rules rule (b :: data) := ho
    have hm := ho.mem
    rw [head_of_opens ho, head_of_opens (hf.trans ho), ← hw]
    refine Rule.read_withReturns (hp rule hm) (hu rule hm) ?_ hm hk ho.opensAt
    rintro opener rfl
    exact hl opener ho

theorem cut_return (hn : ∀ rule ∈ rules, rule.opensAt (carriageReturn :: data) = false) :
    cut rules (carriageReturn :: data) =
      ⟨.blank carriageReturn :: (cut rules data).list, (cut rules data).ending⟩ :=
  cut_of_piece (head_of_plain hn)

/-- A line comment takes the return at the end of its line, so that only the newline is left for a
piece of its own. -/
theorem cut_line_withReturns {opener : Bytes} (hp : ∀ rule ∈ rules, rule.Proper)
    (hu : ∀ rule ∈ rules, rule.Unbroken) (hr : carriageReturn ∉ p.text ++ rest)
    (ho : Rule.Opens rules (.line opener) (p.text ++ rest)) (h : (Rule.line opener).Reads p rest)
    (hlist : (cut rules (withReturns rest)).list.filterMap Piece.withoutReturns? =
      (cut rules rest).list)
    (hending : (cut rules (withReturns rest)).ending = (cut rules rest).ending) :
    (cut rules (withReturns (p.text ++ rest))).list.filterMap Piece.withoutReturns? =
        p :: (cut rules rest).list ∧
      (cut rules (withReturns (p.text ++ rest))).ending = (cut rules rest).ending := by
  have hopener : opener ≠ [] := hp _ ho.mem
  have hunbroken : Unbroken opener := hu _ ho.mem
  cases h with
  | @line _ body _ hb hrest =>
    have hbody : carriageReturn ∉ body := fun hm => hr (by simp [Piece.text, hm])
    have htext (body : Bytes) : (Piece.lineComment opener body).text ≠ [] := by
      simp [Piece.text, hopener]
    cases rest with
    | nil =>
      have hn : newline ∉ (Piece.lineComment opener body).text ++ [] := by
        simp [Piece.text, hunbroken.1, hb]
      have hp' : (Piece.lineComment opener body).withoutReturns? = some (.lineComment opener body) :=
        congrArg (some <| Piece.lineComment opener ·) (withoutReturns_of_notMem hbody)
      rw [withReturns_of_notMem hn, cut_of_read ho (.line hb hrest) (htext body),
        List.filterMap_cons_some hp']
      exact ⟨congrArg _ hlist, rfl⟩
    | cons b rest =>
      obtain rfl : b = newline := hrest b rfl
      have hw : withReturns ((Piece.lineComment opener body).text ++ newline :: rest) =
          (Piece.lineComment opener (body ++ [carriageReturn])).text ++ newline :: withReturns rest := by
        simp only [Piece.text, withReturns_append, withReturns_newline,
          withReturns_of_notMem hunbroken.1, withReturns_of_notMem hb, List.append_assoc]
        rfl
      have ho' := (find?_withReturns hu _).trans ho
      rw [hw] at ho' ⊢
      have hb' : newline ∉ body ++ [carriageReturn] := by
        simpa [hb] using carriageReturn_ne_newline.symm
      have hdrop : withoutReturns (body ++ [carriageReturn]) = body := by
        rw [withoutReturns_append, withoutReturns_of_notMem hbody]
        exact List.append_nil body
      have hp' : (Piece.lineComment opener (body ++ [carriageReturn])).withoutReturns? =
          some (.lineComment opener body) := congrArg (some <| Piece.lineComment opener ·) hdrop
      have hn : ∀ rule ∈ rules, rule.opensAt (carriageReturn :: newline :: withReturns rest) = false :=
        fun rule hm => (hu rule hm).opensAt_eq_false (hp rule hm) (.inr rfl) _
      rw [withReturns_newline, cut_return hn] at hlist hending
      rw [cut_of_read ho' (.line hb' (by simp)) (htext _), List.filterMap_cons_some hp']
      exact ⟨congrArg _ hlist, hending⟩

theorem cut_withReturns (hp : ∀ rule ∈ rules, rule.Proper) (hu : ∀ rule ∈ rules, rule.Unbroken)
    (hr : carriageReturn ∉ data) (hk : KeepsLines rules data) :
    (cut rules (withReturns data)).list.filterMap Piece.withoutReturns? = (cut rules data).list ∧
      (cut rules (withReturns data)).ending = (cut rules data).ending := by
  have hn (x : UInt8) (hx : x = newline ∨ x = carriageReturn) (rest : Bytes) :
      ∀ rule ∈ rules, rule.opensAt (x :: rest) = false :=
    fun rule hm => (hu rule hm).opensAt_eq_false (hp rule hm) hx rest
  fun_induction cut rules data with
  | case1 => simp [withReturns, cut]
  | case2 b data p rest hh tail ih =>
    have ha := head_append hh
    have hs : rest <:+ b :: data := ⟨_, ha⟩
    obtain ⟨hlist, hending⟩ := ih (fun hm => hr (hs.mem hm)) (hk.of_suffix hs)
    by_cases hb : b = newline
    · subst hb
      rw [head_of_plain (hn newline (.inl rfl) data)] at hh
      obtain ⟨rfl, rfl⟩ := Head.piece.inj hh
      rw [withReturns_newline, cut_return (hn _ (.inr rfl) _),
        cut_of_piece (head_of_plain (hn newline (.inl rfl) _))]
      exact ⟨congrArg (Piece.newline :: ·) hlist, hending⟩
    · have hw := withReturns_cons hb data
      by_cases hl : ∃ opener, Rule.Opens rules (.line opener) (b :: data)
      · obtain ⟨opener, ho⟩ := hl
        rw [head_of_opens ho] at hh
        have hread := Rule.reads_of_read ho.opensAt hh
        rw [← ha] at ho ⊢
        exact cut_line_withReturns hp hu (fun hm => hr (ha ▸ hm)) ho hread hlist hending
      · have hh' := head_withReturns hp hu hk hb (not_exists.mp hl)
        have ht : carriageReturn ∉ p.text := fun hm => hr (ha ▸ List.mem_append_left _ hm)
        rw [hh] at hh'
        rw [hw, cut_of_piece hh', List.filterMap_cons_some (Piece.withoutReturns?_withReturns ht),
          hlist]
        exact ⟨rfl, hending⟩
  | case3 b data hh =>
    have hb : b ≠ newline := by
      rintro rfl
      rw [head_of_plain (hn newline (.inl rfl) data)] at hh
      cases hh
    have hl (opener : Bytes) : ¬ Rule.Opens rules (.line opener) (b :: data) := by
      intro ho
      rw [head_of_opens ho] at hh
      cases hh
    have hh' := head_withReturns hp hu hk hb hl
    rw [hh] at hh'
    rw [withReturns_cons hb, cut_of_unclosed hh']
    exact ⟨rfl, rfl⟩
  | case4 b data hh => exact absurd hh (head_ne_endless (fun rule hm => (hp rule hm).advances) b data)

end cut

end CommentBlocks
