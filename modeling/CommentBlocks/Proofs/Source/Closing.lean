import CommentBlocks.Proofs.Source.Adjacent
import CommentBlocks.Proofs.Source.Literal

namespace CommentBlocks

open Bytes

/-- In front of `mark`, the bytes `body` hold no place at which `mark` already comes up. -/
def ClearOf (mark body : Bytes) : Prop := ∀ k < body.length, ¬ mark <+: (body ++ mark).drop k

instance (mark body : Bytes) : Decidable (ClearOf mark body) :=
  inferInstanceAs (Decidable (∀ k < body.length, ¬ mark <+: (body ++ mark).drop k))

/-- The content of a string: bytes, and escapes with the byte behind each of them. Between two of
these the delimiter does not come up. The newlines are counted, save for those that are an escape.
-/
inductive Content (delimiter : Bytes) (escape : Option UInt8) : Bytes → Nat → Prop
  | nil : Content delimiter escape [] 0
  | byte {b content lines} (hx : escape ≠ some b)
    (hd : ¬ delimiter <+: b :: (content ++ delimiter)) (h : Content delimiter escape content lines) :
    Content delimiter escape (b :: content) (lineOf b + lines)
  | escaped {x b content lines} (hx : escape = some x)
    (hd : ¬ delimiter <+: x :: b :: (content ++ delimiter))
    (h : Content delimiter escape content lines) :
    Content delimiter escape (x :: b :: content) (lineOf b + lines)

/-- What stands between the quotes of a character literal: an escape, the byte behind it and all up
to the next quote of the line, or as many bytes as the first of them tells. -/
inductive Letter (quote : Bytes) (escape : Option UInt8) : Bytes → Prop
  | escaped {x b body} (hx : escape = some x) (hb : newline ∉ body) (hq : ClearOf quote body) :
    Letter quote escape (x :: b :: body)
  | single {b body} (hx : escape ≠ some b) (hn : b ≠ newline)
    (hl : body.length + 1 = charLength b) : Letter quote escape (b :: body)

section mark

variable {mark front body data after : Bytes}

theorem isPrefix_append_iff (h : mark.length ≤ front.length) (after : Bytes) :
    mark <+: front ++ after ↔ mark <+: front := by
  constructor
  · intro hp
    exact List.prefix_of_prefix_length_le hp (List.prefix_append _ _) h
  · intro hp
    exact hp.trans (List.prefix_append _ _)

theorem not_isPrefix_append {b : UInt8} (h : ¬ mark <+: b :: (body ++ mark)) (after : Bytes) :
    ¬ mark <+: b :: (body ++ mark ++ after) := by
  have hl : mark.length ≤ (b :: (body ++ mark)).length := by
    rw [List.length_cons, List.length_append]
    omega
  exact fun hp => h ((isPrefix_append_iff hl after).mp hp)

theorem clearOf_nil (mark : Bytes) : ClearOf mark [] := by
  intro k hk
  cases hk

theorem clearOf_cons_iff {b : UInt8} :
    ClearOf mark (b :: body) ↔ ¬ mark <+: b :: (body ++ mark) ∧ ClearOf mark body := by
  constructor
  · intro h
    refine ⟨by simpa using h 0 (by simp), fun k hk => ?_⟩
    simpa using h (k + 1) (by simpa using hk)
  · rintro ⟨hb, h⟩ k hk
    cases k with
    | zero => simpa using hb
    | succ k => simpa using h k (by simpa using hk)

theorem clearOf_iff (mark body after : Bytes) :
    ClearOf mark body ↔ ∀ k < body.length, ¬ mark <+: (body ++ mark ++ after).drop k := by
  refine forall₂_congr fun k hk => not_congr ?_
  have hl : k ≤ (body ++ mark).length := by
    rw [List.length_append]
    omega
  rw [List.drop_append_of_le_length hl, isPrefix_append_iff]
  rw [List.length_drop, List.length_append]
  omega

theorem splitAtMark_iff :
    splitAtMark mark data = some (body, after) ↔ data = body ++ mark ++ after ∧ ClearOf mark body := by
  rw [splitAtMark_eq_some_iff]
  constructor
  · rintro ⟨rfl, h⟩
    exact ⟨rfl, (clearOf_iff mark body after).mpr h⟩
  · rintro ⟨rfl, h⟩
    exact ⟨rfl, (clearOf_iff mark body after).mp h⟩

theorem splitInLine_mark (hm : mark ≠ []) (after : Bytes) :
    splitInLine mark (mark ++ after) = some ([], after) := by
  cases hd : mark ++ after with
  | nil => exact absurd (List.append_eq_nil_iff.mp hd).1 hm
  | cons b rest =>
    have hp : mark.isPrefixOf (b :: rest) = true := by
      rw [← hd, List.isPrefixOf_iff_prefix]
      exact List.prefix_append _ _
    rw [splitInLine, if_pos hp, ← hd, List.drop_left]

theorem splitInLine_cons {b : UInt8} (hp : ¬ mark <+: b :: data) (hb : b ≠ newline) :
    splitInLine mark (b :: data) =
      (splitInLine mark data).map fun (body, after) => (b :: body, after) := by
  rw [← List.isPrefixOf_iff_prefix] at hp
  rw [splitInLine, if_neg hp, if_neg hb]

theorem splitInLine_iff (hm : mark ≠ []) :
    splitInLine mark data = some (body, after) ↔
      data = body ++ mark ++ after ∧ newline ∉ body ∧ ClearOf mark body := by
  constructor
  · intro h
    refine ⟨(splitInLine_append h).symm, newline_notMem_splitInLine h, ?_⟩
    fun_induction splitInLine mark data generalizing body with
    | case1 => cases h
    | case2 =>
      obtain ⟨rfl, rfl⟩ := by simpa using h
      exact clearOf_nil mark
    | case3 => cases h
    | case4 b rest hp _ ih =>
      obtain ⟨⟨body', after'⟩, hs, he⟩ := Option.map_eq_some_iff.mp h
      obtain ⟨rfl, rfl⟩ := by simpa using he
      refine clearOf_cons_iff.mpr ⟨fun hc => hp ?_, ih hs⟩
      rw [← splitInLine_append hs, List.isPrefixOf_iff_prefix]
      exact hc.trans (List.prefix_append (b :: (body' ++ mark)) after')
  · rintro ⟨rfl, hn, hc⟩
    induction body with
    | nil => exact splitInLine_mark hm after
    | cons b body ih =>
      obtain ⟨hb, hc⟩ := clearOf_cons_iff.mp hc
      obtain ⟨hbn, hn⟩ := not_or.mp (fun h => hn (List.mem_cons.mpr h))
      have hp : ¬ mark <+: b :: (body ++ mark ++ after) := not_isPrefix_append hb after
      rw [List.cons_append, List.cons_append, splitInLine_cons hp (Ne.symm hbn), ih hn hc]
      rfl

end mark

section quoted

variable {delimiter quote data content body after : Bytes} {escape : Option UInt8} {lines : Nat}

theorem Content.lines_eq (he : escape ≠ some newline)
    (h : Content delimiter escape content lines) : lines = newlines content := by
  induction h with
  | nil => rfl
  | byte _ _ _ ih => rw [newlines_cons, ih]
  | @escaped x b content lines hx _ _ ih =>
    have hn : lineOf x = 0 := if_neg fun hxn => he (by rw [hx, hxn])
    rw [newlines_cons, newlines_cons, hn, ih, Nat.zero_add]

theorem closeQuoted_sound (h : closeQuoted delimiter escape data = some (body, lines, after)) :
    ∃ content, body = content ++ delimiter ∧ Content delimiter escape content lines := by
  fun_induction closeQuoted delimiter escape data generalizing body lines with
  | case1 => cases h
  | case2 =>
    obtain ⟨rfl, rfl, rfl⟩ := by simpa using h
    exact ⟨[], rfl, .nil⟩
  | case3 => cases h
  | case4 b hb c rest hp ih =>
    obtain ⟨⟨body', lines', after'⟩, hs, he⟩ := Option.map_eq_some_iff.mp h
    obtain ⟨rfl, rfl, rfl⟩ := by simpa using he
    obtain ⟨content, rfl, hc⟩ := ih hs
    refine ⟨b :: c :: content, rfl, .escaped hb.symm (fun hd => hp ?_) hc⟩
    rw [← closeQuoted_append hs, List.isPrefixOf_iff_prefix]
    exact hd.trans (List.prefix_append (b :: c :: (content ++ delimiter)) after')
  | case5 b rest hp hb ih =>
    obtain ⟨⟨body', lines', after'⟩, hs, he⟩ := Option.map_eq_some_iff.mp h
    obtain ⟨rfl, rfl, rfl⟩ := by simpa using he
    obtain ⟨content, rfl, hc⟩ := ih hs
    refine ⟨b :: content, rfl, .byte (Ne.symm hb) (fun hd => hp ?_) hc⟩
    rw [← closeQuoted_append hs, List.isPrefixOf_iff_prefix]
    exact hd.trans (List.prefix_append (b :: (content ++ delimiter)) after')

theorem closeQuoted_delimiter (hd : delimiter ≠ []) (after : Bytes) :
    closeQuoted delimiter escape (delimiter ++ after) = some (delimiter, 0, after) := by
  cases ha : delimiter ++ after with
  | nil => exact absurd (List.append_eq_nil_iff.mp ha).1 hd
  | cons b rest =>
    have hp : delimiter.isPrefixOf (b :: rest) = true := by
      rw [← ha, List.isPrefixOf_iff_prefix]
      exact List.prefix_append _ _
    rw [closeQuoted.eq_def]
    dsimp only
    rw [if_pos hp, ← ha, List.drop_left]

theorem closeQuoted_byte {b : UInt8} (hp : ¬ delimiter <+: b :: data) (hx : escape ≠ some b) :
    closeQuoted delimiter escape (b :: data) =
      (closeQuoted delimiter escape data).map fun (body, lines, after) =>
        (b :: body, lineOf b + lines, after) := by
  rw [← List.isPrefixOf_iff_prefix] at hp
  rw [closeQuoted.eq_def]
  dsimp only
  rw [if_neg hp, if_neg (Ne.symm hx)]

theorem closeQuoted_escaped {x b : UInt8} (hp : ¬ delimiter <+: x :: b :: data)
    (hx : escape = some x) :
    closeQuoted delimiter escape (x :: b :: data) =
      (closeQuoted delimiter escape data).map fun (body, lines, after) =>
        (x :: b :: body, lineOf b + lines, after) := by
  rw [← List.isPrefixOf_iff_prefix] at hp
  rw [closeQuoted.eq_def]
  dsimp only
  rw [if_neg hp, if_pos hx.symm]

theorem closeQuoted_complete (hd : delimiter ≠ []) (h : Content delimiter escape content lines)
    (after : Bytes) :
    closeQuoted delimiter escape (content ++ delimiter ++ after) =
      some (content ++ delimiter, lines, after) := by
  induction h with
  | nil => exact closeQuoted_delimiter hd after
  | @byte b content lines hx hb h ih =>
    have hp : ¬ delimiter <+: b :: (content ++ delimiter ++ after) := not_isPrefix_append hb after
    rw [List.cons_append, List.cons_append, closeQuoted_byte hp hx, ih]
    rfl
  | @escaped x b content lines hx hb h ih =>
    have hb' : ¬ delimiter <+: x :: (b :: content ++ delimiter) := hb
    have hp : ¬ delimiter <+: x :: b :: (content ++ delimiter ++ after) :=
      not_isPrefix_append hb' after
    simp only [List.cons_append]
    rw [closeQuoted_escaped hp hx, ih]
    rfl

theorem closeQuoted_iff (hd : delimiter ≠ []) :
    closeQuoted delimiter escape data = some (body, lines, after) ↔
      ∃ content, body = content ++ delimiter ∧ data = content ++ delimiter ++ after ∧
        Content delimiter escape content lines := by
  constructor
  · intro h
    obtain ⟨content, rfl, hc⟩ := closeQuoted_sound h
    exact ⟨content, rfl, (closeQuoted_append h).symm, hc⟩
  · rintro ⟨content, rfl, rfl, hc⟩
    exact closeQuoted_complete hd hc after

theorem closeCharacter_iff (hq : quote ≠ []) :
    closeCharacter quote escape data = some (body, after) ↔
      data = body ++ quote ++ after ∧ Letter quote escape body := by
  constructor
  · intro h
    refine ⟨(closeCharacter_append h).symm, ?_⟩
    revert h
    fun_cases closeCharacter quote escape data with
    | case1 | case2 | case4 | case6 => simp
    | case3 b hb c rest =>
      intro h
      obtain ⟨⟨front, back⟩, hs, he⟩ := Option.map_eq_some_iff.mp h
      obtain ⟨rfl, rfl⟩ := by simpa using he
      obtain ⟨-, hn, hc⟩ := (splitInLine_iff hq).mp hs
      exact .escaped hb.symm hn hc
    | case5 b rest hb hn width back hc =>
      intro h
      obtain ⟨rfl, rfl⟩ := Prod.mk.inj (Option.some.inj h)
      obtain ⟨hne, -⟩ := (Bool.and_eq_true _ _).mp hc
      obtain ⟨n, hw⟩ := Nat.exists_eq_add_of_le' (one_le_charLength b)
      have hlen : n < rest.length := by simpa [back, width, hw] using hne
      have ht : (b :: rest).take width = b :: rest.take n := by simp [width, hw]
      rw [ht]
      refine .single (Ne.symm hb) hn ?_
      rw [List.length_take, hw]
      omega
  · rintro ⟨rfl, hl⟩
    cases hl with
    | @escaped x b body hx hn hc =>
      have hs : splitInLine quote (body ++ quote ++ after) = some (body, after) :=
        (splitInLine_iff hq).mpr ⟨rfl, hn, hc⟩
      have ha : x :: b :: body ++ quote ++ after = x :: b :: (body ++ quote ++ after) := rfl
      rw [ha, closeCharacter_escaped hx, hs]
      rfl
    | single hx hn hl => exact closeCharacter_single hq hx hn hl after

end quoted

namespace Rule

/-- The rule reads `p` in front of `rest`. Only a quote that is code and a line comment depend on
what follows: the one must not begin a literal, and the other ends with the line. -/
inductive Reads : Rule → Piece → Bytes → Prop
  | quoted {delimiter escape content lines rest}
    (hc : Content delimiter (escapeByte escape) content lines) :
    Reads (.quoted delimiter escape) (.literal (delimiter ++ (content ++ delimiter)) lines) rest
  | letter {quote escape body rest} (hl : Letter quote (escapeByte escape) body) :
    Reads (.character quote escape) (.literal (quote ++ body ++ quote) 0) rest
  | quote {quote escape rest}
    (hn : ∀ body after, rest = body ++ quote ++ after → ¬ Letter quote (escapeByte escape) body) :
    Reads (.character quote escape) (.code quote) rest
  | line {opener body rest} (hb : newline ∉ body) (hr : ∀ b ∈ rest.head?, b = newline) :
    Reads (.line opener) (.lineComment opener body) rest
  | block {opener body closer rest} (hc : closer ≠ []) (hb : ClearOf closer body) :
    Reads (.block opener closer) (.blockComment opener body closer) rest

/-- The rule opens at the head of the bytes, and none of those behind its opener are its end: no
content of a string that the delimiter follows, no closer of a comment. -/
inductive StaysOpen : Rule → Bytes → Prop
  | quoted {delimiter escape rest}
    (h : ∀ content lines after, rest = content ++ delimiter ++ after →
      ¬ Content delimiter (escapeByte escape) content lines) :
    StaysOpen (.quoted delimiter escape) (delimiter ++ rest)
  | block {opener closer rest} (h : ¬ closer <:+: rest) :
    StaysOpen (.block opener closer) (opener ++ rest)

variable {rule : Rule} {data rest : Bytes} {p : Piece}

theorem Reads.opener_isPrefix (h : rule.Reads p rest) : rule.opener <+: p.text := by
  cases h with
  | quoted => exact List.prefix_append _ _
  | letter | block =>
    rw [Piece.text, List.append_assoc]
    exact List.prefix_append _ _
  | quote => exact List.prefix_rfl
  | line => exact List.prefix_append _ _

theorem opener_ne_nil_of_opensAt (ho : rule.opensAt data = true)
    (hr : ∀ opener closer, rule ≠ .block opener closer) : rule.opener ≠ [] := by
  cases rule with
  | quoted | character | line => simp_all [opensAt, opener]
  | block opener closer => exact absurd rfl (hr opener closer)

theorem reads_of_read (ho : rule.opensAt data = true) (h : rule.read data = .piece p rest) :
    rule.Reads p rest := by
  have hd := append_drop_of_isPrefixOf (opener_isPrefixOf ho)
  cases rule with
  | quoted delimiter escape =>
    simp only [read] at h
    split at h
    · next hc =>
      obtain ⟨rfl, rfl⟩ := Head.piece.inj h
      obtain ⟨content, rfl, hx⟩ := closeQuoted_sound hc
      exact .quoted hx
    · cases h
  | character quote escape =>
    have hq : quote ≠ [] := opener_ne_nil_of_opensAt ho (by simp)
    simp only [read] at h
    split at h
    · next hc =>
      obtain ⟨rfl, rfl⟩ := Head.piece.inj h
      exact .letter ((closeCharacter_iff hq).mp hc).2
    · next hc =>
      obtain ⟨rfl, rfl⟩ := Head.piece.inj h
      refine .quote fun body after hb hl => ?_
      rw [(closeCharacter_iff hq).mpr ⟨hb, hl⟩] at hc
      cases hc
  | line opener =>
    obtain ⟨rfl, rfl⟩ := Head.piece.inj h
    exact .line (newline_notMem_takeWhile _) (newline_of_mem_head?_dropWhile _)
  | block opener closer =>
    simp only [read] at h
    split at h
    · cases h
    · next hc =>
      split at h
      · next hs =>
        obtain ⟨rfl, rfl⟩ := Head.piece.inj h
        exact .block (by simpa using hc) (splitAtMark_iff.mp hs).2
      · cases h

theorem Reads.read (h : rule.Reads p rest) (ho : rule.opensAt (p.text ++ rest) = true) :
    rule.read (p.text ++ rest) = .piece p rest := by
  cases h with
  | @quoted delimiter escape content lines rest hc =>
    have hd : delimiter ≠ [] := opener_ne_nil_of_opensAt ho (by simp)
    rw [Piece.text, List.append_assoc, Rule.read, List.drop_left, closeQuoted_complete hd hc]
  | @letter quote escape body rest hl =>
    have hq : quote ≠ [] := opener_ne_nil_of_opensAt ho (by simp)
    rw [Piece.text, List.append_assoc, List.append_assoc, Rule.read, List.drop_left,
      ← List.append_assoc, (closeCharacter_iff hq).mpr ⟨rfl, hl⟩]
  | @quote quote escape rest hn =>
    have hq : quote ≠ [] := opener_ne_nil_of_opensAt ho (by simp)
    have hc : closeCharacter quote (escapeByte escape) rest = none := by
      rw [Option.eq_none_iff_forall_ne_some]
      rintro ⟨body, after⟩ hs
      obtain ⟨hb, hl⟩ := (closeCharacter_iff hq).mp hs
      exact hn body after hb hl
    rw [Piece.text, Rule.read, List.drop_left, hc]
  | line hb hr => exact read_line hb hr
  | @block opener body closer rest hc hb =>
    have hc : closer.isEmpty = false := by simpa using hc
    simp only [Piece.text, List.append_assoc, Rule.read, hc, Bool.false_eq_true, if_false,
      List.drop_left]
    rw [← List.append_assoc, splitAtMark_iff.mpr ⟨rfl, hb⟩]

theorem read_eq_piece_iff (ho : rule.opensAt data = true) :
    rule.read data = .piece p rest ↔ data = p.text ++ rest ∧ rule.Reads p rest := by
  constructor
  · intro h
    exact ⟨(read_append ho h).symm, reads_of_read ho h⟩
  · rintro ⟨rfl, h⟩
    exact h.read ho

theorem read_eq_unclosed_iff (ho : rule.opensAt data = true) :
    rule.read data = .unclosed ↔ rule.StaysOpen data := by
  have hd := append_drop_of_isPrefixOf (opener_isPrefixOf ho)
  constructor
  · intro h
    cases rule with
    | quoted delimiter escape =>
      have hn : delimiter ≠ [] := opener_ne_nil_of_opensAt ho (by simp)
      simp only [read] at h
      split at h
      · cases h
      · next hc =>
        rw [← hd]
        refine .quoted fun content lines after he hx => ?_
        have hs : data.drop delimiter.length = content ++ delimiter ++ after := he
        rw [hs, closeQuoted_complete hn hx after] at hc
        cases hc
    | character =>
      simp only [read] at h
      split at h <;> cases h
    | line => cases h
    | block opener closer =>
      simp only [read] at h
      split at h
      · cases h
      · split at h
        · cases h
        · next hc =>
          rw [← hd]
          exact .block (splitAtMark_eq_none_iff.mp hc)
  · intro h
    cases h with
    | @quoted delimiter escape rest h =>
      have hn : delimiter ≠ [] := opener_ne_nil_of_opensAt ho (by simp)
      have hc : closeQuoted delimiter (escapeByte escape) rest = none := by
        rw [Option.eq_none_iff_forall_ne_some]
        rintro ⟨body, lines, after⟩ hs
        obtain ⟨content, -, hb, hx⟩ := (closeQuoted_iff hn).mp hs
        exact h content lines after hb hx
      rw [read, List.drop_left, hc]
    | @block opener closer rest h =>
      have hc : closer ≠ [] := by
        rintro rfl
        exact h List.nil_infix
      simp [read, hc, splitAtMark_eq_none_iff.mpr h]

end Rule

end CommentBlocks
