import CommentBlocks.Proofs.Source.Closing

namespace CommentBlocks

open Bytes

/-- Behind `before` the scan of `data` comes to a string or comment that does not end. -/
def OpenAt (rules : List Rule) (data before : Bytes) : Prop :=
  ∃ rule ahead, data = before ++ ahead ∧ Reaches rules data ahead ∧
    Rule.Opens rules rule ahead ∧ rule.StaysOpen ahead

section cut

variable {rules : List Rule} {rule : Rule} {before data ahead rest t : Bytes} {b : UInt8} {p : Piece}

theorem Rule.opensAt_append (h : rule.opensAt data = true) (t : Bytes) :
    rule.opensAt (data ++ t) = true := by
  have hp : rule.opener.isPrefixOf (data ++ t) = true := by
    rw [List.isPrefixOf_iff_prefix]
    exact (List.isPrefixOf_iff_prefix.mp (opener_isPrefixOf h)).trans (List.prefix_append _ _)
  cases rule <;> simp_all [opensAt, opener]

theorem Rule.opensAt_of_isPrefix (h : rule.opensAt (data ++ t) = true) (hp : rule.opener <+: data) :
    rule.opensAt data = true := by
  rw [← List.isPrefixOf_iff_prefix] at hp
  cases rule <;> simp_all [opensAt, opener]

theorem Rule.opensAt_eq_false_of_append (h : rule.opensAt (data ++ t) = false) :
    rule.opensAt data = false := by
  by_cases hd : rule.opensAt data = true
  · rw [opensAt_append hd t] at h
    cases h
  · simpa using hd

theorem Rule.Opens.of_append (h : Opens rules rule (data ++ t)) (hp : rule.opener <+: data) :
    Opens rules rule data := by
  obtain ⟨ho, front, back, he, hf⟩ := List.find?_eq_some_iff_append.mp h
  refine List.find?_eq_some_iff_append.mpr ⟨opensAt_of_isPrefix ho hp, front, back, he, ?_⟩
  intro r hr
  rw [opensAt_eq_false_of_append (by simpa using hf r hr)]
  rfl

theorem Rule.Reads.of_append (h : rule.Reads p (rest ++ t)) : rule.Reads p rest := by
  cases h with
  | quoted hc => exact .quoted hc
  | letter hl => exact .letter hl
  | quote hn =>
    refine .quote fun body after hb => ?_
    apply hn body (after ++ t)
    rw [hb, List.append_assoc]
  | line hb hr =>
    refine .line hb fun b hm => hr b ?_
    rw [List.head?_append, Option.mem_def.mp hm]
    rfl
  | block hc hb => exact .block hc hb

theorem head_of_append (h : head rules b (data ++ t) = .piece p (rest ++ t)) :
    head rules b data = .piece p rest := by
  have ha : p.text ++ rest = b :: data := by
    have hw := head_append h
    rw [← List.append_assoc, ← List.cons_append] at hw
    exact List.append_cancel_right hw
  cases hf : rules.find? (·.opensAt (b :: (data ++ t))) with
  | none =>
    have ho : ∀ rule ∈ rules, rule.opensAt (b :: data ++ t) = false := by simpa using hf
    have hw : head rules b (data ++ t) = .piece (.plain b) (data ++ t) := head_of_plain ho
    rw [hw] at h
    obtain ⟨rfl, hr⟩ := Head.piece.inj h
    rw [← List.append_cancel_right hr]
    exact head_of_plain fun rule hm => Rule.opensAt_eq_false_of_append (ho rule hm)
  | some rule =>
    have ho : Rule.Opens rules rule (b :: data ++ t) := hf
    rw [head_of_opens hf] at h
    have hr := Rule.reads_of_read ho.opensAt h
    have ho' : Rule.Opens rules rule (b :: data) := by
      apply ho.of_append
      rw [← ha]
      exact hr.opener_isPrefix.trans (List.prefix_append _ _)
    rw [head_of_opens ho', Rule.read_eq_piece_iff ho'.opensAt]
    exact ⟨ha.symm, hr.of_append⟩

/-- The pieces of a source fall apart at every place that its scan comes to. Those in front of the
place do not depend on what lies ahead. -/
theorem Reaches.cut_eq (h : Reaches rules data ahead) (hd : data = before ++ ahead) :
    (cut rules before).ending = .complete ∧
      cut rules data =
        ⟨(cut rules before).list ++ (cut rules ahead).list, (cut rules ahead).ending⟩ := by
  induction h generalizing before with
  | here =>
    obtain rfl : before = [] := List.self_eq_append_left.mp hd
    simp [cut]
  | @next b data p rest ahead hh h ih =>
    obtain ⟨front, rfl⟩ := h.isSuffix
    have hb : before = p.text ++ front := by
      rw [← head_append hh, ← List.append_assoc] at hd
      exact (List.append_cancel_right hd).symm
    cases before with
    | nil => exact absurd (List.append_eq_nil_iff.mp hb.symm).1 (text_ne_nil_of_head hh)
    | cons b' before =>
      obtain ⟨rfl, rfl⟩ := List.cons.inj hd
      obtain ⟨hc, hr⟩ := ih rfl
      have hh' := head_of_append hh
      rw [cut_of_piece hh, cut_of_piece hh', hr]
      exact ⟨hc, rfl⟩

theorem exists_openAt (h : (cut rules data).ending = .unclosed) :
    ∃ before, OpenAt rules data before := by
  fun_induction cut rules data with
  | case1 => cases h
  | case2 b data p rest hh tail ih =>
    obtain ⟨before, rule, ahead, rfl, hr, ho, hs⟩ := ih h
    refine ⟨p.text ++ before, rule, ahead, ?_, .next hh hr, ho, hs⟩
    rw [List.append_assoc, head_append hh]
  | case3 b data hh =>
    cases hf : rules.find? (·.opensAt (b :: data)) with
    | none => simp [head, hf] at hh
    | some rule =>
      rw [head_of_opens hf] at hh
      have ho : Rule.Opens rules rule (b :: data) := hf
      exact ⟨[], rule, b :: data, rfl, .here, ho, (Rule.read_eq_unclosed_iff ho.opensAt).mp hh⟩
  | case4 => cases h

theorem OpenAt.cut_eq (hp : ∀ rule ∈ rules, rule.Proper) (h : OpenAt rules data before) :
    cut rules before = ⟨(cut rules data).list, .complete⟩ ∧
      (cut rules data).ending = .unclosed := by
  obtain ⟨rule, ahead, hd, hr, ho, hs⟩ := h
  obtain ⟨hc, he⟩ := hr.cut_eq hd
  have hu := cut_of_read_unclosed (hp rule ho.mem) ho ((Rule.read_eq_unclosed_iff ho.opensAt).mpr hs)
  rw [hu, List.append_nil] at he
  rw [he, ← hc]
  exact ⟨rfl, rfl⟩

end cut

/-- An extraction reports at most one issue, and one exactly if its scan comes to a string or
comment that does not end. The blocks are then those of the bytes before, which give no issue. -/
theorem unclosed_of_extract {language : Language} (hp : ∀ rule ∈ language.rules, rule.Proper)
    (path : String) (data : Bytes) :
    ∃ out, extract path data language = some out ∧ out.issues.length ≤ 1 ∧
      (out.issues.length = 1 ↔ ∃ before, OpenAt language.rules data before) ∧
      ∀ before, OpenAt language.rules data before →
        (∃ line, out.issues = [⟨path, "", line, .message (.just .unclosed)⟩]) ∧
        extract path before language = some ⟨out.blocks, []⟩ := by
  have hn := cut_ne_endless (fun rule hm => (hp rule hm).advances) data
  cases he : (cut language.rules data).ending with
  | endless => exact absurd he hn
  | complete =>
    have hno : ∀ before, ¬ OpenAt language.rules data before := by
      intro before ho
      have hu := (ho.cut_eq hp).2
      rw [he] at hu
      cases hu
    refine ⟨⟨(Collected.ofPieces (cut language.rules data).list).blocks, []⟩, ?_, ?_, ?_, ?_⟩
    · simp [extract, he]
    · simp
    · simpa using hno
    · exact fun before ho => absurd ho (hno before)
  | unclosed =>
    refine ⟨⟨(Collected.ofPieces (cut language.rules data).list).blocks,
      [⟨path, "", (Collected.ofPieces (cut language.rules data).list).line,
        .message (.just .unclosed)⟩]⟩, ?_, ?_, ?_, ?_⟩
    · simp [extract, he]
    · simp
    · simpa using exists_openAt he
    · intro before ho
      refine ⟨⟨_, rfl⟩, ?_⟩
      simp [extract, (ho.cut_eq hp).1]

theorem unclosed_of_extract_tall :
    (∀ rule ∈ tallLanguage.rules, rule.Proper) ∧
      ∃ before, OpenAt tallLanguage.rules tallSource before ∧
        (extract "f.rb" before tallLanguage).map (·.blocks.entries) =
          some [(2, ofText "p\nq"), (3, ofText "\nr"), (6, ofText "s")] ∧
        (extract "f.rb" before tallLanguage).map (·.issues.length) = some 0 := by
  have hp : ∀ rule ∈ tallLanguage.rules, rule.Proper := fun rule hm => (countable_tall rule hm).proper
  obtain ⟨out, ho, -, hone, hall⟩ := unclosed_of_extract hp "f.rb" tallSource
  have hx : (extract "f.rb" tallSource tallLanguage).map (·.blocks.entries) =
      some [(2, ofText "p\nq"), (3, ofText "\nr"), (6, ofText "s")] := by cbv
  have hl : (extract "f.rb" tallSource tallLanguage).map (·.issues.length) = some 1 := by cbv
  rw [ho] at hx hl
  obtain ⟨before, hb⟩ := hone.mp (Option.some.inj hl)
  refine ⟨hp, before, hb, ?_⟩
  rw [(hall before hb).2]
  exact ⟨hx, rfl⟩

end CommentBlocks
