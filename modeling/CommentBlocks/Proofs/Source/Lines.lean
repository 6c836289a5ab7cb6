import CommentBlocks.Proofs.Source.Groups
import Mathlib.Data.List.Infix

namespace CommentBlocks

open Bytes

/-- Openers, quotes and escapes that hide no newline. The marks of a block may hold newlines. -/
def Rule.Countable : Rule → Prop
  | .quoted delimiter escape => delimiter ≠ [] ∧ newline ∉ delimiter ∧ escape ≠ some '\n'
  | .character quote escape => quote ≠ [] ∧ newline ∉ quote ∧ escape ≠ some '\n'
  | .line opener => opener ≠ [] ∧ newline ∉ opener
  | .block opener closer => opener ≠ [] ∧ closer ≠ []

instance : DecidablePred Rule.Countable
  | .quoted delimiter escape =>
    inferInstanceAs (Decidable (delimiter ≠ [] ∧ newline ∉ delimiter ∧ escape ≠ some '\n'))
  | .character quote escape =>
    inferInstanceAs (Decidable (quote ≠ [] ∧ newline ∉ quote ∧ escape ≠ some '\n'))
  | .line opener => inferInstanceAs (Decidable (opener ≠ [] ∧ newline ∉ opener))
  | .block opener closer => inferInstanceAs (Decidable (opener ≠ [] ∧ closer ≠ []))

/-- No character literal of `data` can take a newline: none follows an escape of such a literal, and
none stands where the further bytes of a character do. -/
structure KeepsLines (rules : List Rule) (data : Bytes) : Prop where
  escape : ∀ quote escape x, .character quote escape ∈ rules → Rule.escapeByte escape = some x →
    ¬ [x, newline] <:+: data
  character : ∀ quote escape, .character quote escape ∈ rules →
    ∀ before b rest, data = before ++ b :: rest → newline ∉ rest.take (charLength b - 1)

inductive Reaches (rules : List Rule) : Bytes → Bytes → Prop
  | here {data} : Reaches rules data data
  | next {b data p rest ahead} (hh : head rules b data = .piece p rest)
    (h : Reaches rules rest ahead) : Reaches rules (b :: data) ahead

/-- No newline stands where the scan of `data` counts none: in the delimiters and behind the escapes
of strings, in the openers of line comments, and in what it passes over at the quotes of characters.
-/
structure CountsLines (rules : List Rule) (data : Bytes) : Prop where
  quoted : ∀ delimiter escape, .quoted delimiter escape ∈ rules →
    newline ∉ delimiter ∧ escape ≠ some '\n'
  line : ∀ opener, .line opener ∈ rules → newline ∉ opener
  character : ∀ quote escape ahead p rest, Reaches rules data ahead →
    Rule.Opens rules (.character quote escape) ahead →
    (Rule.character quote escape).read ahead = .piece p rest → newline ∉ p.text

variable {rules : List Rule} {rule : Rule} {data rest body quote delimiter : Bytes} {p : Piece}
  {escape : Option UInt8} {lines : Nat}

theorem Reaches.isSuffix (h : Reaches rules data rest) : rest <:+ data := by
  induction h with
  | here => exact List.suffix_rfl
  | next hh _ ih => exact ih.trans ⟨_, head_append hh⟩

theorem CountsLines.of_head {b : UInt8} (h : CountsLines rules (b :: data))
    (hh : head rules b data = .piece p rest) : CountsLines rules rest where
  quoted := h.quoted
  line := h.line
  character quote escape ahead p' rest' ha := h.character quote escape ahead p' rest' (.next hh ha)

theorem Rule.Countable.proper (h : rule.Countable) : rule.Proper := by
  cases rule with
  | quoted | character | line => exact h.1
  | block => exact h

theorem KeepsLines.of_suffix (h : KeepsLines rules data) (hs : rest <:+ data) :
    KeepsLines rules rest where
  escape quote escape x hm hx hi := h.escape quote escape x hm hx (hi.trans hs.isInfix)
  character quote escape hm before b after ha := by
    obtain ⟨front, rfl⟩ := hs
    refine h.character quote escape hm (front ++ before) b after ?_
    rw [ha, List.append_assoc]

theorem notMem_take_of_tails
    (h : ∀ t ∈ data.tails, newline ∉ t.tail.take (charLength (t.headD 0) - 1)) (before : Bytes)
    (b : UInt8) (rest : Bytes) (hd : data = before ++ b :: rest) :
    newline ∉ rest.take (charLength b - 1) :=
  h (b :: rest) ((List.mem_tails _ _).mpr ⟨before, hd.symm⟩)

theorem newlines_eq_zero {b : Bytes} (h : newline ∉ b) : newlines b = 0 :=
  List.count_eq_zero_of_not_mem h

theorem newlines_cons (b : UInt8) (rest : Bytes) :
    newlines (b :: rest) = lineOf b + newlines rest := by
  unfold newlines lineOf
  rw [List.count_cons]
  by_cases hb : b = newline <;> simp [hb, Nat.add_comm]

theorem escapeByte_ne {e : Option Char} {d : Char} (hd : d.toNat < 256) (h : e ≠ some d) :
    Rule.escapeByte e ≠ some d.toNat.toUInt8 := by
  cases e with
  | none => simp [Rule.escapeByte]
  | some c =>
    intro hb
    simp only [Rule.escapeByte] at hb
    split at hb
    · next hc =>
      have ht : c.toNat.toUInt8.toNat = d.toNat.toUInt8.toNat := by rw [Option.some.inj hb]
      rw [Nat.toUInt8_eq, Nat.toUInt8_eq, UInt8.toNat_ofNat', UInt8.toNat_ofNat',
        Nat.mod_eq_of_lt hc, Nat.mod_eq_of_lt hd] at ht
      exact h (congrArg some (Char.toNat_inj.mp ht))
    · cases hb

theorem escapeByte_ne_newline {e : Option Char} (h : e ≠ some '\n') :
    Rule.escapeByte e ≠ some newline := escapeByte_ne (by decide) h

theorem closeQuoted_lines (hd : newline ∉ delimiter) (he : escape ≠ some newline)
    (h : closeQuoted delimiter escape data = some (body, lines, rest)) : lines = newlines body := by
  fun_induction closeQuoted delimiter escape data generalizing body lines with
  | case1 => cases h
  | case2 b rest hm =>
    obtain ⟨rfl, rfl, rfl⟩ := by simpa using h
    exact (newlines_eq_zero hd).symm
  | case3 => cases h
  | case4 b hb c rest hm ih =>
    obtain ⟨⟨body', lines', after'⟩, hs, hx⟩ := Option.map_eq_some_iff.mp h
    obtain ⟨rfl, rfl, rfl⟩ := by simpa using hx
    have hn : lineOf b = 0 := by
      refine if_neg fun hbn => he ?_
      rw [← hb, hbn]
    rw [newlines_cons, newlines_cons, hn, ih hs]
    omega
  | case5 b rest _ _ ih =>
    obtain ⟨⟨body', lines', after'⟩, hs, hx⟩ := Option.map_eq_some_iff.mp h
    obtain ⟨rfl, rfl, rfl⟩ := by simpa using hx
    rw [newlines_cons, ih hs]

theorem newline_notMem_splitInLine (h : splitInLine quote data = some (body, rest)) :
    newline ∉ body := by
  fun_induction splitInLine quote data generalizing body with
  | case1 => cases h
  | case2 =>
    obtain ⟨rfl, rfl⟩ := by simpa using h
    simp
  | case3 => cases h
  | case4 b rest _ hb ih =>
    obtain ⟨⟨body', after'⟩, hs, hx⟩ := Option.map_eq_some_iff.mp h
    obtain ⟨rfl, rfl⟩ := by simpa using hx
    simp only [List.mem_cons, not_or]
    exact ⟨fun hn => hb hn.symm, ih hs⟩

theorem one_le_charLength (b : UInt8) : 1 ≤ charLength b := by
  unfold charLength
  repeat' split
  all_goals omega

theorem newline_notMem_closeCharacter (he : escape ≠ some newline)
    (hx : ∀ x, escape = some x → ¬ [x, newline] <:+: data)
    (hc : ∀ before b rest, data = before ++ b :: rest → newline ∉ rest.take (charLength b - 1))
    (h : closeCharacter quote escape data = some (body, rest)) : newline ∉ body := by
  revert h
  fun_cases closeCharacter quote escape data with
  | case1 | case2 | case4 | case6 => simp
  | case3 b hb c after =>
    intro h
    obtain ⟨⟨body', after'⟩, hs, he'⟩ := Option.map_eq_some_iff.mp h
    obtain ⟨rfl, rfl⟩ := by simpa using he'
    simp only [List.mem_cons, not_or]
    refine ⟨fun hn => he (by rw [← hb, hn]), fun hn => hx b hb.symm ?_, newline_notMem_splitInLine hs⟩
    exact ⟨[], after, by rw [hn]; rfl⟩
  | case5 b after _ hb width =>
    intro h
    obtain ⟨rfl, -⟩ := Prod.mk.inj (Option.some.inj h)
    have hw : width = (charLength b - 1) + 1 := (Nat.sub_add_cancel (one_le_charLength b)).symm
    rw [hw, List.take_succ_cons]
    simp only [List.mem_cons, not_or]
    exact ⟨fun hn => hb hn.symm, hc [] b after rfl⟩

theorem KeepsLines.countsLines (hk : KeepsLines rules data)
    (hr : ∀ rule ∈ rules, rule.Countable) : CountsLines rules data where
  quoted delimiter escape hm := (hr _ hm).2
  line opener hm := (hr _ hm).2
  character quote escape ahead p rest ha ho hp := by
    have hm := ho.mem
    obtain ⟨-, hq, he⟩ := hr _ hm
    have hs : ahead.drop quote.length <:+ data := (List.drop_suffix _ _).trans ha.isSuffix
    have hk' := hk.of_suffix hs
    simp only [Rule.read] at hp
    split at hp
    · next body after hc =>
      obtain ⟨rfl, rfl⟩ := Head.piece.inj hp
      have hb := newline_notMem_closeCharacter (escapeByte_ne_newline he)
        (fun x hx => hk'.escape quote escape x hm hx) (hk'.character quote escape hm) hc
      simp [Piece.text, hq, hb]
    · obtain ⟨rfl, rfl⟩ := Head.piece.inj hp
      exact hq

theorem CountsLines.lines_of_read (h : CountsLines rules data) (ho : Rule.Opens rules rule data)
    (hr : rule.read data = .piece p rest) : p.lines = newlines p.text := by
  cases rule with
  | quoted delimiter escape =>
    obtain ⟨hd, he⟩ := h.quoted delimiter escape ho.mem
    simp only [Rule.read] at hr
    split at hr
    · next body lines after hc =>
      obtain ⟨rfl, rfl⟩ := Head.piece.inj hr
      have hl := closeQuoted_lines hd (escapeByte_ne_newline he) hc
      rw [Piece.text, newlines_append, newlines_eq_zero hd, Nat.zero_add]
      exact hl
    · cases hr
  | character quote escape =>
    rw [newlines_eq_zero (h.character quote escape data p rest .here ho hr)]
    simp only [Rule.read] at hr
    split at hr <;> obtain ⟨rfl, rfl⟩ := Head.piece.inj hr <;> rfl
  | line opener =>
    have hl := h.line opener ho.mem
    obtain ⟨rfl, rfl⟩ := Head.piece.inj hr
    have hb := newline_notMem_takeWhile (data.drop opener.length)
    exact (newlines_eq_zero (by simp [Piece.text, hl, hb])).symm
  | block opener closer =>
    simp only [Rule.read] at hr
    split at hr
    · cases hr
    · split at hr
      · obtain ⟨rfl, rfl⟩ := Head.piece.inj hr
        rfl
      · cases hr

theorem lines_plain (b : UInt8) : (Piece.plain b).lines = newlines (Piece.plain b).text := by
  rw [Piece.text_plain]
  unfold Piece.plain
  by_cases hb : b = newline
  · rw [if_pos hb, hb]
    rfl
  · have hn : newlines [b] = 0 := newlines_eq_zero (by simpa using fun hn => hb hn.symm)
    rw [if_neg hb, hn]
    split <;> rfl

theorem CountsLines.lines_of_mem_cut (h : CountsLines rules data) :
    ∀ p ∈ (cut rules data).list, p.lines = newlines p.text := by
  fun_induction cut rules data with
  | case1 => simp
  | case2 b data p rest hh tail ih =>
    intro q hq
    obtain rfl | hq := List.mem_cons.mp hq
    · cases hf : rules.find? (·.opensAt (b :: data)) with
      | none =>
        rw [head, hf] at hh
        obtain ⟨rfl, -⟩ := Head.piece.inj hh
        exact lines_plain b
      | some rule =>
        rw [head_of_opens hf] at hh
        exact h.lines_of_read hf hh
    · exact ih (h.of_head hh) q hq
  | case3 => simp
  | case4 => simp

theorem lines_of_mem_cut (hr : ∀ rule ∈ rules, rule.Countable) (hk : KeepsLines rules data) :
    ∀ p ∈ (cut rules data).list, p.lines = newlines p.text :=
  (hk.countsLines hr).lines_of_mem_cut

/-- The blocks of a source stand on the lines where their first comments open, and a string or
comment that stays open is reported on the line where it opens. The comments of the blocks, block by
block, are those of the source. -/
theorem lines_of_extract {language : Language} (hr : ∀ rule ∈ language.rules, rule.Countable)
    (hk : KeepsLines language.rules data) (path : String) :
    ∃ cs stop out, ∃ groups : List Group,
      (∀ cs' stop', Scan language.rules [] data cs' stop' ↔ cs' = cs ∧ stop' = stop) ∧
      extract path data language = some out ∧ groups.flatMap Group.all = cs ∧
      out.blocks.entries =
        groups.map (fun g => (1 + newlines g.first.before, g.text)) ∧
      out.issues = (stop.map fun before =>
        (⟨path, "", 1 + newlines before, .message (.just .unclosed)⟩ : Issue)).toList := by
  have hp : ∀ rule ∈ language.rules, rule.Proper := fun rule hm => (hr rule hm).proper
  have hlines := lines_of_mem_cut hr hk
  obtain ⟨groups, he, ha, hf, hl⟩ := Collected.blocks_ofPieces
    (fun n before => n = 1 + newlines before) (cut language.rules data).list rfl
    fun p hm n before hn => by rw [newlines_append, ← hlines p hm, hn, Nat.add_assoc]
  refine ⟨_, _, _, groups, fun cs' stop' => scan_iff hp, extract_of_proper hp path data, ha, ?_, ?_⟩
  · rw [he]
    refine List.map_congr_left fun g hg => ?_
    rw [Group.entry, hf g hg]
  · unfold Pieces.openFrom?
    cases (cut language.rules data).ending with
    | complete | endless => rfl
    | unclosed => simp [hl]

def tallSource : Bytes := ofText "\"x`\ny\" 'é' '\\'' #p\n#q\n=begin\nr\n=end #s\n \"open"

def tallLanguage : Language :=
  ⟨"rb", "Ruby", ["rb"], [.quoted (ofText "\"") (some '`'), .character (ofText "'") (some '\\'),
    .line (ofText "#"), .block (ofText "\n=begin") (ofText "\n=end")]⟩

theorem countable_tall : ∀ rule ∈ tallLanguage.rules, rule.Countable := by
  simp only [tallLanguage, List.forall_mem_cons, List.not_mem_nil, false_implies, implies_true]
  refine ⟨?_, ?_, ?_, ?_, trivial⟩ <;> decide_cbv

theorem tallSource_eq : tallSource =
    [34, 120, 96, 10, 121, 34, 32, 39, 195, 169, 39, 32, 39, 92, 39, 39, 32, 35, 112, 10, 35, 113, 10,
      61, 98, 101, 103, 105, 110, 10, 114, 10, 61, 101, 110, 100, 32, 35, 115, 10, 32, 34, 111, 112,
      101, 110] := by cbv

theorem keepsLines_tall : KeepsLines tallLanguage.rules tallSource where
  escape quote escape x hm hx := by
    obtain ⟨rfl, rfl⟩ : quote = ofText "'" ∧ escape = some '\\' := by simpa [tallLanguage] using hm
    obtain rfl : 0x5C = x := Option.some.inj hx
    rw [tallSource_eq]
    decide
  character quote escape _ := by
    apply notMem_take_of_tails
    rw [tallSource_eq]
    decide

theorem lines_of_extract_tall :
    ∃ cs before, Scan tallLanguage.rules [] tallSource cs (some before) ∧ 1 + newlines before = 7 ∧
      ∃ groups : List Group, groups.flatMap Group.all = cs ∧
        groups.map (fun g => (1 + newlines g.first.before, g.text)) =
          [(2, ofText "p\nq"), (3, ofText "\nr"), (6, ofText "s")] := by
  obtain ⟨cs, stop, out, groups, hs, ho, ha, he, hi⟩ :=
    lines_of_extract countable_tall keepsLines_tall "f.rb"
  have hx : (extract "f.rb" tallSource tallLanguage).map (·.blocks.entries) =
      some [(2, ofText "p\nq"), (3, ofText "\nr"), (6, ofText "s")] := by cbv
  have hx' : (extract "f.rb" tallSource tallLanguage).map (·.issues.map Issue.line) = some [7] := by
    cbv
  rw [ho] at hx hx'
  have hb : out.blocks.entries = [(2, ofText "p\nq"), (3, ofText "\nr"), (6, ofText "s")] :=
    Option.some.inj hx
  have hl : out.issues.map Issue.line = [7] := Option.some.inj hx'
  rw [hi] at hl
  cases stop with
  | none => cases hl
  | some before =>
    refine ⟨cs, before, (hs _ _).mpr ⟨rfl, rfl⟩, ?_, groups, ha, ?_⟩
    · simpa using hl
    · rw [← he, hb]

end CommentBlocks
