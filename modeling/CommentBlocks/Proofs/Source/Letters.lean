import CommentBlocks.Proofs.Source.Quoted
import CommentBlocks.Proofs.Text.Characters

namespace CommentBlocks

open Bytes

/-- A character literal with its quotes: a character, or an escape with the byte behind it and the
rest of the line up to the next quote. -/
inductive Spelled (quote : Bytes) (escape : Option UInt8) : Bytes → Prop
  | character {c : Char} (hn : c ≠ '\n') (hx : escape ≠ (String.utf8EncodeChar c).head?) :
    Spelled quote escape (quote ++ String.utf8EncodeChar c ++ quote)
  | escaped {x b body} (hx : escape = some x) (hn : b ≠ newline) (hb : newline ∉ body)
    (hq : ClearOf quote body) : Spelled quote escape (quote ++ x :: b :: body ++ quote)

theorem charLength_single : ∀ n < 128, charLength (.ofNat n) = 1 := by decide

theorem charLength_double : ∀ n < 32, charLength (.ofNat (n + 192)) = 2 := by decide

theorem charLength_triple : ∀ n < 16, charLength (.ofNat (n + 224)) = 3 := by decide

theorem charLength_quadruple : ∀ n < 8, charLength (.ofNat (n + 240)) = 4 := by decide

theorem length_utf8EncodeChar_eq {c : Char} {b : UInt8} {rest : Bytes}
    (h : String.utf8EncodeChar c = b :: rest) : rest.length + 1 = charLength b := by
  revert h
  fun_cases String.utf8EncodeChar c with
  | case1 v hv =>
    intro h
    obtain ⟨rfl, rfl⟩ := List.cons.inj h
    exact (charLength_single v (by omega)).symm
  | case2 v _ _ =>
    intro h
    obtain ⟨rfl, rfl⟩ := List.cons.inj h
    exact (charLength_double _ (by omega)).symm
  | case3 v _ _ _ =>
    intro h
    obtain ⟨rfl, rfl⟩ := List.cons.inj h
    exact (charLength_triple _ (by omega)).symm
  | case4 v _ _ _ =>
    intro h
    obtain ⟨rfl, rfl⟩ := List.cons.inj h
    exact (charLength_quadruple _ (by omega)).symm

theorem first_ne_newline {c : Char} {b : UInt8} {rest : Bytes} (hn : c ≠ '\n')
    (h : String.utf8EncodeChar c = b :: rest) : b ≠ newline := by
  rintro rfl
  have hl := length_utf8EncodeChar_eq h
  have hr : rest = [] := List.length_eq_zero_iff.mp (Nat.succ.inj hl)
  subst hr
  have hbytes : String.utf8EncodeChar '\n' = [newline] := rfl
  exact hn (eq_of_utf8EncodeChar_append (x := []) (y := []) (by rw [h, hbytes]))

theorem Spelled.exists_letter {quote literal : Bytes} {escape : Option UInt8}
    (h : Spelled quote escape literal) :
    ∃ body, literal = quote ++ body ++ quote ∧ Letter quote escape body := by
  cases h with
  | @character c hn hx =>
    refine ⟨_, rfl, ?_⟩
    obtain ⟨b, rest, hc⟩ := List.exists_cons_of_ne_nil (String.utf8EncodeChar_ne_nil (c := c))
    rw [hc] at hx ⊢
    exact .single hx (first_ne_newline hn hc) (length_utf8EncodeChar_eq hc)
  | escaped hx hn hb hq => exact ⟨_, rfl, .escaped hx hb hq⟩

theorem Extract.below_zero (out : Extract) : out.below 0 = out := by
  have hl : lower 0 = id := rfl
  have hi : (fun i : Issue => { i with line := i.line + 0 }) = id := rfl
  have hb : out.blocks.below 0 = out.blocks := ByLine.eq_of_entries (by simp [ByLine.below, hl])
  rw [below, hb, hi, List.map_id]

/-- A closed character literal in front of a source changes nothing in what is extracted: what
stands between its quotes opens no string and no comment, and a quote behind an escape does not
close it. -/
theorem extract_spelled {language : Language} (hp : ∀ rule ∈ language.rules, rule.Proper)
    {quote literal : Bytes} {escape : Option Char}
    (hl : Spelled quote (Rule.escapeByte escape) literal) (post : Bytes)
    (ho : Rule.Opens language.rules (.character quote escape) (literal ++ post)) (path : String) :
    ∃ out, extract path post language = some out ∧
      extract path (literal ++ post) language = some out := by
  have hq : quote ≠ [] := hp _ ho.mem
  obtain ⟨body, rfl, hb⟩ := hl.exists_letter
  have hout := extract_of_proper hp path post
  refine ⟨_, hout, ?_⟩
  rw [extract_literal_append ho (.letter hb) (by simp [hq]) path, hout, Option.map_some,
    Extract.below_zero]

def letterLanguage : Language :=
  ⟨"rust", "Rust", ["rs"], [.quoted (ofText "\"") (some '\\'), .character (ofText "'") (some '\\'),
    .line (ofText "//"), .block (ofText "/*") (ofText "*/")]⟩

theorem extract_spelled_marks :
    ∃ out, extract "f.rs" (ofText "//a\n\"") letterLanguage = some out ∧
      extract "f.rs" (ofText "'界'" ++ ofText "//a\n\"") letterLanguage = some out ∧
      extract "f.rs" (ofText "'\\'\"/*'" ++ ofText "//a\n\"") letterLanguage = some out ∧
      out.blocks.entries = [(1, ofText "a")] ∧ out.issues.map Issue.line = [2] := by
  have hp : ∀ rule ∈ letterLanguage.rules, rule.Proper := by
    simp [letterLanguage, Rule.Proper, ofText, ofChars]
  have hs : Spelled (ofText "'") (Rule.escapeByte (some '\\')) (ofText "'界'") :=
    .character (c := '界') (by decide) (by decide)
  have ht : ofText "'\\'\"/*'" = ofText "'" ++ 0x5C :: 0x27 :: ofText "\"/*" ++ ofText "'" := by cbv
  have he : Spelled (ofText "'") (Rule.escapeByte (some '\\')) (ofText "'\\'\"/*'") := by
    rw [ht]
    exact .escaped rfl (by decide) (by decide_cbv) (by decide_cbv)
  obtain ⟨out, ho, hs'⟩ := extract_spelled hp hs (ofText "//a\n\"") (by cbv) "f.rs"
  obtain ⟨out', ho', he'⟩ := extract_spelled hp he (ofText "//a\n\"") (by cbv) "f.rs"
  obtain rfl : out = out' := Option.some.inj (ho.symm.trans ho')
  have hx : (extract "f.rs" (ofText "//a\n\"") letterLanguage).map
      (fun out => (out.blocks.entries, out.issues.map Issue.line)) =
        some ([(1, ofText "a")], [2]) := by cbv
  rw [ho] at hx
  obtain ⟨hb, hi⟩ := Prod.mk.inj (Option.some.inj hx)
  exact ⟨out, ho, hs', he', hb, hi⟩

end CommentBlocks
