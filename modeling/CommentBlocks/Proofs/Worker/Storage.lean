import CommentBlocks.Proofs.Charset.Stored
import CommentBlocks.Proofs.Source.Adjacent
import CommentBlocks.Proofs.Text.Characters
import CommentBlocks.Proofs.Worker.Alone

namespace CommentBlocks

open Bytes Charset

/-- The rule opens with a text that does not begin with the byte order mark. -/
def Rule.OpensWithText (rule : Rule) : Prop :=
  ∃ c cs, rule.opener = ofChars (c :: cs) ∧ c ≠ '\uFEFF'

variable {rule : Rule} {language : Language} {data : Bytes} {b : UInt8}

theorem Rule.OpensWithText.exists_append (hr : rule.OpensWithText) (ho : rule.opensAt data = true) :
    ∃ c x, c ≠ '\uFEFF' ∧ data = String.utf8EncodeChar c ++ x := by
  obtain ⟨c, cs, hc, hne⟩ := hr
  obtain ⟨rest, rfl⟩ := List.isPrefixOf_iff_prefix.mp (Rule.opener_isPrefixOf ho)
  refine ⟨c, ofChars cs ++ rest, hne, ?_⟩
  rw [hc, ofChars, List.flatMap_cons, List.append_assoc]
  rfl

theorem opensAt_of_not_first (hr : rule.OpensWithText) (hb : ¬ b.IsUTF8FirstByte) (data : Bytes) :
    rule.opensAt (b :: data) = false := by
  refine Bool.eq_false_iff.mpr fun ho => hb ?_
  obtain ⟨c, x, -, he⟩ := hr.exists_append ho
  obtain ⟨a, as, ha⟩ := List.exists_cons_of_ne_nil (String.utf8EncodeChar_ne_nil (c := c))
  have hf := UInt8.isUTF8FirstByte_getElem_zero_utf8EncodeChar (c := c)
  simp only [ha, List.getElem_cons_zero] at hf
  rw [ha] at he
  rwa [(List.cons.inj he).1]

theorem opensAt_mark (hr : rule.OpensWithText) (data : Bytes) :
    rule.opensAt (mark ++ data) = false := by
  refine Bool.eq_false_iff.mpr fun ho => ?_
  obtain ⟨c, x, hne, he⟩ := hr.exists_append ho
  have hm : mark = String.utf8EncodeChar '\uFEFF' := by decide
  rw [hm] at he
  exact hne (eq_of_utf8EncodeChar_append he).symm

/-- A byte of code in front of a source changes nothing in what is extracted. -/
theorem extract_cons_code (hn : b ≠ newline) (hb : b ∉ blankBytes)
    (ho : ∀ rule ∈ language.rules, rule.opensAt (b :: data) = false) (path : String) :
    extract path (b :: data) language = extract path data language := by
  have hh := head_of_plain ho
  rw [plain_of_code hn hb] at hh
  unfold extract
  rw [cut_of_piece hh]
  rfl

theorem extract_mark (hr : ∀ rule ∈ language.rules, rule.OpensWithText) (path : String)
    (data : Bytes) : extract path (mark ++ data) language = extract path data language := by
  calc extract path (0xEF :: 0xBB :: 0xBF :: data) language
    _ = extract path (0xBB :: 0xBF :: data) language :=
        extract_cons_code (by decide) (by decide) (fun rule hm => opensAt_mark (hr rule hm) data) path
    _ = extract path (0xBF :: data) language :=
        extract_cons_code (by decide) (by decide)
          (fun rule hm => opensAt_of_not_first (hr rule hm) (by decide) _) path
    _ = extract path data language :=
        extract_cons_code (by decide) (by decide)
          (fun rule hm => opensAt_of_not_first (hr rule hm) (by decide) _) path

theorem extract_of_stored (hr : ∀ rule ∈ language.rules, rule.OpensWithText) {t : List Char}
    {declared : Option Charset} {b : Bytes} (hb : Stored t declared b) (path : String) :
    ∃ text, toUtf8 declared b = .ok text ∧
      extract path text language = extract path (ofChars t) language := by
  obtain ht | ht := hb.toUtf8_eq
  · exact ⟨_, ht, rfl⟩
  · exact ⟨_, ht, extract_mark hr path _⟩

theorem issues_of_extract {data : Bytes} {path : String} {out : Extract}
    (h : extract path data language = some out) :
    (Outcome.extracted out).issues path = out.issues := by
  simp only [extract] at h
  split at h <;> cases h <;> simp [Outcome.issues]

/-- A text is extracted to one result, and the work on a file yields that result in whichever form
the text is stored in the file. -/
theorem perform_stored (hp : ∀ rule ∈ language.rules, rule.Proper)
    (hr : ∀ rule ∈ language.rules, rule.OpensWithText) (t : List Char) (path : String) :
    ∃ out, extract path (ofChars t) language = some out ∧
      ∀ declared b, Stored t declared b →
        ∀ (reader : Reader) (breakdown : String → String) (files : List String) (c : Commons),
          reader path = .data b → c.free ≠ 0 → c.capacity ≠ 0 →
          c.perform ⟨reader, extract, breakdown⟩ ⟨⟨files, declared, language⟩, path⟩ =
            (c.drain.collect,
              ⟨c.heard (out.blocks.entries.map fun (line, data) => ⟨path, line, data⟩),
                out.issues⟩) := by
  obtain ⟨out, hx⟩ : ∃ out, extract path (ofChars t) language = some out :=
    ⟨_, extract_of_proper hp path (ofChars t)⟩
  refine ⟨out, hx, ?_⟩
  intro declared b hb reader breakdown files c hd hf hc
  obtain ⟨text, ht, he⟩ := extract_of_stored hr hb path
  have ho : Outcome.of ⟨reader, extract, breakdown⟩ ⟨files, declared, language⟩ path =
      .extracted out := by
    simp only [Outcome.of, hd, Outcome.ofData, ht, he, hx]
  rw [Commons.perform_eq hf hc, ho, Outcome.blocks, issues_of_extract hx]

def wideText : List Char := ['/', '/', 'é', '😀', '\n', '/', '*', 'a', '*', '/', ' ', '/', '*']

theorem perform_stored_mixed :
    ∃ b, Stored wideText (some .shiftJis) b ∧
      ((Commons.start 1 1).perform ⟨fun _ => .data b, extract, id⟩
        ⟨⟨["f.go"], some .shiftJis, mixedLanguage⟩, "f.go"⟩).2 =
          ⟨[⟨"f.go", 1, ofChars ['é', '😀']⟩, ⟨"f.go", 2, ofChars ['a']⟩],
            [⟨"f.go", "", 2, .message (.just .unclosed)⟩]⟩ := by
  have hp : ∀ rule ∈ mixedLanguage.rules, rule.Proper := by
    simp [mixedLanguage, Rule.Proper, ofText, ofChars]
  have hr : ∀ rule ∈ mixedLanguage.rules, rule.OpensWithText := by
    simp only [mixedLanguage, List.forall_mem_cons]
    exact ⟨⟨'"', [], rfl, by decide⟩, ⟨'/', ['/'], rfl, by decide⟩, ⟨'/', ['*'], rfl, by decide⟩,
      List.forall_mem_nil _⟩
  obtain ⟨out, ho, h⟩ := perform_stored hp hr wideText "f.go"
  have hx : (extract "f.go" (ofChars wideText) mixedLanguage).map
      (fun out => (out.blocks.entries, out.issues)) =
      some ([(1, ofChars ['é', '😀']), (2, ofChars ['a'])],
        [⟨"f.go", "", 2, .message (.just .unclosed)⟩]) := by cbv
  rw [ho] at hx
  obtain ⟨hb, hi⟩ := Prod.mk.inj (Option.some.inj hx)
  refine ⟨_, .big, ?_⟩
  rw [h _ _ .big _ _ _ _ rfl (by decide) (by decide), hb, hi]
  rfl

end CommentBlocks
