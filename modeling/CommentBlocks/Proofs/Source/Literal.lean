import CommentBlocks.Proofs.Source.Lines

namespace CommentBlocks

open Bytes

/-- A character literal takes a newline in, here seen from behind its opening quote: as the byte
behind the escape, or among the bytes that should belong to its character. -/
inductive TakesNewline (quote : Bytes) (escape : Option UInt8) : Bytes → Prop
  | escaped {x body after} (hx : escape = some x) (hb : newline ∉ body) :
    TakesNewline quote escape (x :: newline :: (body ++ quote ++ after))
  | covered {b body after} (hx : escape ≠ some b) (hn : b ≠ newline)
    (hl : body.length + 1 = charLength b) (hb : newline ∈ body) :
    TakesNewline quote escape (b :: (body ++ quote ++ after))

variable {quote data body rest : Bytes} {escape : Option UInt8}

theorem exists_splitInLine (hq : quote ≠ []) (hb : newline ∉ body) (after : Bytes) :
    ∃ front back, splitInLine quote (body ++ quote ++ after) = some (front, back) := by
  induction body with
  | nil =>
    have hp : quote.isPrefixOf (quote ++ after) = true :=
      List.isPrefixOf_iff_prefix.mpr (List.prefix_append _ _)
    obtain ⟨b, tail, ht⟩ := List.exists_cons_of_ne_nil (List.append_ne_nil_of_left_ne_nil hq after)
    rw [ht] at hp
    exact ⟨[], (b :: tail).drop quote.length, by rw [List.nil_append, ht, splitInLine, if_pos hp]⟩
  | cons b body ih =>
    simp only [List.mem_cons, not_or] at hb
    obtain ⟨front, back, hs⟩ := ih hb.2
    by_cases hp : quote.isPrefixOf (b :: (body ++ quote ++ after)) = true
    · exact ⟨[], (b :: (body ++ quote ++ after)).drop quote.length,
        by rw [List.cons_append, List.cons_append, splitInLine, if_pos hp]⟩
    · refine ⟨b :: front, back, ?_⟩
      rw [List.cons_append, List.cons_append, splitInLine, if_neg hp, if_neg (Ne.symm hb.1), hs]
      rfl

theorem closeCharacter_escaped {x c : UInt8} (hx : escape = some x) (data : Bytes) :
    closeCharacter quote escape (x :: c :: data) =
      (splitInLine quote data).map fun (body, after) => (x :: c :: body, after) := by
  rw [closeCharacter, if_pos hx.symm]

theorem closeCharacter_single {b : UInt8} (hq : quote ≠ []) (hx : escape ≠ some b)
    (hn : b ≠ newline) (hl : body.length + 1 = charLength b) (after : Bytes) :
    closeCharacter quote escape (b :: (body ++ quote ++ after)) = some (b :: body, after) := by
  have hw : charLength b = (b :: body).length := hl.symm
  have ha : b :: (body ++ quote ++ after) = (b :: body) ++ (quote ++ after) := by simp
  have hp : quote.isPrefixOf (quote ++ after) = true :=
    List.isPrefixOf_iff_prefix.mpr (List.prefix_append _ _)
  rw [closeCharacter.eq_def]
  dsimp only
  rw [if_neg (Ne.symm hx), if_neg hn, hw, ha, List.drop_left, List.take_left]
  simp [hp, hq]

theorem takesNewline_iff (hq : quote ≠ []) (he : escape ≠ some newline) :
    TakesNewline quote escape data ↔
      ∃ body rest, closeCharacter quote escape data = some (body, rest) ∧ newline ∈ body := by
  constructor
  · rintro (@⟨x, body, after, hx, hb⟩ | @⟨b, body, after, hx, hn, hl, hb⟩)
    · obtain ⟨front, back, hs⟩ := exists_splitInLine hq hb after
      exact ⟨x :: newline :: front, back, by rw [closeCharacter_escaped hx, hs]; rfl, by simp⟩
    · exact ⟨b :: body, after, closeCharacter_single hq hx hn hl after, List.mem_cons_of_mem _ hb⟩
  · rintro ⟨body, rest, hc, hm⟩
    revert hc
    fun_cases closeCharacter quote escape data with
    | case1 | case2 | case4 | case6 => simp
    | case3 b hb c after =>
      intro hc
      obtain ⟨⟨front, back⟩, hs, hp⟩ := Option.map_eq_some_iff.mp hc
      obtain ⟨rfl, rfl⟩ := by simpa using hp
      have hf := newline_notMem_splitInLine hs
      have hbn : newline ≠ b := fun hn => he (by rw [hn, hb])
      -- the escape is no newline and none stands before the quote, so it is the byte between
      obtain rfl : newline = c := by simpa [hf, hbn] using hm
      rw [← splitInLine_append hs]
      exact .escaped hb.symm hf
    | case5 b after hb hn width back hq =>
      intro hc
      obtain ⟨rfl, rfl⟩ := Prod.mk.inj (Option.some.inj hc)
      obtain ⟨hne, hp⟩ := (Bool.and_eq_true _ _).mp hq
      obtain ⟨n, hw⟩ := Nat.exists_eq_add_of_le' (one_le_charLength b)
      have hback : back = after.drop n := by simp [back, width, hw]
      rw [hback] at hne hp
      have hbody : after = after.take n ++ quote ++ (after.drop n).drop quote.length := by
        rw [List.append_assoc, append_drop_of_isPrefixOf hp, List.take_append_drop]
      have hlen : n < after.length := by simpa using hne
      have hm' : newline ∈ after.take n := by simpa [width, hw, Ne.symm hn] using hm
      rw [hbody]
      exact .covered (Ne.symm hb) hn (by rw [List.length_take, hw]; omega) hm'

/-- What is passed over from an opening quote on holds a newline exactly if the literal takes one
in. The line counter never moves on the way. An empty quote, which is found everywhere, is left out.
-/
theorem newline_mem_read_character_iff {quote data : Bytes} {escape : Option Char}
    (hne : quote ≠ []) (hq : newline ∉ quote) (he : escape ≠ some '\n')
    (hp : quote.isPrefixOf data = true) :
    ∃ p rest, (Rule.character quote escape).read data = .piece p rest ∧ p.text ++ rest = data ∧
      p.lines = 0 ∧
      (newline ∈ p.text ↔
        TakesNewline quote (Rule.escapeByte escape) (data.drop quote.length)) := by
  have ho : (Rule.character quote escape).opensAt data = true := by
    simp [Rule.opensAt, Rule.opener, hne, hp]
  have hiff : TakesNewline quote (Rule.escapeByte escape) (data.drop quote.length) ↔ _ :=
    takesNewline_iff hne (escapeByte_ne_newline he)
  cases hc : closeCharacter quote (Rule.escapeByte escape) (data.drop quote.length) with
  | none =>
    have hr : (Rule.character quote escape).read data =
        .piece (.code quote) (data.drop quote.length) := by simp [Rule.read, hc]
    refine ⟨_, _, hr, Rule.read_append ho hr, rfl, ?_⟩
    simpa [hiff, hc, Piece.text] using hq
  | some found =>
    obtain ⟨body, rest⟩ := found
    have hr : (Rule.character quote escape).read data =
        .piece (.literal (quote ++ body ++ quote) 0) rest := by simp [Rule.read, hc]
    refine ⟨_, _, hr, Rule.read_append ho hr, rfl, ?_⟩
    simp [hiff, hc, Piece.text, hq]

def crossingSource : Bytes := ofText "'\\\n' // a\n"

def crossingLanguage : Language :=
  ⟨"rust", "Rust", ["rs"], [.character (ofText "'") (some '\\'), .line (ofText "//")]⟩

theorem newline_mem_read_character_crossing :
    ofText "'" ≠ [] ∧ newline ∉ ofText "'" ∧ (ofText "'").isPrefixOf crossingSource = true ∧
      ∃ p rest, (Rule.character (ofText "'") (some '\\')).read crossingSource = .piece p rest ∧
        newline ∈ p.text ∧ p.lines = 0 := by
  have hne : ofText "'" ≠ [] := by decide_cbv
  have hq : newline ∉ ofText "'" := by decide_cbv
  have hp : (ofText "'").isPrefixOf crossingSource = true := by cbv
  obtain ⟨p, rest, hr, -, hl, hiff⟩ :=
    @newline_mem_read_character_iff _ _ (some '\\') hne hq (by decide) hp
  have hd : crossingSource.drop (ofText "'").length =
      0x5C :: newline :: ([] ++ ofText "'" ++ ofText " // a\n") := by cbv
  refine ⟨hne, hq, hp, p, rest, hr, hiff.mpr ?_, hl⟩
  rw [hd]
  exact .escaped (by cbv) List.not_mem_nil

/-- A quote that is closed on the next line only is not left as code: the literal goes over the
newline, and the comment behind it stands on the first line although a newline comes before it. -/
theorem character_literal_leaves_line :
    ¬ (∀ (quote data : Bytes) (escape : Option Char), quote ≠ [] → newline ∉ quote →
      escape ≠ some '\n' → quote.isPrefixOf data = true → ∀ p rest,
        (Rule.character quote escape).read data = .piece p rest → newline ∉ p.text) ∧
    (∃ before, Scan crossingLanguage.rules [] crossingSource
      [⟨before, .line (ofText "//"), ofText " a"⟩] none ∧ newlines before = 1) ∧
    (extract "f.rs" crossingSource crossingLanguage).map (·.blocks.entries) =
      some [(1, ofText " a")] := by
  have hr : (Rule.character (ofText "'") (some '\\')).read crossingSource =
      .piece (.literal (ofText "'\\\n'") 0) (ofText " // a\n") := by cbv
  have hp : ∀ rule ∈ crossingLanguage.rules, rule.Proper := by
    simp [crossingLanguage, Rule.Proper, ofText, ofChars]
  refine ⟨fun h => ?_, ⟨ofText "'\\\n' ", (scan_iff hp).mpr ⟨?_, ?_⟩, by cbv⟩, by cbv⟩
  · have hn : newline ∉ (Piece.literal (ofText "'\\\n'") 0).text :=
      h (ofText "'") crossingSource (some '\\') (by decide_cbv) (by decide_cbv) (by decide) (by cbv)
        _ _ hr
    exact hn (by decide_cbv)
  · cbv
  · cbv

end CommentBlocks
