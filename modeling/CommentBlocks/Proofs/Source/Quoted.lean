import CommentBlocks.Proofs.Source.Unclosed

namespace CommentBlocks

open Bytes

/-- The scan comes to a string behind `pre` and passes over it up to `post`; between its delimiters
stands `content`. -/
structure StringAt (rules : List Rule) (delimiter : Bytes) (escape : Option Char)
    (pre content post : Bytes) : Prop where
  reached : Reaches rules (pre ++ (delimiter ++ content ++ delimiter ++ post))
    (delimiter ++ content ++ delimiter ++ post)
  opens : Rule.Opens rules (.quoted delimiter escape) (delimiter ++ content ++ delimiter ++ post)
  closes : ∃ p, (Rule.quoted delimiter escape).read (delimiter ++ content ++ delimiter ++ post) =
    .piece p post

section content

variable {rules : List Rule} {rule : Rule} {delimiter pre content post data data' : Bytes}
  {escape : Option Char} {p : Piece}

theorem cut_of_read (ho : Rule.Opens rules rule (p.text ++ post)) (hr : rule.Reads p post)
    (ht : p.text ≠ []) :
    cut rules (p.text ++ post) = ⟨p :: (cut rules post).list, (cut rules post).ending⟩ := by
  cases hd : p.text ++ post with
  | nil => exact absurd (List.append_eq_nil_iff.mp hd).1 ht
  | cons b rest =>
    have hh := hr.read ho.opensAt
    rw [hd] at ho hh
    exact cut_of_piece ((head_of_opens ho).trans hh)

theorem StringAt.cut_eq (h : StringAt rules delimiter escape pre content post)
    (he : escape ≠ some '\n') :
    ∃ text, cut rules (pre ++ (delimiter ++ content ++ delimiter ++ post)) =
      ⟨(cut rules pre).list ++ .literal text (newlines content) :: (cut rules post).list,
        (cut rules post).ending⟩ := by
  obtain ⟨p, hc⟩ := h.closes
  obtain ⟨hd, hr⟩ := (Rule.read_eq_piece_iff h.opens.opensAt).mp hc
  have hn := Rule.text_ne_nil_of_read h.opens.opensAt hc
  obtain ⟨-, hcut⟩ := h.reached.cut_eq rfl
  have ho := h.opens
  rw [hd] at ho
  rw [hcut, hd, cut_of_read ho hr hn]
  cases hr with
  | @quoted _ _ content' lines _ hx =>
    have hs : content' = content := by
      simpa [Piece.text] using hd.symm
    rw [← hs, ← hx.lines_eq (escapeByte_ne_newline he)]
    exact ⟨_, rfl⟩

theorem extract_congr {language : Language}
    (hc : Collected.ofPieces (cut language.rules data).list =
      Collected.ofPieces (cut language.rules data').list)
    (he : (cut language.rules data).ending = (cut language.rules data').ending) (path : String) :
    extract path data language = extract path data' language := by
  simp only [extract, hc, he]

end content

/-- Two sources that differ in the content of one string only, where both contents hold the same
number of newlines, give the same blocks and the same issues. -/
theorem extract_of_stringAt {language : Language} (hp : ∀ rule ∈ language.rules, rule.Proper)
    {delimiter pre content content' post : Bytes} {escape : Option Char} (he : escape ≠ some '\n')
    (h : StringAt language.rules delimiter escape pre content post)
    (h' : StringAt language.rules delimiter escape pre content' post)
    (hn : newlines content = newlines content') (path : String) :
    ∃ out, extract path (pre ++ (delimiter ++ content ++ delimiter ++ post)) language = some out ∧
      extract path (pre ++ (delimiter ++ content' ++ delimiter ++ post)) language = some out := by
  obtain ⟨text, hc⟩ := h.cut_eq he
  obtain ⟨text', hc'⟩ := h'.cut_eq he
  refine ⟨_, extract_of_proper hp path _, ?_⟩
  rw [← extract_of_proper hp path]
  apply extract_congr
  · rw [hc, hc', Collected.ofPieces, Collected.ofPieces, List.foldl_append, List.foldl_append, hn]
    rfl
  · rw [hc, hc']

theorem stringAt_marks : StringAt mixedLanguage.rules (ofText "\"") (some '\\') (ofText "/*\"*/")
    (ofText "//\\\"\n/*") (ofText "//e\n/*") where
  reached := by
    have hd : ofText "/*\"*/" ++ (ofText "\"" ++ ofText "//\\\"\n/*" ++ ofText "\"" ++
        ofText "//e\n/*") = 47 :: ofText "*\"*/\"//\\\"\n/*\"//e\n/*" := by cbv
    rw [hd]
    apply Reaches.next (p := .blockComment (ofText "/*") (ofText "\"") (ofText "*/"))
    · cbv
    · exact .here
  opens := by cbv
  closes := ⟨.literal (ofText "\"//\\\"\n/*\"") 1, by cbv⟩

theorem stringAt_lineEnd : StringAt mixedLanguage.rules (ofText "\"") (some '\\') (ofText "/*\"*/")
    (ofText "\\\n") (ofText "//e\n/*") where
  reached := by
    have hd : ofText "/*\"*/" ++ (ofText "\"" ++ ofText "\\\n" ++ ofText "\"" ++
        ofText "//e\n/*") = 47 :: ofText "*\"*/\"\\\n\"//e\n/*" := by cbv
    rw [hd]
    apply Reaches.next (p := .blockComment (ofText "/*") (ofText "\"") (ofText "*/"))
    · cbv
    · exact .here
  opens := by cbv
  closes := ⟨.literal (ofText "\"\\\n\"") 1, by cbv⟩

theorem extract_of_stringAt_marks :
    ∃ out, extract "f.go" (ofText "/*\"*/" ++ (ofText "\"" ++ ofText "//\\\"\n/*" ++ ofText "\"" ++
        ofText "//e\n/*")) mixedLanguage = some out ∧
      extract "f.go" (ofText "/*\"*/" ++ (ofText "\"" ++ ofText "\\\n" ++ ofText "\"" ++
        ofText "//e\n/*")) mixedLanguage = some out ∧
      out.blocks.entries = [(1, ofText "\""), (2, ofText "e")] ∧ out.issues.map Issue.line = [3] := by
  have hp : ∀ rule ∈ mixedLanguage.rules, rule.Proper := by
    simp [mixedLanguage, Rule.Proper, ofText, ofChars]
  have hn : newlines (ofText "//\\\"\n/*") = newlines (ofText "\\\n") := by cbv
  obtain ⟨out, ho, ho'⟩ :=
    extract_of_stringAt hp (by decide) stringAt_marks stringAt_lineEnd hn "f.go"
  have hx : (extract "f.go" (ofText "/*\"*/" ++ (ofText "\"" ++ ofText "\\\n" ++ ofText "\"" ++
      ofText "//e\n/*")) mixedLanguage).map (fun out => (out.blocks.entries, out.issues.map Issue.line)) =
        some ([(1, ofText "\""), (2, ofText "e")], [3]) := by cbv
  rw [ho'] at hx
  obtain ⟨hb, hi⟩ := Prod.mk.inj (Option.some.inj hx)
  exact ⟨out, ho, ho', hb, hi⟩

def lower (n : Nat) (e : Nat × Bytes) : Nat × Bytes := (e.1 + n, e.2)

def Joined.below (n : Nat) (j : Joined) : Joined :=
  { j with first := j.first + n, last := j.last + n }

namespace Collected

def below (n : Nat) (c : Collected) : Collected where
  line := c.line + n
  joined := c.joined.map (Joined.below n)
  found := c.found.map (lower n)

theorem settle_below (n : Nat) (c : Collected) : (c.below n).settle = c.settle.below n := by
  cases hj : c.joined <;> simp [settle, below, hj, Joined.below, Joined.text, lower]

theorem take_below (n : Nat) (c : Collected) (p : Piece) : (c.below n).take p = (c.take p).below n := by
  cases p with
  | newline => simp [take, below, Nat.add_right_comm]
  | blank => rfl
  | code => exact c.settle_below n
  | literal text lines =>
    simp only [take, settle_below]
    simp [below, Nat.add_right_comm]
  | blockComment opener body closer =>
    simp only [take, settle_below]
    simp [below, lower, Nat.add_right_comm]
  | lineComment opener body =>
    cases hj : c.joined with
    | none => simp [take, below, hj, Joined.below]
    | some j =>
      -- a comment is on the line behind another one wherever both of them stand
      have hn : j.last + n + 1 = c.line + n ↔ j.last + 1 = c.line := by omega
      by_cases ha : j.opener = opener ∧ j.last + 1 = c.line
      · simp [take, below, hj, Joined.below, hn, ha]
      · simp [take, below, hj, Joined.below, hn, ha, settle, Joined.text, lower]

theorem foldl_take_below (n : Nat) (ps : List Piece) (c : Collected) :
    ps.foldl take (c.below n) = (ps.foldl take c).below n := by
  induction ps generalizing c with
  | nil => rfl
  | cons p ps ih => rw [List.foldl_cons, List.foldl_cons, take_below, ih]

end Collected

namespace ByLine

def below (n : Nat) (m : ByLine) : ByLine where
  entries := m.entries.map (lower n)
  ascending := by
    rw [List.pairwise_map]
    exact m.ascending.imp fun h => Nat.add_lt_add_right h n

theorem eq_of_entries {m m' : ByLine} (h : m.entries = m'.entries) : m = m' := by
  cases m
  cases m'
  cases h
  rfl

section map

variable {g : Nat → Nat} {t : Bytes → Bytes}

theorem entries_prepend_map (hl : StrictMono g)
    (ht : ∀ a b, t (a ++ newline :: b) = t a ++ newline :: t b) (e : Nat × Bytes) {m m' : ByLine}
    (hm : m'.entries = m.entries.map fun e => (g e.1, t e.2)) :
    (m'.prepend (g e.1) (t e.2)).entries = (m.prepend e.1 e.2).entries.map fun e => (g e.1, t e.2) := by
  simp only [prepend, hm]
  induction m.entries with
  | nil => rfl
  | cons first entries ih =>
    by_cases hlt : e.1 < first.1
    · simp [alterLine, hl.lt_iff_lt, hlt]
    · by_cases heq : e.1 = first.1
      · simp [alterLine, heq, ht]
      · simpa [alterLine, hl.lt_iff_lt, hl.injective.eq_iff, hlt, heq] using ih

theorem entries_ofFound_map (hl : StrictMono g)
    (ht : ∀ a b, t (a ++ newline :: b) = t a ++ newline :: t b) (found : List (Nat × Bytes)) :
    (ofFound (found.map fun e => (g e.1, t e.2))).entries =
      (ofFound found).entries.map fun e => (g e.1, t e.2) := by
  have hf (m m' : ByLine) (hm : m'.entries = m.entries.map fun e => (g e.1, t e.2)) :
      ((found.map fun e => (g e.1, t e.2)).foldl (fun m e => m.prepend e.1 e.2) m').entries =
        (found.foldl (fun m e => m.prepend e.1 e.2) m).entries.map fun e => (g e.1, t e.2) := by
    induction found generalizing m m' with
    | nil => exact hm
    | cons e found ih => exact ih (m.prepend e.1 e.2) _ (entries_prepend_map hl ht e hm)
  exact hf empty empty rfl

end map

theorem ofFound_lower (n : Nat) (found : List (Nat × Bytes)) :
    ofFound (found.map (lower n)) = (ofFound found).below n :=
  eq_of_entries (entries_ofFound_map (fun _ _ h => Nat.add_lt_add_right h n) (t := id)
    (fun _ _ => rfl) found)

end ByLine

theorem Collected.blocks_below (n : Nat) (c : Collected) : (c.below n).blocks = c.blocks.below n := by
  rw [blocks, settle_below, blocks]
  exact ByLine.ofFound_lower n c.settle.found

def Extract.below (n : Nat) (out : Extract) : Extract where
  blocks := out.blocks.below n
  issues := out.issues.map fun i => { i with line := i.line + n }

/-- A literal at the head of a source moves down what is found behind it, and does nothing else. -/
theorem extract_literal_append {language : Language} {rule : Rule} {text post : Bytes} {n : Nat}
    (ho : Rule.Opens language.rules rule (text ++ post)) (hr : rule.Reads (.literal text n) post)
    (ht : text ≠ []) (path : String) :
    extract path (text ++ post) language = (extract path post language).map (Extract.below n) := by
  have hcut : cut language.rules (text ++ post) =
      ⟨.literal text n :: (cut language.rules post).list, (cut language.rules post).ending⟩ :=
    cut_of_read ho hr ht
  have hfold : Collected.ofPieces (.literal text n :: (cut language.rules post).list) =
      (Collected.ofPieces (cut language.rules post).list).below n :=
    Collected.foldl_take_below n _ .start
  simp only [extract, hcut, hfold, Collected.blocks_below]
  cases (cut language.rules post).ending <;> rfl

def escapeAll (e : UInt8) (delimiter : Bytes) : Bytes → Bytes
  | [] => []
  | b :: rest =>
    if b = e ∨ delimiter.head? = some b then e :: b :: escapeAll e delimiter rest
    else b :: escapeAll e delimiter rest

section escape

variable {delimiter : Bytes} {e : UInt8}

theorem not_isPrefix_cons {b : UInt8} (hd : delimiter ≠ []) (hb : delimiter.head? ≠ some b)
    (rest : Bytes) : ¬ delimiter <+: b :: rest := by
  obtain ⟨d, ds, rfl⟩ := List.exists_cons_of_ne_nil hd
  intro hp
  exact hb (congrArg some (List.cons_prefix_cons.mp hp).1)

theorem content_escapeAll (hd : delimiter ≠ []) (he : delimiter.head? ≠ some e) (content : Bytes) :
    Content delimiter (some e) (escapeAll e delimiter content) (newlines content) := by
  induction content with
  | nil => exact .nil
  | cons b content ih =>
    rw [newlines_cons, escapeAll]
    by_cases hb : b = e ∨ delimiter.head? = some b
    · rw [if_pos hb]
      exact .escaped rfl (not_isPrefix_cons hd he _) ih
    · rw [if_neg hb]
      obtain ⟨hbe, hbd⟩ := not_or.mp hb
      exact .byte (fun h => hbe (Option.some.inj h).symm) (not_isPrefix_cons hd hbd _) ih

end escape

/-- A string whose content is escaped is passed over whole: what is found behind it is what would be
found there alone, as many lines further down as the content has newlines. -/
theorem extract_escapeAll {language : Language} (hp : ∀ rule ∈ language.rules, rule.Proper)
    {delimiter : Bytes} {escape : Option Char} {e : UInt8} (hx : Rule.escapeByte escape = some e)
    (he : delimiter.head? ≠ some e) (content post : Bytes)
    (ho : Rule.Opens language.rules (.quoted delimiter escape)
      (delimiter ++ escapeAll e delimiter content ++ delimiter ++ post)) (path : String) :
    ∃ out, extract path post language = some out ∧
      extract path (delimiter ++ escapeAll e delimiter content ++ delimiter ++ post) language =
        some (out.below (newlines content)) := by
  have hd : delimiter ≠ [] := hp _ ho.mem
  have hc : Content delimiter (Rule.escapeByte escape) (escapeAll e delimiter content)
      (newlines content) := by
    rw [hx]
    exact content_escapeAll hd he content
  rw [List.append_assoc delimiter] at ho ⊢
  have hout := extract_of_proper hp path post
  refine ⟨_, hout, ?_⟩
  rw [extract_literal_append ho (.quoted hc) (by simp [hd]) path, hout]
  rfl

def tripleLanguage : Language :=
  ⟨"swift", "Swift", ["swift"], [.quoted (ofText "\"\"\"") (some '\\'), .line (ofText "//")]⟩

theorem extract_escapeAll_triple :
    ∃ out, extract "f.swift" (ofText "//x\n\"\"\"") tripleLanguage = some out ∧
      escapeAll 0x5C (ofText "\"\"\"") (ofText "\\\"\"\"\n//\\\n") =
        ofText "\\\\\\\"\\\"\\\"\n//\\\\\n" ∧
      (extract "f.swift" (ofText "\"\"\"" ++ escapeAll 0x5C (ofText "\"\"\"")
        (ofText "\\\"\"\"\n//\\\n") ++ ofText "\"\"\"" ++ ofText "//x\n\"\"\"") tripleLanguage) =
          some (out.below 2) ∧
      out.blocks.entries = [(1, ofText "x")] ∧ out.issues.map Issue.line = [2] := by
  have hp : ∀ rule ∈ tripleLanguage.rules, rule.Proper := by
    simp [tripleLanguage, Rule.Proper, ofText, ofChars]
  have ho : Rule.Opens tripleLanguage.rules (.quoted (ofText "\"\"\"") (some '\\'))
      (ofText "\"\"\"" ++ escapeAll 0x5C (ofText "\"\"\"") (ofText "\\\"\"\"\n//\\\n") ++
        ofText "\"\"\"" ++ ofText "//x\n\"\"\"") := by cbv
  have hn : newlines (ofText "\\\"\"\"\n//\\\n") = 2 := by cbv
  have he : (ofText "\"\"\"").head? ≠ some 0x5C := by decide_cbv
  obtain ⟨out, hpost, hall⟩ := extract_escapeAll hp rfl he _ _ ho "f.swift"
  have hx : (extract "f.swift" (ofText "//x\n\"\"\"") tripleLanguage).map
      (fun out => (out.blocks.entries, out.issues.map Issue.line)) =
        some ([(1, ofText "x")], [2]) := by cbv
  rw [hpost] at hx
  obtain ⟨hb, hi⟩ := Prod.mk.inj (Option.some.inj hx)
  rw [hn] at hall
  exact ⟨out, hpost, by cbv, hall, hb, hi⟩

end CommentBlocks
