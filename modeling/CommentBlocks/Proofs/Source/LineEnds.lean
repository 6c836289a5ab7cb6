import CommentBlocks.Proofs.Source.Returns

namespace CommentBlocks

open Bytes

section returns

variable {body opener rest data : Bytes} {rules : List Rule}

theorem carriageReturn_notMem_withoutReturns (b : Bytes) : carriageReturn ∉ withoutReturns b := by
  simp [withoutReturns]

theorem dropReturn_concat (body : Bytes) : dropReturn (body ++ [carriageReturn]) = body := by
  simp [dropReturn]

theorem dropReturn_of_notMem (h : carriageReturn ∉ body) : dropReturn body = body :=
  if_neg fun hl => h (List.mem_of_getLast? hl)

theorem withoutReturns_dropReturn (body : Bytes) :
    withoutReturns (dropReturn body) = withoutReturns body := by
  by_cases hl : body.getLast? = some carriageReturn
  · obtain ⟨front, rfl⟩ := List.getLast?_eq_some_iff.mp hl
    rw [dropReturn_concat, withoutReturns_append]
    exact (List.append_nil _).symm
  · rw [dropReturn, if_neg hl]

theorem withoutReturns_joined (body rest : Bytes) :
    withoutReturns (body ++ newline :: rest) =
      withoutReturns body ++ newline :: withoutReturns rest := withoutReturns_append _ _

end returns

def Joined.withoutReturns (j : Joined) : Joined :=
  { j with bodies := j.bodies.map CommentBlocks.withoutReturns }

theorem Joined.text_withoutReturns (j : Joined) :
    j.withoutReturns.text = CommentBlocks.withoutReturns j.text := by
  have hfold (bodies : List Bytes) (text : Bytes) :
      (bodies.map CommentBlocks.withoutReturns).foldl (fun text body => body ++ newline :: text)
          (CommentBlocks.withoutReturns text) =
        CommentBlocks.withoutReturns
          (bodies.foldl (fun text body => body ++ newline :: text) text) := by
    induction bodies generalizing text with
    | nil => rfl
    | cons body bodies ih =>
      rw [List.map_cons, List.foldl_cons, List.foldl_cons, ← withoutReturns_joined, ih]
  unfold text withoutReturns
  cases j.bodies with
  | nil => rfl
  | cons last before => exact hfold before last

def bare (e : Nat × Bytes) : Nat × Bytes := (e.1, withoutReturns e.2)

namespace Collected

def withoutReturns (c : Collected) : Collected where
  line := c.line
  joined := c.joined.map Joined.withoutReturns
  found := c.found.map bare

theorem settle_withoutReturns (c : Collected) :
    c.withoutReturns.settle = c.settle.withoutReturns := by
  cases hj : c.joined with
  | none => simp [settle, withoutReturns, hj]
  | some j =>
    simp only [settle, withoutReturns, hj, Option.map_some, Option.map_none, List.map_cons, bare]
    rw [j.text_withoutReturns]
    rfl

/-- The bodies of line comments lose the return at their end anyway. -/
theorem dropReturn_withoutReturns (body : Bytes) :
    dropReturn (CommentBlocks.withoutReturns body) =
      CommentBlocks.withoutReturns (dropReturn body) := by
  rw [withoutReturns_dropReturn, dropReturn_of_notMem (carriageReturn_notMem_withoutReturns body)]

theorem take_withoutReturns (c : Collected) (p : Piece) :
    p.withoutReturns?.elim c.withoutReturns c.withoutReturns.take = (c.take p).withoutReturns := by
  cases p with
  | newline => rfl
  | blank b => by_cases hb : b = carriageReturn <;> simp [Piece.withoutReturns?, hb, take]
  | code text => exact c.settle_withoutReturns
  | literal text lines =>
    simp only [Piece.withoutReturns?, Option.elim_some, take, settle_withoutReturns]
    rfl
  | lineComment opener body =>
    simp only [Piece.withoutReturns?, Option.elim_some, take, dropReturn_withoutReturns,
      settle_withoutReturns]
    cases hj : c.joined with
    | none => simp [withoutReturns, hj, Joined.withoutReturns]
    | some j =>
      by_cases ha : j.opener = opener ∧ j.last + 1 = c.line <;>
        simp [withoutReturns, hj, Joined.withoutReturns, ha]
  | blockComment opener body closer =>
    simp only [Piece.withoutReturns?, Option.elim_some, take, settle_withoutReturns,
      newlines_append, newlines_withoutReturns]
    rfl

theorem foldl_take_withoutReturns (ps : List Piece) (c : Collected) :
    (ps.filterMap Piece.withoutReturns?).foldl take c.withoutReturns =
      (ps.foldl take c).withoutReturns := by
  induction ps generalizing c with
  | nil => rfl
  | cons p ps ih =>
    rw [List.foldl_cons, ← ih, ← c.take_withoutReturns p]
    cases hp : p.withoutReturns? with
    | none => rw [List.filterMap_cons_none hp, Option.elim_none]
    | some q => rw [List.filterMap_cons_some hp, Option.elim_some, List.foldl_cons]

end Collected

theorem Collected.entries_blocks_withoutReturns (c : Collected) :
    c.withoutReturns.blocks.entries = c.blocks.entries.map bare := by
  rw [blocks, settle_withoutReturns, blocks]
  exact ByLine.entries_ofFound_map (g := id) strictMono_id withoutReturns_joined c.settle.found

theorem Collected.ofPieces_withoutReturns (ps : List Piece) :
    ofPieces (ps.filterMap Piece.withoutReturns?) = (ofPieces ps).withoutReturns :=
  foldl_take_withoutReturns ps .start

def Paired (data : Bytes) : Prop :=
  ∀ before rest, data = before ++ carriageReturn :: rest → ∃ tail, rest = newline :: tail

section paired

variable {data rest body : Bytes} {rules : List Rule}

theorem Paired.of_suffix (h : Paired data) (hs : rest <:+ data) : Paired rest := by
  obtain ⟨front, rfl⟩ := hs
  rintro before after rfl
  exact h (front ++ before) after (List.append_assoc _ _ _).symm

theorem paired_withReturns (h : carriageReturn ∉ data) : Paired (withReturns data) := by
  induction data with
  | nil =>
    intro before rest he
    simp [withReturns] at he
  | cons b data ih =>
    obtain ⟨hb, hdata⟩ := not_or.mp fun hm => h (List.mem_cons.mpr hm)
    intro before rest he
    by_cases hn : b = newline
    · subst hn
      rw [withReturns_newline] at he
      cases before with
      | nil => exact ⟨_, (List.cons.inj he).2.symm⟩
      | cons _ before =>
        have he := (List.cons.inj he).2
        cases before with
        | nil => exact absurd (List.cons.inj he).1 carriageReturn_ne_newline.symm
        | cons _ before => exact ih hdata before rest (List.cons.inj he).2
    · rw [withReturns_cons hn] at he
      cases before with
      | nil => exact absurd (List.cons.inj he).1.symm hb
      | cons _ before => exact ih hdata before rest (List.cons.inj he).2

theorem Paired.notMem_dropReturn (h : Paired (body ++ rest)) (hb : newline ∉ body) :
    carriageReturn ∉ dropReturn body := by
  intro hm
  have hbody : carriageReturn ∈ body := by
    unfold dropReturn at hm
    split at hm
    · exact List.mem_of_mem_dropLast hm
    · exact hm
  obtain ⟨before, after, rfl, hbefore⟩ := List.eq_append_cons_of_mem hbody
  obtain ⟨tail, ht⟩ := h before (after ++ rest) (by simp)
  cases after with
  | nil =>
    rw [dropReturn_concat] at hm
    exact hbefore hm
  | cons b after =>
    obtain rfl : b = newline := (List.cons.inj ht).1
    exact hb (by simp)

theorem Scan.notMem_body {before : Bytes} {cs : List Comment} {o : Option Bytes}
    (h : Scan rules before data cs o) (hd : Paired data) :
    ∀ k ∈ cs, (∃ opener, k.rule = .line opener) → carriageReturn ∉ k.body := by
  induction h with
  | done | openQuoted | openBlock => simp
  | plain ho h ih => exact ih (hd.of_suffix (List.suffix_cons _ _))
  | literal ho hl hr h ih => exact ih (hd.of_suffix ⟨_, Rule.read_append ho.opensAt hr⟩)
  | @line _ opener body rest _ _ ho hb hr h ih =>
    intro k hk hrule
    obtain rfl | hk := List.mem_cons.mp hk
    · exact (hd.of_suffix ⟨opener, (List.append_assoc _ _ _).symm⟩).notMem_dropReturn hb
    · exact ih (hd.of_suffix (List.suffix_append _ _)) k hk hrule
  | block ho hb h ih =>
    intro k hk hrule
    obtain rfl | hk := List.mem_cons.mp hk
    · obtain ⟨_, hrule⟩ := hrule
      cases hrule
    · exact ih (hd.of_suffix (List.suffix_append _ _)) k hk hrule

end paired

theorem notMem_intercalate {b x : UInt8} (hx : b ≠ x) {bodies : List Bytes}
    (h : ∀ body ∈ bodies, b ∉ body) : b ∉ [x].intercalate bodies := by
  induction bodies with
  | nil => simp
  | cons body bodies ih =>
    have hbody := h body List.mem_cons_self
    by_cases hn : bodies = []
    · simpa [hn] using hbody
    · rw [List.intercalate_cons_of_ne_nil hn]
      simpa [hbody, hx] using ih fun body hb => h body (List.mem_cons_of_mem _ hb)

/-- With a carriage return in front of every newline a source has the same issues and the same
blocks, but for the returns in the texts of block comments. A block of line comments alone has none.
-/
theorem extract_withReturns {language : Language} (hp : ∀ rule ∈ language.rules, rule.Proper)
    (hu : ∀ rule ∈ language.rules, rule.Unbroken) {data : Bytes} (hr : carriageReturn ∉ data)
    (hk : KeepsLines language.rules data) (path : String) :
    ∃ out out' cs stop, ∃ groups : List Group,
      extract path data language = some out ∧
      extract path (withReturns data) language = some out' ∧
      out'.issues = out.issues ∧ out'.blocks.lines = out.blocks.lines ∧
      out'.blocks.entries.map bare = out.blocks.entries ∧
      (∀ cs' stop', Scan language.rules [] (withReturns data) cs' stop' ↔ cs' = cs ∧ stop' = stop) ∧
      groups.flatMap Group.all = cs ∧ out'.blocks.entries = groups.map Group.entry ∧
      ∀ g ∈ groups, (∀ k ∈ g.all, ∃ opener, k.rule = .line opener) → carriageReturn ∉ g.text := by
  obtain ⟨hlist, hending⟩ := cut_withReturns hp hu hr hk
  have hcollected :=
    Collected.ofPieces_withoutReturns (cut language.rules (withReturns data)).list
  rw [hlist] at hcollected
  have hentries := congrArg (·.blocks.entries) hcollected
  rw [Collected.entries_blocks_withoutReturns] at hentries
  have hline := congrArg Collected.line hcollected
  obtain ⟨groups, he, ha, -, -⟩ := Collected.blocks_ofPieces (fun _ _ => True)
    (cut language.rules (withReturns data)).list trivial (fun _ _ _ _ _ => trivial)
  have hscan := Scan.of_cut hp [] (withReturns data)
  refine ⟨_, _, _, _, groups, extract_of_proper hp path data,
    extract_of_proper hp path (withReturns data), ?_, ?_, hentries.symm,
    fun cs' stop' => scan_iff hp, ha, he, ?_⟩
  · dsimp only
    rw [hline]
    unfold Pieces.openFrom?
    rw [hending]
    cases (cut language.rules data).ending <;> rfl
  · dsimp only
    rw [ByLine.lines, ByLine.lines, hentries, List.map_map]
    rfl
  · intro g hg hline
    refine notMem_intercalate carriageReturn_ne_newline fun body hb => ?_
    obtain ⟨k, hk, rfl⟩ := List.mem_map.mp hb
    have hcs : k ∈ commentsFrom [] (cut language.rules (withReturns data)).list :=
      ha ▸ List.mem_flatMap.mpr ⟨g, hg, hk⟩
    exact hscan.notMem_body (paired_withReturns hr) k hcs (hline k hk)

def brokenLanguage : Language :=
  ⟨"vb", "Basic", ["bas"], [.quoted (ofText "\"") (some '^'), .character (ofText "'") (some '\\'),
    .line (ofText "//"), .block (ofText "/*") (ofText "*/")]⟩

def brokenSource : Bytes := ofText "//a\n//b\n\"x^\n//\" '\\\"' /*d\n\ne*/ //f\n \"open\n"

theorem brokenSource_eq : brokenSource =
    [47, 47, 97, 10, 47, 47, 98, 10, 34, 120, 94, 10, 47, 47, 34, 32, 39, 92, 34, 39, 32, 47, 42, 100,
      10, 10, 101, 42, 47, 32, 47, 47, 102, 10, 32, 34, 111, 112, 101, 110, 10] := by cbv

theorem keepsLines_broken : KeepsLines brokenLanguage.rules brokenSource where
  escape quote escape x hm hx := by
    obtain ⟨rfl, rfl⟩ : quote = ofText "'" ∧ escape = some '\\' := by simpa [brokenLanguage] using hm
    obtain rfl : 0x5C = x := Option.some.inj hx
    rw [brokenSource_eq]
    decide
  character quote escape _ := by
    apply notMem_take_of_tails
    rw [brokenSource_eq]
    decide

theorem extract_withReturns_broken :
    ∃ out out', extract "f.bas" brokenSource brokenLanguage = some out ∧
      extract "f.bas" (ofText
        "//a\r\n//b\r\n\"x^\r\n//\" '\\\"' /*d\r\n\r\ne*/ //f\r\n \"open\r\n") brokenLanguage =
          some out' ∧
      out'.blocks.entries = [(1, ofText "a\nb"), (4, ofText "d\r\n\r\ne"), (6, ofText "f")] ∧
      out.blocks.entries = out'.blocks.entries.map bare ∧ out.issues = out'.issues ∧
      out.issues.map Issue.line = [7] := by
  have hp : ∀ rule ∈ brokenLanguage.rules, rule.Proper := by
    simp [brokenLanguage, Rule.Proper, ofText, ofChars]
  have hu : ∀ rule ∈ brokenLanguage.rules, rule.Unbroken := by
    simp only [brokenLanguage, List.forall_mem_cons, List.not_mem_nil, false_implies, implies_true]
    refine ⟨?_, ?_, ?_, ?_, trivial⟩ <;> unfold Rule.Unbroken <;> decide_cbv
  have hr : carriageReturn ∉ brokenSource := by
    rw [brokenSource_eq]
    decide
  have hw : withReturns brokenSource =
      ofText "//a\r\n//b\r\n\"x^\r\n//\" '\\\"' /*d\r\n\r\ne*/ //f\r\n \"open\r\n" := by cbv
  obtain ⟨out, out', -, -, -, ho, ho', hi, -, he, -⟩ :=
    extract_withReturns hp hu hr keepsLines_broken "f.bas"
  rw [hw] at ho'
  have hx : (extract "f.bas" (ofText
      "//a\r\n//b\r\n\"x^\r\n//\" '\\\"' /*d\r\n\r\ne*/ //f\r\n \"open\r\n") brokenLanguage).map
        (fun out => (out.blocks.entries, out.issues.map Issue.line)) =
      some ([(1, ofText "a\nb"), (4, ofText "d\r\n\r\ne"), (6, ofText "f")], [7]) := by cbv
  rw [ho'] at hx
  obtain ⟨hb, hl⟩ := Prod.mk.inj (Option.some.inj hx)
  rw [hi] at hl
  exact ⟨out, out', ho, ho', hb, he.symm, hi.symm, hl⟩

end CommentBlocks
