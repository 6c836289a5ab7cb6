import CommentBlocks.Proofs.Source.Scan
import Mathlib.Data.List.Permutation

namespace CommentBlocks

open Bytes

structure Group where
  line : Nat
  first : Comment
  others : List Comment
  deriving DecidableEq

theorem intercalate_append {sep : Bytes} {xs ys : List Bytes} (hx : xs ≠ []) (hy : ys ≠ []) :
    sep.intercalate (xs ++ ys) = sep.intercalate xs ++ sep ++ sep.intercalate ys := by
  induction xs with
  | nil => exact absurd rfl hx
  | cons x xs ih =>
    by_cases hn : xs = []
    · subst hn
      simp [List.intercalate_cons_of_ne_nil hy]
    · have hn' : xs ++ ys ≠ [] := by simp [hn]
      rw [List.cons_append, List.intercalate_cons_of_ne_nil hn', ih hn,
        List.intercalate_cons_of_ne_nil hn]
      simp only [List.append_assoc]

namespace Group

def all (g : Group) : List Comment := g.first :: g.others

def text (g : Group) : Bytes := [newline].intercalate (g.all.map Comment.body)

def entry (g : Group) : Nat × Bytes := (g.line, g.text)

def add (g : Group) (k : Comment) : Group := { g with others := g.others ++ [k] }

def append (g h : Group) : Group := { g with others := g.others ++ h.all }

/-- Puts a group in front of others. If the first of them stands on its line, the two are one. -/
def inFront (g : Group) : List Group → List Group
  | [] => [g]
  | h :: hs => if g.line = h.line then g.append h :: hs else g :: h :: hs

theorem all_add (g : Group) (k : Comment) : (g.add k).all = g.all ++ [k] := rfl

theorem all_append (g h : Group) : (g.append h).all = g.all ++ h.all := rfl

theorem text_append (g h : Group) : (g.append h).text = g.text ++ newline :: h.text := by
  rw [text, all_append, List.map_append, intercalate_append (by simp [all]) (by simp [all])]
  simp [text]

theorem text_add (g : Group) (k : Comment) : (g.add k).text = g.text ++ newline :: k.body := by
  rw [text, all_add, List.map_append, intercalate_append (by simp [all]) (by simp)]
  simp [text]

theorem flatMap_all_inFront (g : Group) (hs : List Group) :
    (g.inFront hs).flatMap all = g.all ++ hs.flatMap all := by
  unfold inFront
  split
  · simp
  · split <;> simp [all_append]

theorem entry_inFront (g : Group) (hs : List Group) (hg : ∀ h ∈ hs, g.line ≤ h.line) :
    (g.inFront hs).map entry =
      alterLine g.line (fun old => old.elim g.text (g.text ++ newline :: ·)) (hs.map entry) := by
  cases hs with
  | nil => rfl
  | cons h hs =>
    have hle := hg h List.mem_cons_self
    rw [inFront, List.map_cons, entry, alterLine]
    by_cases he : g.line = h.line
    · rw [if_pos he, if_neg (by omega), if_pos he, List.map_cons, entry, text_append, append, he]
      rfl
    · rw [if_neg he, if_pos (by omega)]
      rfl

theorem mem_inFront {g h : Group} {hs : List Group} (hm : h ∈ g.inFront hs) :
    h ∈ hs ∨ h.line = g.line ∧ h.first = g.first := by
  unfold inFront at hm
  split at hm
  · simp_all
  · split at hm <;> simp only [List.mem_cons] at hm ⊢
    · obtain rfl | hm := hm
      · exact .inr ⟨rfl, rfl⟩
      · exact .inl (.inr hm)
    · obtain rfl | hm := hm
      · exact .inr ⟨rfl, rfl⟩
      · exact .inl hm

def stack (hs gs : List Group) : List Group := gs.foldl (fun hs g => g.inFront hs) hs

theorem flatMap_all_stack (gs hs : List Group) :
    (stack hs gs).flatMap all = gs.reverse.flatMap all ++ hs.flatMap all := by
  induction gs generalizing hs with
  | nil => rfl
  | cons g gs ih =>
    have hg := ih (g.inFront hs)
    rw [flatMap_all_inFront] at hg
    simpa [stack] using hg

theorem mem_stack {gs hs : List Group} {h : Group} (hm : h ∈ stack hs gs) :
    h ∈ hs ∨ ∃ g ∈ gs, h.line = g.line ∧ h.first = g.first := by
  induction gs generalizing hs with
  | nil => exact .inl hm
  | cons g gs ih =>
    obtain hi | ⟨g', hg, he⟩ := ih hm
    · obtain hh | he := mem_inFront hi
      · exact .inl hh
      · exact .inr ⟨g, List.mem_cons_self, he⟩
    · exact .inr ⟨g', List.mem_cons_of_mem _ hg, he⟩

/-- Texts whose lines do not ascend, each put in front of those before it, stand by line as the
groups do. -/
theorem entries_foldl_prepend {gs hs : List Group} {m : ByLine} (hm : m.entries = hs.map entry)
    (hg : gs.Pairwise fun g h => h.line ≤ g.line) (hl : ∀ g ∈ gs, ∀ h ∈ hs, g.line ≤ h.line) :
    ((gs.map entry).foldl (fun m e => m.prepend e.1 e.2) m).entries = (stack hs gs).map entry := by
  induction gs generalizing hs m with
  | nil => exact hm
  | cons g gs ih =>
    obtain ⟨hle, hg⟩ := List.pairwise_cons.mp hg
    -- the next text is on no later line than all groups that stand, so it meets the first of them
    refine ih ?_ hg ?_
    · rw [entry_inFront g hs (hl g List.mem_cons_self), ← hm]
      rfl
    · intro g' hg' h hh
      obtain hh | ⟨he, -⟩ := mem_inFront hh
      · exact hl g' (List.mem_cons_of_mem _ hg') h hh
      · exact he ▸ hle g' hg'

end Group

namespace Joined

theorem foldl_bodies (bodies : List Bytes) (t u : Bytes) :
    bodies.foldl (fun text body => body ++ newline :: text) (t ++ newline :: u) =
      bodies.foldl (fun text body => body ++ newline :: text) t ++ newline :: u := by
  induction bodies generalizing t with
  | nil => rfl
  | cons body bodies ih =>
    rw [List.foldl_cons, List.foldl_cons, ← ih]
    simp

theorem text_cons {j : Joined} {body : Bytes} {last : Nat} (h : j.bodies ≠ []) :
    text { j with last := last, bodies := body :: j.bodies } = j.text ++ newline :: body := by
  unfold text
  cases hb : j.bodies with
  | nil => exact absurd hb h
  | cons b before => exact foldl_bodies before b body

end Joined

namespace Collected

def Sound (c : Collected) : Prop := ∀ j ∈ c.joined, j.bodies ≠ []

theorem line_settle (c : Collected) : c.settle.line = c.line := by
  unfold settle
  split <;> rfl

theorem joined_settle (c : Collected) : c.settle.joined = none := by
  unfold settle
  split
  · rfl
  · next h => exact h

theorem settle_of_joined_none {c : Collected} (h : c.joined = none) : c.settle = c := by
  rw [settle, h]

theorem settle_settle (c : Collected) : c.settle.settle = c.settle :=
  settle_of_joined_none c.joined_settle

theorem line_take (c : Collected) (p : Piece) : (c.take p).line = c.line + p.lines := by
  cases p with
  | code => exact c.line_settle
  | lineComment opener body =>
    simp only [take]
    split
    · split
      · rfl
      · exact c.line_settle
    · rfl
  | newline | blank | literal | blockComment => rfl

theorem Sound.take {c : Collected} (h : c.Sound) (p : Piece) : (c.take p).Sound := by
  cases p with
  | newline | blank => exact h
  | code | literal | blockComment =>
    intro j hj
    simp [Collected.take, joined_settle] at hj
  | lineComment opener body =>
    intro j hj
    simp only [Collected.take] at hj
    split at hj
    · split at hj <;> obtain rfl := Option.some.inj hj <;> simp
    · obtain rfl := Option.some.inj hj
      simp

theorem found_settle {c : Collected} {j : Joined} (h : c.joined = some j) :
    c.settle.found = (j.first, j.text) :: c.found := by
  rw [settle, h]

theorem found_take_of_none {c : Collected} {p : Piece} {before : Bytes}
    (h : p.comment? before = none) : (c.take p).settle.found = c.settle.found := by
  cases p with
  | newline => cases hj : c.joined <;> simp [take, settle, hj]
  | blank => rfl
  | code => exact congrArg found c.settle_settle
  | literal text lines =>
    have hn : (c.take (.literal text lines)).joined = none := c.joined_settle
    rw [settle_of_joined_none hn]
    rfl
  | lineComment | blockComment => cases h

def Joins (c : Collected) (k : Comment) : Prop :=
  ∃ j, c.joined = some j ∧ k.rule = .line j.opener ∧ j.last + 1 = c.line

theorem found_take_of_joins {c : Collected} {p : Piece} {before : Bytes} {k : Comment}
    (hc : c.Sound) (h : p.comment? before = some k) (hk : c.Joins k) :
    ∃ n text rest, c.settle.found = (n, text) :: rest ∧
      (c.take p).settle.found = (n, text ++ newline :: k.body) :: rest := by
  obtain ⟨j, hj, hr, hl⟩ := hk
  cases p with
  | newline | blank | code | literal => cases h
  | blockComment opener body closer =>
    obtain rfl := Option.some.inj h
    cases hr
  | lineComment opener body =>
    obtain rfl := Option.some.inj h
    have ha : j.opener = opener ∧ j.last + 1 = c.line := ⟨(Rule.line.inj hr).symm, hl⟩
    have ht : (c.take (.lineComment opener body)).joined =
        some { j with last := c.line, bodies := dropReturn body :: j.bodies } := by
      simp [take, hj, ha]
    refine ⟨j.first, j.text, c.found, found_settle hj, ?_⟩
    rw [found_settle ht, Joined.text_cons (hc j hj)]
    simp [take, hj, ha]

theorem found_take_of_not_joins {c : Collected} {p : Piece} {before : Bytes} {k : Comment}
    (h : p.comment? before = some k) (hk : ¬ c.Joins k) :
    (c.take p).settle.found = (c.line, k.body) :: c.settle.found := by
  cases p with
  | newline | blank | code | literal => cases h
  | blockComment opener body closer =>
    obtain rfl := Option.some.inj h
    have hn : (c.take (.blockComment opener body closer)).joined = none := c.joined_settle
    rw [settle_of_joined_none hn]
    rfl
  | lineComment opener body =>
    obtain rfl := Option.some.inj h
    have hbegin (c' : Collected) (hf : c'.found = c.settle.found)
        (hj : c'.joined = some ⟨opener, c.line, c.line, [dropReturn body]⟩) :
        c'.settle.found = (c.line, dropReturn body) :: c.settle.found := by
      rw [found_settle hj, hf]
      rfl
    cases hj : c.joined with
    | none => refine hbegin _ ?_ ?_ <;> simp [take, hj, settle]
    | some j =>
      have ha : ¬ (j.opener = opener ∧ j.last + 1 = c.line) :=
        fun ha => hk ⟨j, hj, congrArg Rule.line ha.1.symm, ha.2⟩
      refine hbegin _ ?_ ?_ <;> simp [take, hj, ha]

end Collected

/-- The texts found behind some pieces, the latest first, are those of groups of the comments met.
The lines of the groups never decrease, and `P` holds of the line of every group and the bytes
before its first comment. -/
structure Gathered (P : Nat → Bytes → Prop) (c : Collected) (cs : List Comment)
    (gs : List Group) : Prop where
  found : c.settle.found = gs.map Group.entry
  all : gs.reverse.flatMap Group.all = cs
  descending : gs.Pairwise fun g h => h.line ≤ g.line
  reached : ∀ g ∈ gs, g.line ≤ c.line
  first : ∀ g ∈ gs, P g.line g.first.before

theorem before_of_comment? {before : Bytes} {p : Piece} {k : Comment}
    (h : p.comment? before = some k) : k.before = before := by
  cases p with
  | newline | blank | code | literal => cases h
  | lineComment | blockComment =>
    obtain rfl := Option.some.inj h
    rfl

namespace Gathered

variable {P : Nat → Bytes → Prop} {c : Collected} {cs : List Comment} {gs : List Group}

theorem start : Gathered P .start [] [] := by
  constructor <;> simp [Collected.start, Collected.settle]

theorem line_le_take (c : Collected) (p : Piece) : c.line ≤ (c.take p).line := by
  rw [c.line_take]
  omega

theorem pass {before : Bytes} {p : Piece} (h : Gathered P c cs gs) (hp : p.comment? before = none) :
    Gathered P (c.take p) cs gs where
  found := by rw [Collected.found_take_of_none hp, h.found]
  all := h.all
  descending := h.descending
  reached g hg := (h.reached g hg).trans (line_le_take c p)
  first := h.first

theorem begin {before : Bytes} {p : Piece} {k : Comment} (h : Gathered P c cs gs)
    (hk : p.comment? before = some k) (hj : ¬ c.Joins k) (hP : P c.line before) :
    Gathered P (c.take p) (cs ++ [k]) (⟨c.line, k, []⟩ :: gs) where
  found := by
    rw [Collected.found_take_of_not_joins hk hj, h.found, List.map_cons]
    simp [Group.entry, Group.text, Group.all]
  all := by simp [← h.all, Group.all]
  descending := List.pairwise_cons.mpr ⟨h.reached, h.descending⟩
  reached g hg := by
    obtain rfl | hg := List.mem_cons.mp hg
    · exact line_le_take c p
    · exact (h.reached g hg).trans (line_le_take c p)
  first g hg := by
    obtain rfl | hg := List.mem_cons.mp hg
    · rwa [before_of_comment? hk]
    · exact h.first g hg

theorem join {before : Bytes} {p : Piece} {k : Comment} (h : Gathered P c cs gs) (hc : c.Sound)
    (hk : p.comment? before = some k) (hj : c.Joins k) :
    ∃ g gs', gs = g :: gs' ∧ Gathered P (c.take p) (cs ++ [k]) (g.add k :: gs') := by
  obtain ⟨n, text, rest, hf, hf'⟩ := Collected.found_take_of_joins hc hk hj
  cases gs with
  | nil => simp [h.found] at hf
  | cons g gs =>
    obtain ⟨he, rfl⟩ := List.cons.inj (h.found.symm.trans hf)
    obtain ⟨rfl, rfl⟩ := Prod.mk.inj he
    refine ⟨g, gs, rfl, ?_, ?_, ?_, ?_, ?_⟩
    · rw [hf', ← Group.text_add]
      rfl
    · simp [← h.all, Group.all_add]
    · exact List.pairwise_cons.mpr (List.pairwise_cons.mp h.descending)
    · intro g' hg
      obtain rfl | hg := List.mem_cons.mp hg
      · exact (h.reached g List.mem_cons_self).trans (line_le_take c p)
      · exact (h.reached g' (List.mem_cons_of_mem _ hg)).trans (line_le_take c p)
    · intro g' hg
      obtain rfl | hg := List.mem_cons.mp hg
      · exact h.first g List.mem_cons_self
      · exact h.first g' (List.mem_cons_of_mem _ hg)

theorem take {before : Bytes} {p : Piece} (h : Gathered P c cs gs) (hc : c.Sound)
    (hP : P c.line before) :
    ∃ gs', Gathered P (c.take p) (cs ++ (p.comment? before).toList) gs' := by
  cases hk : p.comment? before with
  | none => exact ⟨gs, by simpa using h.pass hk⟩
  | some k =>
    by_cases hj : c.Joins k
    · obtain ⟨g, gs', -, h'⟩ := h.join hc hk hj
      exact ⟨_, h'⟩
    · exact ⟨_, h.begin hk hj hP⟩

theorem foldl_take {before : Bytes} {ps : List Piece} (h : Gathered P c cs gs) (hc : c.Sound)
    (hP : P c.line before)
    (hs : ∀ p ∈ ps, ∀ n before, P n before → P (n + p.lines) (before ++ p.text)) :
    ∃ gs', Gathered P (ps.foldl Collected.take c) (cs ++ commentsFrom before ps) gs' ∧
      P (ps.foldl Collected.take c).line (before ++ ps.flatMap Piece.text) := by
  induction ps generalizing c cs gs before with
  | nil => exact ⟨gs, by simpa [commentsFrom] using h, by simpa using hP⟩
  | cons p ps ih =>
    obtain ⟨gs', h'⟩ := h.take hc hP
    have hP' : P (c.take p).line (before ++ p.text) := by
      rw [c.line_take]
      exact hs p List.mem_cons_self _ _ hP
    obtain ⟨gs'', hg, hl⟩ := ih h' (hc.take p) hP' fun q hq => hs q (List.mem_cons_of_mem _ hq)
    refine ⟨gs'', ?_, ?_⟩
    · simpa [commentsFrom] using hg
    · simpa using hl

end Gathered

theorem Collected.blocks_ofPieces (P : Nat → Bytes → Prop) (ps : List Piece) (hP : P 1 [])
    (hs : ∀ p ∈ ps, ∀ n before, P n before → P (n + p.lines) (before ++ p.text)) :
    ∃ groups : List Group, (ofPieces ps).blocks.entries = groups.map Group.entry ∧
      groups.flatMap Group.all = commentsFrom [] ps ∧ (∀ g ∈ groups, P g.line g.first.before) ∧
      P (ofPieces ps).line (ps.flatMap Piece.text) := by
  have hc : Collected.start.Sound := by simp [Sound, Collected.start]
  obtain ⟨gs, hg, hl⟩ := Gathered.start.foldl_take hc hP hs
  refine ⟨Group.stack [] gs, ?_, ?_, ?_, hl⟩
  · rw [blocks, ByLine.ofFound, ofPieces, hg.found]
    exact Group.entries_foldl_prepend rfl hg.descending (by simp)
  · rw [Group.flatMap_all_stack, hg.all]
    simp
  · intro g hm
    obtain hm | ⟨g', hg', hline, hfirst⟩ := Group.mem_stack hm
    · cases hm
    · rw [hline, hfirst]
      exact hg.first g' hg'

theorem extract_of_proper {language : Language} (hp : ∀ rule ∈ language.rules, rule.Proper)
    (path : String) (data : Bytes) :
    extract path data language =
      let pieces := cut language.rules data
      let collected := Collected.ofPieces pieces.list
      some ⟨collected.blocks, ((pieces.openFrom? []).map fun _ =>
        (⟨path, "", collected.line, .message (.just .unclosed)⟩ : Issue)).toList⟩ := by
  have hn := cut_ne_endless (fun rule hm => (hp rule hm).advances) data
  unfold extract Pieces.openFrom?
  dsimp only
  cases he : (cut language.rules data).ending with
  | complete | unclosed => rfl
  | endless => exact absurd he hn

theorem intercalate_text (groups : List Group) :
    [newline].intercalate (groups.map Group.text) =
      [newline].intercalate ((groups.flatMap Group.all).map Comment.body) := by
  induction groups with
  | nil => rfl
  | cons g gs ih =>
    by_cases hn : gs = []
    · subst hn
      simp [Group.text]
    · have hb : (gs.flatMap Group.all).map Comment.body ≠ [] := by
        cases gs with
        | nil => exact absurd rfl hn
        | cons h hs => simp [Group.all]
      rw [List.map_cons, List.intercalate_cons_of_ne_nil (by simpa using hn), ih, List.flatMap_cons,
        List.map_append, intercalate_append (by simp [Group.all]) hb]
      rfl

/-- Joined in the order of their lines, the blocks of a source are the bodies of its comments in the
order of the source, also where a string or comment stays open. There is no block exactly if there
is no comment. -/
theorem texts_of_extract {language : Language} (hp : ∀ rule ∈ language.rules, rule.Proper)
    (path : String) (data : Bytes) :
    ∃ cs stop out,
      (∀ cs' stop', Scan language.rules [] data cs' stop' ↔ cs' = cs ∧ stop' = stop) ∧
      extract path data language = some out ∧ out.blocks.entries.Pairwise (·.1 < ·.1) ∧
      (out.blocks.entries = [] ↔ cs = []) ∧
      [newline].intercalate (out.blocks.entries.map Prod.snd) =
        [newline].intercalate (cs.map Comment.body) := by
  obtain ⟨groups, he, ha, -, -⟩ := Collected.blocks_ofPieces (fun _ _ => True)
    (cut language.rules data).list trivial (fun _ _ _ _ _ => trivial)
  refine ⟨_, _, _, fun cs' stop' => scan_iff hp, extract_of_proper hp path data,
    ByLine.ascending _, ?_, ?_⟩
  · rw [he, ← ha]
    cases groups <;> simp [Group.all]
  · rw [he, ← ha, ← intercalate_text, List.map_map]
    rfl

def mixedSource : Bytes := ofText "//a\r\n//b\n/*c*/ /*d*/ //e\n \"x//\" /*open"

def mixedLanguage : Language :=
  ⟨"go", "Go", ["go"], [.quoted (ofText "\"") (some '\\'), .line (ofText "//"),
    .block (ofText "/*") (ofText "*/")]⟩

theorem texts_of_extract_mixed :
    ∃ cs stop, Scan mixedLanguage.rules [] mixedSource cs stop ∧ cs ≠ [] ∧
      [newline].intercalate (cs.map Comment.body) = ofText "a\nb\nc\nd\ne" := by
  have hp : ∀ rule ∈ mixedLanguage.rules, rule.Proper := by
    simp [mixedLanguage, Rule.Proper, ofText, ofChars]
  have hx : (extract "f.go" mixedSource mixedLanguage).map (·.blocks.entries) =
      some [(1, ofText "a\nb"), (3, ofText "c\nd\ne")] := by cbv
  obtain ⟨cs, stop, out, hs, ho, -, hn, ht⟩ := texts_of_extract hp "f.go" mixedSource
  rw [ho] at hx
  have he : out.blocks.entries = [(1, ofText "a\nb"), (3, ofText "c\nd\ne")] := Option.some.inj hx
  refine ⟨cs, stop, (hs cs stop).mpr ⟨rfl, rfl⟩, fun hc => ?_, ?_⟩
  · rw [hn.mpr hc] at he
    cases he
  · rw [← ht, he]
    cbv

end CommentBlocks
