import CommentBlocks.Proofs.Source.Lines
import Mathlib.Data.List.Chain

namespace CommentBlocks

open Bytes

def blankBytes : List UInt8 := [0x20, 0x09, 0x0D, 0x0B, 0x0C]

inductive Quiet (rules : List Rule) : Bytes → Bytes → Prop
  | nil {rest} : Quiet rules [] rest
  | cons {b gap rest} (hb : b = newline ∨ b ∈ blankBytes)
    (ho : ∀ rule ∈ rules, rule.opensAt (b :: (gap ++ rest)) = false) (h : Quiet rules gap rest) :
    Quiet rules (b :: gap) rest

/-- All bytes before a place in the source are `before`, those from the end of the line comment `k`
on are `gap`, and `rest` lies ahead. The comment ends at a newline or with the source. -/
def Behind (k : Comment) (gap before rest : Bytes) : Prop :=
  ∃ opener body, k.rule = .line opener ∧ before = k.before ++ opener ++ body ++ gap ∧
    newline ∉ body ∧ ∀ b ∈ (gap ++ rest).head?, b = newline

/-- The line comment `k` goes on with the line comment `prev`: both have one opener, and between
them are blanks and one newline, with no place where a rule opens. -/
def Continues (rules : List Rule) (source : Bytes) (prev k : Comment) : Prop :=
  ∃ gap rest, source = k.before ++ rest ∧ k.rule = prev.rule ∧ Behind prev gap k.before rest ∧
    newlines gap = 1 ∧ Quiet rules gap rest

section gap

variable {rules : List Rule} {rule : Rule} {data rest gap before : Bytes} {b : UInt8} {p : Piece}
  {k : Comment}

theorem quiet_cons_iff :
    Quiet rules (b :: gap) rest ↔ (b = newline ∨ b ∈ blankBytes) ∧
      (∀ rule ∈ rules, rule.opensAt (b :: (gap ++ rest)) = false) ∧ Quiet rules gap rest :=
  ⟨fun | .cons hb ho h => ⟨hb, ho, h⟩, fun ⟨hb, ho, h⟩ => .cons hb ho h⟩

theorem quiet_append_iff {t : Bytes} :
    Quiet rules (gap ++ t) rest ↔ Quiet rules gap (t ++ rest) ∧ Quiet rules t rest := by
  induction gap with
  | nil => exact ⟨fun h => ⟨.nil, h⟩, fun h => h.2⟩
  | cons b gap ih => simp only [List.cons_append, quiet_cons_iff, ih, List.append_assoc, and_assoc]

theorem not_quiet_of_opens {t : Bytes} (ht : t ≠ []) (ho : Rule.Opens rules rule (t ++ rest)) :
    ¬ Quiet rules t rest := by
  obtain ⟨b, t, rfl⟩ := List.exists_cons_of_ne_nil ht
  rw [quiet_cons_iff]
  rintro ⟨-, hn, -⟩
  exact absurd ho.opensAt (Bool.eq_false_iff.mp (hn rule ho.mem))

/-- What stands behind a comment is settled by the place, since the comment ends at its first
newline. -/
theorem Behind.eq {gap' : Bytes} (h : Behind k gap before rest) (h' : Behind k gap' before rest) :
    gap = gap' := by
  obtain ⟨opener, body, hk, rfl, hb, hh⟩ := h
  obtain ⟨opener', body', hk', he, hb', hh'⟩ := h'
  obtain rfl : opener = opener' := Rule.line.inj (hk.symm.trans hk')
  have he : body ++ gap = body' ++ gap' := by simpa using he
  have ht := congrArg (fun t => (t ++ rest).takeWhile (· != newline)) he
  simp only [List.append_assoc] at ht
  rw [takeWhile_ne_append hb hh, takeWhile_ne_append hb' hh'] at ht
  rw [ht] at he
  exact List.append_cancel_left he

theorem Behind.append {t : Bytes} (h : Behind k gap before (t ++ rest)) :
    Behind k (gap ++ t) (before ++ t) rest := by
  obtain ⟨opener, body, hk, rfl, hb, hh⟩ := h
  exact ⟨opener, body, hk, by simp, hb, by simpa using hh⟩

theorem plain_of_blank (hn : b ≠ newline) (hb : b ∈ blankBytes) : Piece.plain b = .blank b := by
  rw [Piece.plain, if_neg hn]
  exact if_pos hb

theorem plain_of_code (hn : b ≠ newline) (hb : b ∉ blankBytes) : Piece.plain b = .code [b] := by
  rw [Piece.plain, if_neg hn]
  exact if_neg hb

theorem joined_take_of_isLiteral (hl : rule.IsLiteral) (hr : rule.read data = .piece p rest)
    (c : Collected) : (c.take p).joined = none := by
  cases hl with
  | quoted =>
    simp only [Rule.read] at hr
    split at hr
    · obtain ⟨rfl, rfl⟩ := Head.piece.inj hr
      exact c.joined_settle
    · cases hr
  | character =>
    simp only [Rule.read] at hr
    split at hr <;> obtain ⟨rfl, rfl⟩ := Head.piece.inj hr <;> exact c.joined_settle

theorem newline_of_mem_head?_dropWhile (data : Bytes) :
    ∀ b ∈ (data.dropWhile (· != newline)).head?, b = newline := by
  intro b hb
  have hd := List.head?_dropWhile_not (· != newline) data
  rw [Option.mem_def.mp hb] at hd
  simpa using hd

theorem Collected.joined_take_line (c : Collected) (opener body : Bytes) :
    ∃ j, (c.take (.lineComment opener body)).joined = some j ∧ j.opener = opener ∧
      j.last = (c.take (.lineComment opener body)).line := by
  rw [c.line_take]
  simp only [take]
  split
  · split
    · next ha => exact ⟨_, rfl, ha.1, rfl⟩
    · exact ⟨_, rfl, rfl, rfl⟩
  · exact ⟨_, rfl, rfl, rfl⟩

theorem literal_or_comment (ho : rule.opensAt data = true) (hr : rule.read data = .piece p rest)
    (before : Bytes) :
    rule.IsLiteral ∨
      ∃ k, p.comment? before = some k ∧
        ((∃ opener, k.rule = .line opener ∧ Behind k [] (before ++ p.text) rest ∧
            ∀ c : Collected, ∃ j, (c.take p).joined = some j ∧ j.opener = opener ∧
              j.last = (c.take p).line) ∨
          (∀ opener, k.rule ≠ .line opener) ∧ ∀ c : Collected, (c.take p).joined = none) := by
  cases rule with
  | quoted | character => exact .inl (by constructor)
  | line opener =>
    obtain ⟨rfl, rfl⟩ := Head.piece.inj hr
    have hn := newline_notMem_takeWhile (data.drop opener.length)
    refine .inr ⟨_, rfl, .inl ⟨opener, rfl, ⟨opener, _, rfl, ?_, hn, ?_⟩, fun c => ?_⟩⟩
    · simp [Piece.text]
    · exact newline_of_mem_head?_dropWhile _
    · exact c.joined_take_line opener _
  | block opener closer =>
    simp only [Rule.read] at hr
    split at hr
    · cases hr
    · split at hr
      · obtain ⟨rfl, rfl⟩ := Head.piece.inj hr
        exact .inr ⟨_, rfl, .inr ⟨fun _ => Rule.noConfusion, fun c => c.joined_settle⟩⟩
      · cases hr

theorem quiet_or_settled (hh : head rules b data = .piece p rest)
    (hp : p.comment? before = none) :
    Quiet rules p.text rest ∧ p.lines = newlines p.text ∧
        (∀ c : Collected, (c.take p).joined = c.joined) ∨
      ¬ Quiet rules p.text rest ∧ ∀ c : Collected, (c.take p).joined = none := by
  cases hf : rules.find? (·.opensAt (b :: data)) with
  | none =>
    have ho : ∀ rule ∈ rules, rule.opensAt (b :: data) = false := by simpa using hf
    rw [head_of_plain ho] at hh
    obtain ⟨rfl, rfl⟩ := Head.piece.inj hh
    rw [lines_plain, Piece.text_plain, quiet_cons_iff]
    by_cases hn : b = newline
    · left
      rw [hn]
      exact ⟨⟨.inl rfl, hn ▸ ho, .nil⟩, rfl, fun _ => rfl⟩
    by_cases hb : b ∈ blankBytes
    · left
      rw [plain_of_blank hn hb]
      exact ⟨⟨.inr hb, ho, .nil⟩, rfl, fun _ => rfl⟩
    · right
      rw [plain_of_code hn hb]
      exact ⟨fun h => h.1.elim hn hb, fun c => c.joined_settle⟩
  | some rule =>
    right
    rw [head_of_opens hf] at hh
    have ho : Rule.Opens rules rule (b :: data) := hf
    have ht := Rule.text_ne_nil_of_read ho.opensAt hh
    obtain hl | ⟨k, hk, -⟩ := literal_or_comment ho.opensAt hh before
    · rw [← Rule.read_append ho.opensAt hh] at ho
      exact ⟨not_quiet_of_opens ht ho, joined_take_of_isLiteral hl hh⟩
    · rw [hp] at hk
      cases hk

/-- What the scan knows of its latest comment at a place with `before` behind it and `rest` ahead:
it holds joined comments exactly as long as all since a line comment is quiet, and then the line of
the comment and its own differ by the newlines since. -/
inductive Since (rules : List Rule) (before rest : Bytes) : Option Comment → Collected → Prop
  | free {latest c} (hl : ∀ k ∈ latest, ∀ opener, k.rule ≠ .line opener) (hj : c.joined = none) :
    Since rules before rest latest c
  | joined {k gap c j} (hb : Behind k gap before rest) (hq : Quiet rules gap rest)
    (hj : c.joined = some j) (ho : k.rule = .line j.opener)
    (hl : j.last + newlines gap = c.line) : Since rules before rest (some k) c
  | apart {k gap c} (hb : Behind k gap before rest) (hq : ¬ Quiet rules gap rest)
    (hj : c.joined = none) : Since rules before rest (some k) c

namespace Since

variable {latest : Option Comment} {c : Collected}

theorem pass (h : Since rules before (b :: data) latest c) (hh : head rules b data = .piece p rest)
    (hp : p.comment? before = none) : Since rules (before ++ p.text) rest latest (c.take p) := by
  rw [← head_append hh] at h
  obtain ⟨hq, hl, hj⟩ | ⟨hq, hj⟩ := quiet_or_settled hh hp
  · cases h with
    | free hk hn => exact .free hk ((hj c).trans hn)
    | joined hb hg hs ho hline =>
      refine .joined hb.append (quiet_append_iff.mpr ⟨hg, hq⟩) ((hj c).trans hs) ho ?_
      rw [newlines_append, c.line_take]
      omega
    | apart hb hg hn =>
      exact .apart hb.append (fun h => hg (quiet_append_iff.mp h).1) ((hj c).trans hn)
  · cases h with
    | free hk hn => exact .free hk (hj c)
    | joined hb | apart hb => exact .apart hb.append (fun h => hq (quiet_append_iff.mp h).2) (hj c)

theorem comment (hh : head rules b data = .piece p rest) (hk : p.comment? before = some k)
    (c : Collected) : Since rules (before ++ p.text) rest (some k) (c.take p) := by
  cases hf : rules.find? (·.opensAt (b :: data)) with
  | none =>
    rw [head_of_plain (by simpa using hf)] at hh
    obtain ⟨rfl, rfl⟩ := Head.piece.inj hh
    rw [comment?_plain] at hk
    cases hk
  | some rule =>
    rw [head_of_opens hf] at hh
    obtain hl | ⟨k', hk', hc⟩ := literal_or_comment (Rule.Opens.opensAt hf) hh before
    · rw [comment?_of_isLiteral hl hh] at hk
      cases hk
    · obtain rfl := Option.some.inj (hk.symm.trans hk')
      obtain ⟨opener, hr, hb, hj⟩ | ⟨hr, hj⟩ := hc
      · obtain ⟨j, hs, rfl, hline⟩ := hj c
        exact .joined hb .nil hs hr (by simpa [newlines] using hline)
      · refine .free ?_ (hj c)
        rintro k ⟨⟩
        exact hr

theorem joins_iff (h : Since rules k.before rest latest c) :
    c.Joins k ↔ ∃ prev ∈ latest, Continues rules (k.before ++ rest) prev k := by
  cases h with
  | free hl hj =>
    constructor
    · rintro ⟨j, hs, -⟩
      rw [hj] at hs
      cases hs
    · rintro ⟨prev, hm, gap, rest', -, -, ⟨opener, _, hr, -⟩, -⟩
      exact absurd hr (hl prev hm opener)
  | @joined prev gap c j hb hq hj ho hline =>
    constructor
    · rintro ⟨j', hs, hr, hn⟩
      obtain rfl := Option.some.inj (hj.symm.trans hs)
      exact ⟨prev, rfl, gap, rest, rfl, hr.trans ho.symm, hb, by omega, hq⟩
    · rintro ⟨_, ⟨⟩, gap', rest', he, hr, hb', hn, -⟩
      obtain rfl := List.append_cancel_left he
      rw [← hb.eq hb'] at hn
      exact ⟨j, hj, hr.trans ho, by omega⟩
  | @apart prev gap c hb hq hj =>
    constructor
    · rintro ⟨j, hs, -⟩
      rw [hj] at hs
      cases hs
    · rintro ⟨_, ⟨⟩, gap', rest', he, -, hb', -, hq'⟩
      obtain rfl := List.append_cancel_left he
      rw [← hb.eq hb'] at hq'
      exact absurd hq' hq

end Since

end gap

namespace Group

def latest (g : Group) : Comment := g.others.getLastD g.first

theorem getLast?_all (g : Group) : g.all.getLast? = some g.latest := by
  rw [all, List.getLast?_cons, latest, List.getLastD_eq_getLast?]

theorem latest_add (g : Group) (k : Comment) : (g.add k).latest = k := List.getLastD_concat

end Group

/-- The groups that some pieces have made, the latest first, with the place reached: inside a group
every comment goes on with the one before it, and no group goes on with the group before it. -/
structure Chained (P : Nat → Bytes → Prop) (rules : List Rule) (before rest : Bytes) (c : Collected)
    (cs : List Comment) (gs : List Group) : Prop extends Gathered P c cs gs where
  sound : c.Sound
  line : P c.line before
  since : Since rules before rest (gs.head?.map Group.latest) c
  chain : ∀ g ∈ gs, g.all.IsChain (Continues rules (before ++ rest))
  apart : gs.IsChain fun h g => ¬ Continues rules (before ++ rest) g.latest h.first

namespace Chained

variable {P : Nat → Bytes → Prop} {rules : List Rule} {before data rest : Bytes} {b : UInt8}
  {p : Piece} {c : Collected} {cs : List Comment} {gs : List Group}

theorem start (hP : P 1 []) : Chained P rules [] data .start [] [] where
  toGathered := .start
  sound := by simp [Collected.Sound, Collected.start]
  line := hP
  since := .free (by simp) rfl
  chain := by simp
  apart := .nil

theorem take (h : Chained P rules before (b :: data) c cs gs)
    (hh : head rules b data = .piece p rest)
    (hs : ∀ n before, P n before → P (n + p.lines) (before ++ p.text)) :
    ∃ gs', Chained P rules (before ++ p.text) rest (c.take p)
      (cs ++ (p.comment? before).toList) gs' := by
  have hsource : before ++ p.text ++ rest = before ++ b :: data := by
    rw [List.append_assoc, head_append hh]
  have hline : P (c.take p).line (before ++ p.text) := by
    rw [c.line_take]
    exact hs _ _ h.line
  cases hk : p.comment? before with
  | none =>
    refine ⟨gs, ?_, h.sound.take p, hline, h.since.pass hh hk, ?_, ?_⟩
    · simpa using h.toGathered.pass hk
    · rw [hsource]
      exact h.chain
    · rw [hsource]
      exact h.apart
  | some k =>
    obtain rfl := before_of_comment? hk
    have hjoins := h.since.joins_iff
    by_cases hj : c.Joins k
    -- the comment goes on with the last of the latest group
    · obtain ⟨g, gs, rfl, hg⟩ := h.toGathered.join h.sound hk hj
      obtain ⟨_, ⟨⟩, hcont⟩ := hjoins.mp hj
      obtain ⟨hgc, hgs⟩ := List.forall_mem_cons.mp h.chain
      obtain ⟨hga, hap⟩ := List.isChain_cons.mp h.apart
      refine ⟨g.add k :: gs, hg, h.sound.take p, hline, ?_, ?_, ?_⟩
      · rw [List.head?_cons, Option.map_some, Group.latest_add]
        exact Since.comment hh hk c
      · rw [hsource]
        refine List.forall_mem_cons.mpr ⟨?_, hgs⟩
        rw [Group.all_add]
        refine hgc.append (.singleton k) fun x hx y hy => ?_
        rw [Group.getLast?_all] at hx
        obtain rfl := Option.some.inj hx
        obtain rfl := Option.some.inj hy
        exact hcont
      · rw [hsource]
        exact List.isChain_cons.mpr ⟨hga, hap⟩
    -- it begins a group, and does not go on with the latest
    · refine ⟨⟨c.line, k, []⟩ :: gs, h.toGathered.begin hk hj h.line, h.sound.take p, hline,
        Since.comment hh hk c, ?_, ?_⟩
      · rw [hsource]
        exact List.forall_mem_cons.mpr ⟨.singleton k, h.chain⟩
      · rw [hsource]
        refine List.isChain_cons.mpr ⟨fun g hg hcont => hj (hjoins.mpr ⟨g.latest, ?_, hcont⟩), h.apart⟩
        rw [Option.mem_def.mp hg]
        rfl

theorem foldl_take (h : Chained P rules before data c cs gs)
    (hs : ∀ p ∈ (cut rules data).list, ∀ n before, P n before → P (n + p.lines) (before ++ p.text)) :
    ∃ gs', Gathered P ((cut rules data).list.foldl Collected.take c)
        (cs ++ commentsFrom before (cut rules data).list) gs' ∧
      (∀ g ∈ gs', g.all.IsChain (Continues rules (before ++ data))) ∧
      gs'.IsChain fun h g => ¬ Continues rules (before ++ data) g.latest h.first := by
  fun_induction cut rules data generalizing before c cs gs with
  | case1 | case3 | case4 => exact ⟨gs, by simpa [commentsFrom] using h.toGathered, h.chain, h.apart⟩
  | case2 b data p rest hh tail =>
    rename_i ih
    obtain ⟨gs₁, h₁⟩ := h.take hh (hs p List.mem_cons_self)
    obtain ⟨gs₂, hg, hc, ha⟩ := ih h₁ fun q hq => hs q (List.mem_cons_of_mem _ hq)
    rw [List.append_assoc, head_append hh] at hc ha
    exact ⟨gs₂, by simpa [commentsFrom] using hg, hc, ha⟩

end Chained

theorem mem_lines_prepend {n line : Nat} {text : Bytes} {m : ByLine} :
    n ∈ (m.prepend line text).lines ↔ n = line ∨ n ∈ m.lines := by
  have hm (f : Option Bytes → Bytes) (entries : List (Nat × Bytes)) :
      n ∈ (alterLine line f entries).map Prod.fst ↔ n = line ∨ n ∈ entries.map Prod.fst := by
    fun_induction alterLine line f entries with
    | case1 => simp
    | case2 => simp
    | case3 => simp
    | case4 n' text rest _ _ ih =>
      rw [List.map_cons, List.mem_cons, ih, List.map_cons, List.mem_cons, or_left_comm]
  exact hm _ _

theorem mem_lines_ofFound {n : Nat} {found : List (Nat × Bytes)} :
    n ∈ (ByLine.ofFound found).lines ↔ n ∈ found.map Prod.fst := by
  have hf (m : ByLine) : n ∈ (found.foldl (fun m e => m.prepend e.1 e.2) m).lines ↔
      n ∈ found.map Prod.fst ∨ n ∈ m.lines := by
    induction found generalizing m with
    | nil => simp
    | cons e found ih => simp [ih, mem_lines_prepend, or_assoc, or_left_comm]
  rw [ByLine.ofFound, hf]
  simp [ByLine.lines, ByLine.empty]

section groups

variable {R : Comment → Comment → Prop} {groups : List Group}

theorem eq_singleton_of_isChain {cs : List Comment} {k : Comment} (hc : cs.IsChain R)
    (hk : k ∈ cs) (hr : ∀ prev, ¬ R prev k) (hr' : ∀ next, ¬ R k next) : cs = [k] := by
  obtain ⟨front, back, rfl⟩ := List.append_of_mem hk
  obtain ⟨-, hback, hlink⟩ := List.isChain_append.mp hc
  have hf : front = [] := by
    rw [← List.getLast?_eq_none_iff]
    exact Option.eq_none_iff_forall_not_mem.mpr fun prev hp => hr prev (hlink prev hp k rfl)
  have hb : back = [] := by
    rw [← List.head?_eq_none_iff]
    exact Option.eq_none_iff_forall_not_mem.mpr fun next hn => hr' next (hback.rel_head? hn)
  rw [hf, hb, List.nil_append]

theorem mem_first_iff (hc : ∀ g ∈ groups, g.all.IsChain R)
    (ha : groups.IsChain fun g h => ¬ R g.latest h.first) {k : Comment} :
    k ∈ groups.map Group.first ↔
      ∃ front back, groups.flatMap Group.all = front ++ k :: back ∧
        ∀ prev ∈ front.getLast?, ¬ R prev k := by
  induction groups with
  | nil => simp
  | cons g groups ih =>
    obtain ⟨hg, hc⟩ := List.forall_mem_cons.mp hc
    obtain ⟨hlink, ha⟩ := List.isChain_cons.mp ha
    have ih := ih hc ha
    rw [List.map_cons, List.mem_cons, List.flatMap_cons]
    constructor
    · rintro (rfl | hm)
      · exact ⟨[], g.others ++ groups.flatMap Group.all, rfl, by simp⟩
      · obtain ⟨front, back, he, hp⟩ := ih.mp hm
        refine ⟨g.all ++ front, back, by rw [he, List.append_assoc], fun prev hprev => ?_⟩
        cases front with
        | nil =>
          rw [List.append_nil, Group.getLast?_all] at hprev
          obtain rfl := Option.some.inj hprev
          cases groups with
          | nil => cases hm
          | cons g' groups =>
            obtain rfl : g'.first = k := (List.cons.inj he).1
            exact hlink g' rfl
        | cons x front =>
          rw [List.getLast?_append_of_ne_nil _ (by simp)] at hprev
          exact hp prev hprev
    · rintro ⟨front, back, he, hp⟩
      obtain ⟨front', rfl, ht⟩ | ⟨back', hall, ht⟩ := List.append_eq_append_iff.mp he
      · refine .inr (ih.mpr ⟨front', back, ht, fun prev hprev => hp prev ?_⟩)
        rw [List.getLast?_append, Option.mem_def.mp hprev]
        rfl
      cases back' with
      | nil => exact .inr (ih.mpr ⟨[], back, ht.symm, by simp⟩)
      | cons x back' =>
        obtain rfl : k = x := (List.cons.inj ht).1
        cases front with
        | nil => exact .inl (List.cons.inj hall).1.symm
        | cons x front =>
          -- inside the group the comment goes on with the one before it
          rw [hall] at hg
          obtain ⟨prev, hprev⟩ : ∃ prev, (x :: front).getLast? = some prev :=
            ⟨_, List.getLast?_eq_some_getLast (by simp)⟩
          exact absurd ((List.isChain_append.mp hg).2.2 prev hprev k rfl) (hp prev hprev)

end groups

/-- The comments of a source come together in groups, which are found one after another. Two
comments in succession are of one group exactly if the second goes on with the first, so a block
comment is a group by itself. Where the scan counts all lines, there is a block on those lines on
which a comment opens that does not go on with the one before it. -/
theorem groups_of_extract {language : Language} (hp : ∀ rule ∈ language.rules, rule.Proper)
    (path : String) (data : Bytes) :
    ∃ cs stop out, ∃ groups : List Group,
      (∀ cs' stop', Scan language.rules [] data cs' stop' ↔ cs' = cs ∧ stop' = stop) ∧
      extract path data language = some out ∧
      out.blocks = (Collected.ofPieces (cut language.rules data).list).blocks ∧
      (Collected.ofPieces (cut language.rules data).list).settle.found =
        (groups.map Group.entry).reverse ∧
      groups.flatMap Group.all = cs ∧
      (∀ g ∈ groups, g.all.IsChain (Continues language.rules data)) ∧
      groups.IsChain (fun g h => ¬ Continues language.rules data g.latest h.first) ∧
      (∀ g ∈ groups, ∀ k ∈ g.all, (∀ opener, k.rule ≠ .line opener) → g.all = [k]) ∧
      (CountsLines language.rules data → ∀ n, n ∈ out.blocks.lines ↔
        ∃ front k back, cs = front ++ k :: back ∧
          (∀ prev ∈ front.getLast?, ¬ Continues language.rules data prev k) ∧
          n = 1 + newlines k.before) := by
  have hs : ∀ p ∈ (cut language.rules data).list, ∀ n before,
      (CountsLines language.rules data → n = 1 + newlines before) →
      CountsLines language.rules data → n + p.lines = 1 + newlines (before ++ p.text) :=
    fun p hm n before hn hc => by
      rw [newlines_append, ← hc.lines_of_mem_cut p hm, hn hc, Nat.add_assoc]
  obtain ⟨gs, hg, hchain, hapart⟩ :=
    (Chained.start (P := fun n before => CountsLines language.rules data → n = 1 + newlines before)
      fun _ => rfl).foldl_take hs
  have hchain' : ∀ g ∈ gs.reverse, g.all.IsChain (Continues language.rules data) :=
    fun g hm => hchain g (List.mem_reverse.mp hm)
  have hapart' := List.isChain_reverse.mpr hapart
  refine ⟨_, _, _, gs.reverse, fun cs' stop' => scan_iff hp, extract_of_proper hp path data, rfl,
    ?_, hg.all, hchain', hapart', ?_, ?_⟩
  · rw [List.map_reverse, List.reverse_reverse]
    exact hg.found
  · intro g hm k hk hline
    refine eq_singleton_of_isChain (hchain' g hm) hk ?_ ?_
    · rintro prev ⟨_, _, -, hr, ⟨opener, _, hl, -⟩, -⟩
      exact hline opener (hr.trans hl)
    · rintro next ⟨_, _, -, -, ⟨opener, _, hl, -⟩, -⟩
      exact hline opener hl
  · intro hc n
    have hfirst {k : Comment} := mem_first_iff hchain' hapart' (k := k)
    rw [hg.all] at hfirst
    have hlines : n ∈ (Collected.ofPieces (cut language.rules data).list).blocks.lines ↔
        ∃ g ∈ gs, g.line = n := by
      rw [Collected.blocks, mem_lines_ofFound, Collected.ofPieces, hg.found, List.map_map]
      exact List.mem_map
    rw [hlines]
    constructor
    · rintro ⟨g, hm, rfl⟩
      obtain ⟨front, back, he, hprev⟩ :=
        hfirst.mp (List.mem_map_of_mem (List.mem_reverse.mpr hm))
      exact ⟨front, g.first, back, he, hprev, hg.first g hm hc⟩
    · rintro ⟨front, k, back, he, hprev, rfl⟩
      obtain ⟨g, hm, rfl⟩ := List.mem_map.mp (hfirst.mpr ⟨front, back, he, hprev⟩)
      have hm := List.mem_reverse.mp hm
      exact ⟨g, hm, hg.first g hm hc⟩

theorem groups_of_extract_tall :
    (∀ rule ∈ tallLanguage.rules, rule.Proper) ∧ CountsLines tallLanguage.rules tallSource ∧
      ∃ cs stop, ∃ groups : List Group, Scan tallLanguage.rules [] tallSource cs stop ∧
        groups.flatMap Group.all = cs ∧
        groups.map Group.text = [ofText "p\nq", ofText "\nr", ofText "s"] ∧
        ∀ n, n ∈ [2, 3, 6] ↔ ∃ front k back, cs = front ++ k :: back ∧
          (∀ prev ∈ front.getLast?, ¬ Continues tallLanguage.rules tallSource prev k) ∧
          n = 1 + newlines k.before := by
  have hp : ∀ rule ∈ tallLanguage.rules, rule.Proper := fun rule hm => (countable_tall rule hm).proper
  have hc := keepsLines_tall.countsLines countable_tall
  obtain ⟨cs, stop, out, groups, hs, ho, -, hf, ha, -, -, -, hl⟩ :=
    groups_of_extract hp "f.rb" tallSource
  have hx : (extract "f.rb" tallSource tallLanguage).map (·.blocks.lines) = some [2, 3, 6] := by cbv
  have hfound : (Collected.ofPieces (cut tallLanguage.rules tallSource).list).settle.found =
      [(6, ofText "s"), (3, ofText "\nr"), (2, ofText "p\nq")] := by cbv
  rw [ho] at hx
  have hlines : out.blocks.lines = [2, 3, 6] := Option.some.inj hx
  rw [hfound, ← List.reverse_eq_iff] at hf
  refine ⟨hp, hc, cs, stop, groups, (hs _ _).mpr ⟨rfl, rfl⟩, ha, ?_, hlines ▸ hl hc⟩
  have ht := congrArg (List.map Prod.snd) hf
  rw [List.map_map] at ht
  exact ht.symm

end CommentBlocks
