import CommentBlocks.Source.Extract
import Mathlib.Data.List.TakeWhile

namespace CommentBlocks

open Bytes

/-- A complete comment: the bytes of the source before it, the rule that it falls under, and its
body. -/
structure Comment where
  before : Bytes
  rule : Rule
  body : Bytes
  deriving DecidableEq

namespace Rule

def Proper : Rule → Prop
  | quoted delimiter _ => delimiter ≠ []
  | character quote _ => quote ≠ []
  | line opener => opener ≠ []
  | block opener closer => opener ≠ [] ∧ closer ≠ []

/-- The rule takes bytes: its opener, or at least the closer of a comment that opens at nothing. -/
def Advances : Rule → Prop
  | quoted delimiter _ => delimiter ≠ []
  | character quote _ => quote ≠ []
  | line opener => opener ≠ []
  | block _ closer => closer ≠ []

def Opens (rules : List Rule) (rule : Rule) (data : Bytes) : Prop :=
  rules.find? (·.opensAt data) = some rule

inductive IsLiteral : Rule → Prop
  | quoted {delimiter escape} : IsLiteral (quoted delimiter escape)
  | character {quote escape} : IsLiteral (character quote escape)

end Rule

/-- The comments of a source behind the bytes `before`, and the bytes before the string or comment
that does not end, if there is one. The body of a line comment ends with the line, without one
carriage return, and that of a block comment before the first closer. -/
inductive Scan (rules : List Rule) : Bytes → Bytes → List Comment → Option Bytes → Prop
  | done {before} : Scan rules before [] [] none
  | plain {before b rest cs o} (ho : ∀ rule ∈ rules, rule.opensAt (b :: rest) = false)
    (h : Scan rules (before ++ [b]) rest cs o) : Scan rules before (b :: rest) cs o
  | literal {before data rest rule p cs o} (ho : Rule.Opens rules rule data) (hl : rule.IsLiteral)
    (hr : rule.read data = .piece p rest) (h : Scan rules (before ++ p.text) rest cs o) :
    Scan rules before data cs o
  | openQuoted {before data delimiter escape}
    (ho : Rule.Opens rules (.quoted delimiter escape) data)
    (hr : (Rule.quoted delimiter escape).read data = .unclosed) :
    Scan rules before data [] (some before)
  | line {before opener body rest cs o}
    (ho : Rule.Opens rules (.line opener) (opener ++ body ++ rest)) (hb : newline ∉ body)
    (hr : ∀ b ∈ rest.head?, b = newline) (h : Scan rules (before ++ opener ++ body) rest cs o) :
    Scan rules before (opener ++ body ++ rest) (⟨before, .line opener, dropReturn body⟩ :: cs) o
  | block {before opener body closer rest cs o}
    (ho : Rule.Opens rules (.block opener closer) (opener ++ body ++ closer ++ rest))
    (hb : ∀ k < body.length, ¬ closer <+: (body ++ closer ++ rest).drop k)
    (h : Scan rules (before ++ opener ++ body ++ closer) rest cs o) :
    Scan rules before (opener ++ body ++ closer ++ rest)
      (⟨before, .block opener closer, body⟩ :: cs) o
  | openBlock {before opener closer rest}
    (ho : Rule.Opens rules (.block opener closer) (opener ++ rest)) (hb : ¬ closer <:+: rest) :
    Scan rules before (opener ++ rest) [] (some before)

theorem splitAtMark_eq_some_iff {mark data body after : Bytes} :
    splitAtMark mark data = some (body, after) ↔
      data = body ++ mark ++ after ∧ ∀ k < body.length, ¬ mark <+: data.drop k := by
  constructor
  · intro h
    refine ⟨(splitAtMark_append h).symm, ?_⟩
    fun_induction splitAtMark mark data generalizing body with
    | case1 hm =>
      obtain ⟨rfl, rfl⟩ := by simpa using h
      simp
    | case2 => simp at h
    | case3 b rest hm =>
      obtain ⟨rfl, rfl⟩ := by simpa using h
      simp
    | case4 b rest hm ih =>
      obtain ⟨⟨body', after'⟩, hs, he⟩ := Option.map_eq_some_iff.mp h
      obtain ⟨rfl, rfl⟩ := by simpa using he
      intro k hk hp
      cases k with
      | zero => exact hm (List.isPrefixOf_iff_prefix.mpr hp)
      | succ k => exact ih hs k (by simpa using hk) (by simpa using hp)
  · rintro ⟨rfl, hk⟩
    induction body with
    | nil =>
      cases hd : mark ++ after with
      | nil => simp_all [splitAtMark]
      | cons b rest =>
        have hp : mark.isPrefixOf (b :: rest) = true := by
          rw [List.isPrefixOf_iff_prefix, ← hd]
          exact List.prefix_append _ _
        rw [List.nil_append, hd, splitAtMark, if_pos hp, ← hd, List.drop_left]
    | cons b body ih =>
      have hp : ¬ mark.isPrefixOf (b :: (body ++ mark ++ after)) = true := by
        rw [List.isPrefixOf_iff_prefix]
        simpa using hk 0 (by simp)
      have ht := ih fun k hl => by simpa using hk (k + 1) (by simpa using hl)
      rw [List.cons_append, List.cons_append, splitAtMark, if_neg hp, ht]
      rfl

theorem splitAtMark_eq_none_iff {mark data : Bytes} :
    splitAtMark mark data = none ↔ ¬ mark <:+: data := by
  fun_induction splitAtMark mark data with
  | case1 hm => simpa using hm
  | case2 hm => simpa using hm
  | case3 b rest hm =>
    have hp := List.isPrefixOf_iff_prefix.mp hm
    simpa using hp.isInfix
  | case4 b rest hm ih =>
    rw [Option.map_eq_none_iff, ih, List.infix_cons_iff, ← List.isPrefixOf_iff_prefix]
    simp [hm]

theorem newline_notMem_takeWhile (data : Bytes) : newline ∉ data.takeWhile (· != newline) := by
  intro hm
  simpa using List.mem_takeWhile_imp hm

theorem takeWhile_ne_append {body rest : Bytes} (hb : newline ∉ body)
    (hr : ∀ b ∈ rest.head?, b = newline) : (body ++ rest).takeWhile (· != newline) = body := by
  induction body with
  | nil => cases rest <;> simp_all
  | cons b body ih => simp_all [Ne.symm]

theorem dropWhile_ne_append {body rest : Bytes} (hb : newline ∉ body)
    (hr : ∀ b ∈ rest.head?, b = newline) : (body ++ rest).dropWhile (· != newline) = rest := by
  induction body with
  | nil => cases rest <;> simp_all
  | cons b body ih => simp_all [Ne.symm]

namespace Piece

def comment? (before : Bytes) : Piece → Option Comment
  | lineComment opener body => some ⟨before, .line opener, dropReturn body⟩
  | blockComment opener body closer => some ⟨before, .block opener closer, body⟩
  | _ => none

end Piece

def commentsFrom (before : Bytes) : List Piece → List Comment
  | [] => []
  | p :: ps => (p.comment? before).toList ++ commentsFrom (before ++ p.text) ps

def Pieces.openFrom? (before : Bytes) (ps : Pieces) : Option Bytes :=
  match ps.ending with
  | .unclosed => some (before ++ ps.list.flatMap Piece.text)
  | _ => none

section cut

variable {rules : List Rule} {rule : Rule} {data rest : Bytes} {b : UInt8} {p : Piece}

theorem Rule.Opens.mem (h : Opens rules rule data) : rule ∈ rules := List.mem_of_find?_eq_some h

theorem Rule.Opens.opensAt (h : Opens rules rule data) : rule.opensAt data = true := by
  simpa using List.find?_some h

theorem head_of_opens (h : Rule.Opens rules rule (b :: rest)) :
    head rules b rest = rule.read (b :: rest) := by
  rw [Rule.Opens] at h
  rw [head, h]

theorem head_of_plain (h : ∀ rule ∈ rules, rule.opensAt (b :: rest) = false) :
    head rules b rest = .piece (.plain b) rest := by
  rw [head, List.find?_eq_none.mpr fun rule hr => by simp [h rule hr]]

theorem cut_of_piece (h : head rules b data = .piece p rest) :
    cut rules (b :: data) = ⟨p :: (cut rules rest).list, (cut rules rest).ending⟩ := by
  rw [cut]
  split <;> simp_all

theorem cut_of_unclosed (h : head rules b data = .unclosed) :
    cut rules (b :: data) = ⟨[], .unclosed⟩ := by
  rw [cut]
  split <;> simp_all

theorem commentsFrom_of_piece {before : Bytes} (h : head rules b data = .piece p rest) :
    commentsFrom before (cut rules (b :: data)).list =
      (p.comment? before).toList ++ commentsFrom (before ++ p.text) (cut rules rest).list := by
  rw [cut_of_piece h]
  rfl

theorem openFrom?_of_piece {before : Bytes} (h : head rules b data = .piece p rest) :
    (cut rules (b :: data)).openFrom? before = (cut rules rest).openFrom? (before ++ p.text) := by
  rw [cut_of_piece h]
  cases he : (cut rules rest).ending <;> simp [Pieces.openFrom?, he]

theorem comment?_plain (before : Bytes) (b : UInt8) : (Piece.plain b).comment? before = none := by
  unfold Piece.plain
  split
  · rfl
  · split <;> rfl

theorem comment?_of_isLiteral {before : Bytes} (hl : rule.IsLiteral)
    (hr : rule.read data = .piece p rest) : p.comment? before = none := by
  cases hl with
  | quoted =>
    simp only [Rule.read] at hr
    split at hr
    · obtain ⟨rfl, rfl⟩ := Head.piece.inj hr
      rfl
    · cases hr
  | character =>
    simp only [Rule.read] at hr
    split at hr <;> obtain ⟨rfl, rfl⟩ := Head.piece.inj hr <;> rfl

theorem Scan.of_read {before : Bytes} {cs : List Comment} {o : Option Bytes}
    (ho : Rule.Opens rules rule data) (hr : rule.read data = .piece p rest)
    (h : Scan rules (before ++ p.text) rest cs o) :
    Scan rules before data ((p.comment? before).toList ++ cs) o := by
  have ha := Rule.read_append ho.opensAt hr
  cases hk : rule with
  | quoted | character =>
    have hl : rule.IsLiteral := by rw [hk]; constructor
    rw [comment?_of_isLiteral hl hr]
    exact .literal ho hl hr h
  | line opener =>
    subst hk
    obtain ⟨rfl, hrest⟩ := Head.piece.inj hr
    obtain ⟨body, hbody⟩ : ∃ body, (data.drop opener.length).takeWhile (· != newline) = body :=
      ⟨_, rfl⟩
    rw [hbody] at ha h ⊢
    obtain rfl : opener ++ body ++ rest = data := ha
    -- `takeWhile` stops where the rest begins: at a newline or at the end
    refine .line ho ?_ ?_ (by simpa [Piece.text] using h)
    · rw [← hbody]
      exact newline_notMem_takeWhile _
    · intro b hb
      have hd := List.head?_dropWhile_not (· != newline) ((opener ++ body ++ rest).drop opener.length)
      rw [hrest, Option.mem_def.mp hb] at hd
      simpa using hd
  | block opener closer =>
    subst hk
    simp only [Rule.read] at hr
    split at hr
    · cases hr
    · split at hr
      · next body after hm =>
        obtain ⟨rfl, rfl⟩ := Head.piece.inj hr
        obtain rfl : opener ++ body ++ closer ++ after = data := ha
        obtain ⟨-, hk⟩ := splitAtMark_eq_some_iff.mp hm
        refine .block ho ?_ (by simpa [Piece.text] using h)
        simpa using hk
      · cases hr

theorem Scan.of_unclosed (before : Bytes) (ho : Rule.Opens rules rule data)
    (hr : rule.read data = .unclosed) : Scan rules before data [] (some before) := by
  cases hk : rule with
  | quoted =>
    subst hk
    exact .openQuoted ho hr
  | character =>
    subst hk
    simp only [Rule.read] at hr
    split at hr <;> cases hr
  | line opener =>
    subst hk
    cases hr
  | block opener closer =>
    subst hk
    have hd := append_drop_of_isPrefixOf (Rule.opener_isPrefixOf ho.opensAt)
    simp only [Rule.read] at hr
    split at hr
    · cases hr
    · split at hr
      · cases hr
      · next hm =>
        rw [← hd] at ho ⊢
        exact .openBlock ho (splitAtMark_eq_none_iff.mp hm)

theorem Rule.Advances.read_ne_endless (h : rule.Advances) (data : Bytes) :
    rule.read data ≠ .endless := by
  cases rule with
  | quoted | character =>
    simp only [Rule.read]
    split <;> simp
  | line => simp [Rule.read]
  | block opener closer =>
    have hc : closer.isEmpty = false := by simpa [Rule.Advances] using h
    simp only [Rule.read, hc, Bool.false_eq_true, if_false]
    split <;> simp

theorem Rule.Proper.advances (h : rule.Proper) : rule.Advances := by
  cases rule with
  | quoted | character | line => exact h
  | block => exact h.2

theorem Rule.Proper.opener_ne_nil (h : rule.Proper) : rule.opener ≠ [] := by
  cases rule with
  | quoted | character | line => exact h
  | block => exact h.1

theorem head_ne_endless (hr : ∀ rule ∈ rules, rule.Advances) (b : UInt8) (data : Bytes) :
    head rules b data ≠ .endless := by
  cases hf : rules.find? (·.opensAt (b :: data)) with
  | none => simp [head, hf]
  | some rule =>
    rw [head_of_opens hf]
    exact (hr rule (Rule.Opens.mem hf)).read_ne_endless _

theorem cut_ne_endless (hr : ∀ rule ∈ rules, rule.Advances) (data : Bytes) :
    (cut rules data).ending ≠ .endless := by
  fun_induction cut rules data with
  | case1 => simp
  | case2 b data p rest h tail ih => exact ih
  | case3 b data h => simp
  | case4 b data h => exact absurd h (head_ne_endless hr b data)

/-- The pieces that a source is cut into show the comments that its rules tell. -/
theorem Scan.of_cut (hp : ∀ rule ∈ rules, rule.Proper) (before data : Bytes) :
    Scan rules before data (commentsFrom before (cut rules data).list)
      ((cut rules data).openFrom? before) := by
  fun_induction cut rules data generalizing before with
  | case1 => simpa [commentsFrom, Pieces.openFrom?] using Scan.done
  | case2 b data p rest hh tail ih =>
    rw [← cut_of_piece hh, commentsFrom_of_piece hh, openFrom?_of_piece hh]
    have hr := ih (before ++ p.text)
    cases hf : rules.find? (·.opensAt (b :: data)) with
    | none =>
      have ho : ∀ rule ∈ rules, rule.opensAt (b :: data) = false := by simpa using hf
      rw [head_of_plain ho] at hh
      obtain ⟨rfl, rfl⟩ := Head.piece.inj hh
      rw [Piece.text_plain] at hr
      rw [comment?_plain, Piece.text_plain]
      exact .plain ho hr
    | some rule =>
      rw [head_of_opens hf] at hh
      exact .of_read hf hh hr
  | case3 b data hh =>
    cases hf : rules.find? (·.opensAt (b :: data)) with
    | none => simp [head, hf] at hh
    | some rule =>
      rw [head_of_opens hf] at hh
      simpa [commentsFrom, Pieces.openFrom?] using Scan.of_unclosed before hf hh
  | case4 b data hh =>
    exact absurd hh (head_ne_endless (fun rule hm => (hp rule hm).advances) b data)

theorem Rule.Proper.cons_of_opens (h : rule.Proper) (ho : Opens rules rule data) :
    ∃ b tail, data = b :: tail ∧ head rules b tail = rule.read data := by
  cases data with
  | nil =>
    have hn := opener_isPrefixOf ho.opensAt
    exact absurd (by simpa using hn) h.opener_ne_nil
  | cons b tail => exact ⟨b, tail, rfl, head_of_opens ho⟩

theorem commentsFrom_of_read {before : Bytes} (h : rule.Proper) (ho : Rule.Opens rules rule data)
    (hr : rule.read data = .piece p rest) :
    commentsFrom before (cut rules data).list =
        (p.comment? before).toList ++ commentsFrom (before ++ p.text) (cut rules rest).list ∧
      (cut rules data).openFrom? before = (cut rules rest).openFrom? (before ++ p.text) := by
  obtain ⟨b, tail, rfl, hh⟩ := h.cons_of_opens ho
  rw [hr] at hh
  exact ⟨commentsFrom_of_piece hh, openFrom?_of_piece hh⟩

theorem cut_of_read_unclosed (h : rule.Proper) (ho : Rule.Opens rules rule data)
    (hr : rule.read data = .unclosed) : cut rules data = ⟨[], .unclosed⟩ := by
  obtain ⟨b, tail, rfl, hh⟩ := h.cons_of_opens ho
  rw [hr] at hh
  exact cut_of_unclosed hh

theorem read_line {opener body : Bytes} (hb : newline ∉ body)
    (hr : ∀ b ∈ rest.head?, b = newline) :
    (Rule.line opener).read (opener ++ body ++ rest) = .piece (.lineComment opener body) rest := by
  rw [Rule.read, List.append_assoc, List.drop_left]
  rw [takeWhile_ne_append hb hr, dropWhile_ne_append hb hr]

theorem read_block {opener body closer : Bytes} (h : (Rule.block opener closer).Proper)
    (hb : ∀ k < body.length, ¬ closer <+: (body ++ closer ++ rest).drop k) :
    (Rule.block opener closer).read (opener ++ body ++ closer ++ rest) =
      .piece (.blockComment opener body closer) rest := by
  have hc : closer.isEmpty = false := by simpa using h.2
  have hs := splitAtMark_eq_some_iff.mpr ⟨rfl, hb⟩
  have hd : (opener ++ body ++ closer ++ rest).drop opener.length = body ++ closer ++ rest := by
    simp
  simp only [Rule.read, hc, Bool.false_eq_true, if_false]
  rw [hd, hs]

theorem read_openBlock {opener closer : Bytes} (h : (Rule.block opener closer).Proper)
    (hb : ¬ closer <:+: rest) :
    (Rule.block opener closer).read (opener ++ rest) = .unclosed := by
  have hc : closer.isEmpty = false := by simpa using h.2
  simp only [Rule.read, hc, Bool.false_eq_true, if_false]
  rw [List.drop_left, splitAtMark_eq_none_iff.mpr hb]

theorem Scan.eq (hp : ∀ rule ∈ rules, rule.Proper) {before : Bytes} {cs : List Comment}
    {o : Option Bytes} (h : Scan rules before data cs o) :
    cs = commentsFrom before (cut rules data).list ∧ o = (cut rules data).openFrom? before := by
  induction h with
  | done => simp [cut, commentsFrom, Pieces.openFrom?]
  | plain ho h ih =>
    have hh := head_of_plain ho
    rw [commentsFrom_of_piece hh, openFrom?_of_piece hh, comment?_plain, Piece.text_plain]
    exact ih
  | literal ho hl hr h ih =>
    obtain ⟨hc, hopen⟩ := commentsFrom_of_read (hp _ ho.mem) ho hr
    rw [hc, hopen, comment?_of_isLiteral hl hr]
    exact ih
  | openQuoted ho hr =>
    rw [cut_of_read_unclosed (hp _ ho.mem) ho hr]
    simp [commentsFrom, Pieces.openFrom?]
  | line ho hb hr h ih =>
    obtain ⟨hc, hopen⟩ := commentsFrom_of_read (hp _ ho.mem) ho (read_line hb hr)
    rw [hc, hopen]
    simpa [Piece.comment?, Piece.text] using ih
  | block ho hb h ih =>
    obtain ⟨hc, hopen⟩ := commentsFrom_of_read (hp _ ho.mem) ho (read_block (hp _ ho.mem) hb)
    rw [hc, hopen]
    simpa [Piece.comment?, Piece.text] using ih
  | openBlock ho hb =>
    rw [cut_of_read_unclosed (hp _ ho.mem) ho (read_openBlock (hp _ ho.mem) hb)]
    simp [commentsFrom, Pieces.openFrom?]

theorem scan_iff (hp : ∀ rule ∈ rules, rule.Proper) {before : Bytes} {cs : List Comment}
    {o : Option Bytes} :
    Scan rules before data cs o ↔
      cs = commentsFrom before (cut rules data).list ∧ o = (cut rules data).openFrom? before := by
  refine ⟨Scan.eq hp, ?_⟩
  rintro ⟨rfl, rfl⟩
  exact .of_cut hp before data

end cut

end CommentBlocks
