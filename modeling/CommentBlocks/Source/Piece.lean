import CommentBlocks.Source.Closing

namespace CommentBlocks

open Bytes

/-- A stretch of source with what it stands for. A literal carries the lines its content crosses,
and the body of a line comment all bytes up to the newline. -/
inductive Piece
  | newline
  | blank (byte : UInt8)
  | code (text : Bytes)
  | literal (text : Bytes) (lines : Nat)
  | lineComment (opener body : Bytes)
  | blockComment (opener body closer : Bytes)
  deriving DecidableEq, Repr

namespace Piece

def text : Piece → Bytes
  | newline => [Bytes.newline]
  | blank b => [b]
  | code t => t
  | literal t _ => t
  | lineComment opener body => opener ++ body
  | blockComment opener body closer => opener ++ body ++ closer

def lines : Piece → Nat
  | newline => 1
  | literal _ n => n
  | blockComment opener body closer => newlines (opener ++ body ++ closer)
  | _ => 0

def plain (b : UInt8) : Piece :=
  if b = Bytes.newline then newline
  else if b ∈ [0x20, 0x09, 0x0D, 0x0B, 0x0C] then blank b
  else code [b]

theorem text_plain (b : UInt8) : (plain b).text = [b] := by
  unfold plain
  split
  · next h => rw [h]; rfl
  · split <;> rfl

end Piece

/-- What stands at the head of a source: a piece with what remains behind it, a literal or comment
that never ends, or a block comment whose empty end cannot be looked for. -/
inductive Head
  | piece (p : Piece) (rest : Bytes)
  | unclosed
  | endless
  deriving DecidableEq, Repr

/-- Reads the literal or comment that `rule` opens at the head of `data`. A quote that closes no
literal is code by itself. -/
def Rule.read (rule : Rule) (data : Bytes) : Head :=
  match rule with
  | quoted delimiter escape =>
    match closeQuoted delimiter (escapeByte escape) (data.drop delimiter.length) with
    | some (body, lines, rest) => .piece (.literal (delimiter ++ body) lines) rest
    | none => .unclosed
  | character quote escape =>
    match closeCharacter quote (escapeByte escape) (data.drop quote.length) with
    | some (body, rest) => .piece (.literal (quote ++ body ++ quote) 0) rest
    | none => .piece (.code quote) (data.drop quote.length)
  | line opener =>
    let body := data.drop opener.length
    .piece (.lineComment opener (body.takeWhile (· != newline))) (body.dropWhile (· != newline))
  | block opener closer =>
    if closer.isEmpty then .endless
    else
      match splitAtMark closer (data.drop opener.length) with
      | some (body, rest) => .piece (.blockComment opener body closer) rest
      | none => .unclosed

def head (rules : List Rule) (b : UInt8) (rest : Bytes) : Head :=
  match rules.find? (·.opensAt (b :: rest)) with
  | some rule => rule.read (b :: rest)
  | none => .piece (.plain b) rest

theorem Rule.read_append {rule : Rule} {data rest : Bytes} {p : Piece}
    (ho : rule.opensAt data = true) (h : rule.read data = .piece p rest) : p.text ++ rest = data := by
  have hd := append_drop_of_isPrefixOf (opener_isPrefixOf ho)
  cases rule with
  | quoted delimiter escape =>
    simp only [read] at h
    split at h
    · next body lines after hc =>
      obtain ⟨rfl, rfl⟩ := Head.piece.inj h
      rw [Piece.text, List.append_assoc, closeQuoted_append hc]
      exact hd
    · simp at h
  | character quote escape =>
    simp only [read] at h
    split at h
    · next body after hc =>
      obtain ⟨rfl, rfl⟩ := Head.piece.inj h
      rw [Piece.text, List.append_assoc, List.append_assoc, ← List.append_assoc body,
        closeCharacter_append hc]
      exact hd
    · obtain ⟨rfl, rfl⟩ := Head.piece.inj h
      exact hd
  | line opener =>
    obtain ⟨rfl, rfl⟩ := Head.piece.inj h
    rw [Piece.text, List.append_assoc, List.takeWhile_append_dropWhile]
    exact hd
  | block opener closer =>
    simp only [read] at h
    split at h
    · simp at h
    · split at h
      · next body after hc =>
        obtain ⟨rfl, rfl⟩ := Head.piece.inj h
        rw [Piece.text, List.append_assoc, List.append_assoc, ← List.append_assoc body,
          splitAtMark_append hc]
        exact hd
      · simp at h

theorem Rule.text_ne_nil_of_read {rule : Rule} {data rest : Bytes} {p : Piece}
    (ho : rule.opensAt data = true) (h : rule.read data = .piece p rest) : p.text ≠ [] := by
  cases rule with
  | quoted delimiter escape =>
    simp only [read] at h
    split at h
    · obtain ⟨rfl, rfl⟩ := Head.piece.inj h
      simp_all [opensAt, opener, Piece.text]
    · simp at h
  | character quote escape =>
    simp only [read] at h
    split at h <;> obtain ⟨rfl, rfl⟩ := Head.piece.inj h <;> simp_all [opensAt, opener, Piece.text]
  | line opener =>
    obtain ⟨rfl, rfl⟩ := Head.piece.inj h
    simp_all [opensAt, Rule.opener, Piece.text]
  | block opener closer =>
    simp only [read] at h
    split at h
    · simp at h
    · split at h
      · obtain ⟨rfl, rfl⟩ := Head.piece.inj h
        simp_all [Piece.text]
      · simp at h

theorem head_append {rules : List Rule} {b : UInt8} {data rest : Bytes} {p : Piece}
    (h : head rules b data = .piece p rest) : p.text ++ rest = b :: data := by
  unfold head at h
  split at h
  · next rule hr =>
    have ho : rule.opensAt (b :: data) = true := by simpa using List.find?_some hr
    exact Rule.read_append ho h
  · obtain ⟨rfl, rfl⟩ := Head.piece.inj h
    rw [Piece.text_plain]
    rfl

theorem text_ne_nil_of_head {rules : List Rule} {b : UInt8} {data rest : Bytes} {p : Piece}
    (h : head rules b data = .piece p rest) : p.text ≠ [] := by
  unfold head at h
  split at h
  · next rule hr =>
    have ho : rule.opensAt (b :: data) = true := by simpa using List.find?_some hr
    exact Rule.text_ne_nil_of_read ho h
  · obtain ⟨rfl, rfl⟩ := Head.piece.inj h
    rw [Piece.text_plain]
    simp

theorem length_lt_of_head {rules : List Rule} {b : UInt8} {data rest : Bytes} {p : Piece}
    (h : head rules b data = .piece p rest) : rest.length < (b :: data).length := by
  have ha := congrArg List.length (head_append h)
  have hp := List.length_pos_iff.mpr (text_ne_nil_of_head h)
  rw [List.length_append] at ha
  omega

inductive Ending
  | complete
  | unclosed
  | endless
  deriving DecidableEq, Repr

structure Pieces where
  list : List Piece
  ending : Ending
  deriving DecidableEq, Repr

def cut (rules : List Rule) (data : Bytes) : Pieces :=
  match data with
  | [] => ⟨[], .complete⟩
  | b :: rest =>
    match _h : head rules b rest with
    | .piece p rest =>
      let tail := cut rules rest
      ⟨p :: tail.list, tail.ending⟩
    | .unclosed => ⟨[], .unclosed⟩
    | .endless => ⟨[], .endless⟩
termination_by data.length
decreasing_by exact length_lt_of_head _h

end CommentBlocks
