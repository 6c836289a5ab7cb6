import CommentBlocks.Language.Rule

namespace CommentBlocks

open Bytes

def splitAtMark (mark : Bytes) : Bytes → Option (Bytes × Bytes)
  | [] => if mark.isEmpty then some ([], []) else none
  | b :: rest =>
    if mark.isPrefixOf (b :: rest) then some ([], (b :: rest).drop mark.length)
    else (splitAtMark mark rest).map fun (body, after) => (b :: body, after)

def lineOf (b : UInt8) : Nat := if b = newline then 1 else 0

/-- Reads the content of a string with its closing delimiter. An escape takes the byte behind it
into the string, and the lines of the content are counted on the way. -/
def closeQuoted (delimiter : Bytes) (escape : Option UInt8) : Bytes → Option (Bytes × Nat × Bytes)
  | [] => none
  | b :: rest =>
    if delimiter.isPrefixOf (b :: rest) then
      some (delimiter, 0, (b :: rest).drop delimiter.length)
    else if some b = escape then
      match rest with
      | [] => none
      | c :: rest => (closeQuoted delimiter escape rest).map fun (body, lines, after) =>
          (b :: c :: body, lineOf c + lines, after)
    else (closeQuoted delimiter escape rest).map fun (body, lines, after) =>
      (b :: body, lineOf b + lines, after)

def splitInLine (quote : Bytes) : Bytes → Option (Bytes × Bytes)
  | [] => none
  | b :: rest =>
    if quote.isPrefixOf (b :: rest) then some ([], (b :: rest).drop quote.length)
    else if b = newline then none
    else (splitInLine quote rest).map fun (body, after) => (b :: body, after)

def charLength (lead : UInt8) : Nat :=
  if lead &&& 0xE0 = 0xC0 then 2
  else if lead &&& 0xF0 = 0xE0 then 3
  else if lead &&& 0xF8 = 0xF0 then 4
  else 1

/-- Reads what stands between the quotes of a character literal: an escape with all that follows
up to the quote, or one character. Without a quote in its place there is no literal. -/
def closeCharacter (quote : Bytes) (escape : Option UInt8) : Bytes → Option (Bytes × Bytes)
  | [] => none
  | b :: rest =>
    if some b = escape then
      match rest with
      | [] => none
      | c :: rest => (splitInLine quote rest).map fun (body, after) => (b :: c :: body, after)
    else if b = newline then none
    else
      let width := charLength b
      let after := (b :: rest).drop width
      if !after.isEmpty && quote.isPrefixOf after then
        some ((b :: rest).take width, after.drop quote.length)
      else none

theorem append_drop_of_isPrefixOf {mark data : Bytes} (h : mark.isPrefixOf data = true) :
    mark ++ data.drop mark.length = data := by
  obtain ⟨rest, rfl⟩ := List.isPrefixOf_iff_prefix.mp h
  simp

theorem splitAtMark_append {mark data body after : Bytes}
    (h : splitAtMark mark data = some (body, after)) : body ++ mark ++ after = data := by
  fun_induction splitAtMark mark data generalizing body with
  | case1 hm =>
    obtain ⟨rfl, rfl⟩ := by simpa using h
    simpa using hm
  | case2 => simp at h
  | case3 b rest hm =>
    obtain ⟨rfl, rfl⟩ := by simpa using h
    exact append_drop_of_isPrefixOf hm
  | case4 b rest hm ih =>
    obtain ⟨⟨body', after'⟩, hs, he⟩ := Option.map_eq_some_iff.mp h
    obtain ⟨rfl, rfl⟩ := by simpa using he
    simpa using ih hs

theorem closeQuoted_append {delimiter data body after : Bytes} {escape : Option UInt8} {lines : Nat}
    (h : closeQuoted delimiter escape data = some (body, lines, after)) : body ++ after = data := by
  fun_induction closeQuoted delimiter escape data generalizing body lines with
  | case1 => simp at h
  | case2 b rest hm =>
    obtain ⟨rfl, rfl, rfl⟩ := by simpa using h
    exact append_drop_of_isPrefixOf hm
  | case3 => simp at h
  | case4 b _ _ c rest ih =>
    obtain ⟨⟨body', lines', after'⟩, hs, he⟩ := Option.map_eq_some_iff.mp h
    obtain ⟨rfl, rfl, rfl⟩ := by simpa using he
    simpa using ih hs
  | case5 b rest _ _ ih =>
    obtain ⟨⟨body', lines', after'⟩, hs, he⟩ := Option.map_eq_some_iff.mp h
    obtain ⟨rfl, rfl, rfl⟩ := by simpa using he
    simpa using ih hs

theorem splitInLine_append {quote data body after : Bytes}
    (h : splitInLine quote data = some (body, after)) : body ++ quote ++ after = data := by
  fun_induction splitInLine quote data generalizing body with
  | case1 => simp at h
  | case2 b rest hm =>
    obtain ⟨rfl, rfl⟩ := by simpa using h
    exact append_drop_of_isPrefixOf hm
  | case3 => simp at h
  | case4 b rest _ _ ih =>
    obtain ⟨⟨body', after'⟩, hs, he⟩ := Option.map_eq_some_iff.mp h
    obtain ⟨rfl, rfl⟩ := by simpa using he
    simpa using ih hs

theorem closeCharacter_append {quote data body after : Bytes} {escape : Option UInt8}
    (h : closeCharacter quote escape data = some (body, after)) : body ++ quote ++ after = data := by
  cases data with
  | nil => simp [closeCharacter] at h
  | cons b rest =>
    rw [closeCharacter.eq_def] at h
    dsimp only at h
    split at h
    · cases rest with
      | nil => simp at h
      | cons c rest =>
        obtain ⟨⟨body', after'⟩, hs, he⟩ := Option.map_eq_some_iff.mp h
        obtain ⟨rfl, rfl⟩ := by simpa using he
        simpa using splitInLine_append hs
    · split at h
      · simp at h
      · split at h
        · next hq =>
          have hm := (Bool.and_eq_true _ _ ▸ hq).2
          obtain ⟨rfl, rfl⟩ := Prod.mk.inj (Option.some.inj h)
          rw [List.append_assoc, append_drop_of_isPrefixOf hm, List.take_append_drop]
        · simp at h

end CommentBlocks
