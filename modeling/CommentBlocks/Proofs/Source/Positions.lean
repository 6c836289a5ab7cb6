import CommentBlocks.Proofs.Source.Closing
import Mathlib.Data.List.Find

namespace CommentBlocks

open Bytes

/-- A turn of a loop: on to another state, or out of the loop with a result. -/
inductive Turn (σ β : Type)
  | again (s : σ)
  | leave (result : β)

def loop {σ β : Type} (turn : σ → Option (Turn σ β)) : (turns : Nat) → σ → Option β
  | 0, _ => none
  | turns + 1, s =>
    match turn s with
    | some (.again s) => loop turn turns s
    | some (.leave result) => some result
    | none => none

namespace Position

def from? (data : Bytes) (i : Nat) : Option Bytes := if i ≤ data.length then some (data.drop i) else none

def between? (data : Bytes) (i j : Nat) : Option Bytes :=
  if i ≤ j ∧ j ≤ data.length then some ((data.take j).drop i) else none

def closesAt (data quote : Bytes) (i : Nat) : Bool := (from? data i).any (quote.isPrefixOf ·)

/-- Inside of a string, at a position and a line. An escape is passed over with the byte behind it,
even where there is none. The loop is left behind the delimiter, or at the end without a result. -/
def stringTurn (data delimiter : Bytes) (escape : Option UInt8) :
    Nat × Nat → Option (Turn (Nat × Nat) (Option (Nat × Nat)))
  | (pos, line) =>
    if pos < data.length then do
      let rest ← from? data pos
      if delimiter.isPrefixOf rest then some (.leave (some (pos + delimiter.length, line)))
      else do
        let b ← rest[0]?
        if some b = escape then
          some (.again (pos + 2, line + if data[pos + 1]? = some newline then 1 else 0))
        else some (.again (pos + 1, line + lineOf b))
    else some (.leave none)

def letterTurn (data quote : Bytes) (i : Nat) : Option (Turn Nat Nat) :=
  if i < data.length then do
    let b ← data[i]?
    if b ≠ newline ∧ ¬ closesAt data quote i then some (.again (i + 1)) else some (.leave i)
  else some (.leave i)

def letterEnd? (turns : Nat) (data quote : Bytes) (escape : Option UInt8) (start : Nat) :
    Option (Option Nat) :=
  match data[start]? with
  | none => some none
  | some b =>
    if some b = escape then do
      let i ← loop (letterTurn data quote) turns (start + 2)
      some (if closesAt data quote i then some i else none)
    else if b = newline then some none
    else
      let i := start + charLength b
      some (if closesAt data quote i then some i else none)

def windows (n : Nat) : Bytes → List Bytes
  | [] => []
  | b :: rest => if n ≤ (b :: rest).length then (b :: rest).take n :: windows n rest else []

def closerAt? (closer rest : Bytes) : Option (Option Nat) :=
  if closer.isEmpty then none else some ((windows closer.length rest).findIdx? (· == closer))

/-- What a rule that opens at `pos` passes over. The loop over the source is left at a string or
comment that does not end, together with its line. -/
def ruleTurn (turns : Nat) (data : Bytes) (pos : Nat) (c : Collected) :
    Rule → Option (Turn (Nat × Collected) (Collected × Option Nat))
  | .quoted delimiter escape => do
    let found ← loop (stringTurn data delimiter (Rule.escapeByte escape)) turns
      (pos + delimiter.length, c.line)
    match found with
    | some (pos, line) => some (.again (pos, { c.settle with line := line }))
    | none => some (.leave (c.settle, some c.line))
  | .character quote escape => do
    let close ← letterEnd? turns data quote (Rule.escapeByte escape) (pos + quote.length)
    some (.again (close.getD pos + quote.length, c.settle))
  | .line opener => do
    let behind ← from? data (pos + opener.length)
    let stop := pos + opener.length + behind.findIdx (· == newline)
    let body ← between? data (pos + opener.length) stop
    some (.again (stop, c.take (.lineComment opener body)))
  | .block opener closer => do
    let behind ← from? data (pos + opener.length)
    let found ← closerAt? closer behind
    match found with
    | some n => do
      let body ← between? data (pos + opener.length) (pos + opener.length + n)
      some (.again (pos + opener.length + n + closer.length, c.take (.blockComment opener body closer)))
    | none => some (.leave (c.settle, some c.line))

def scanTurn (turns : Nat) (rules : List Rule) (data : Bytes) :
    Nat × Collected → Option (Turn (Nat × Collected) (Collected × Option Nat))
  | (pos, c) =>
    if pos < data.length then do
      let rest ← from? data pos
      match rules.find? (·.opener.isPrefixOf rest) with
      | some rule => ruleTurn turns data pos c rule
      | none => do
        let b ← rest[0]?
        some (.again (pos + 1, c.take (.plain b)))
    else some (.leave (c, none))

/-- The whole scan, in which no loop may take more than `turns` turns. -/
def extractWithin (turns : Nat) : Extractor := fun path data language =>
  (loop (scanTurn turns language.rules data) turns (0, .start)).map fun (c, stop) =>
    ⟨c.blocks, (stop.map fun line =>
      (⟨path, "", line, .message (.just .unclosed)⟩ : Issue)).toList⟩

variable {data quote delimiter mark rest : Bytes} {escape : Option UInt8} {b : UInt8} {i pos turns : Nat}

section looks

theorem from?_of_le (h : i ≤ data.length) : from? data i = some (data.drop i) := if_pos h

theorem lt_of_drop_cons (h : data.drop pos = b :: rest) : pos < data.length := by
  have hl := congrArg List.length h
  rw [List.length_drop, List.length_cons] at hl
  omega

theorem le_of_drop_nil (h : data.drop pos = []) : data.length ≤ pos := List.drop_eq_nil_iff.mp h

theorem getElem?_of_drop (h : data.drop pos = b :: rest) : data[pos]? = some b := by
  have hd : (data.drop pos)[0]? = data[pos + 0]? := List.getElem?_drop
  rw [h] at hd
  exact hd.symm

theorem drop_succ_of_drop (h : data.drop pos = b :: rest) : data.drop (pos + 1) = rest := by
  rw [← List.drop_drop, h]
  rfl

theorem closesAt_eq (hq : quote ≠ []) (data : Bytes) (i : Nat) :
    closesAt data quote i = quote.isPrefixOf (data.drop i) := by
  by_cases hi : i ≤ data.length
  · rw [closesAt, from?_of_le hi]
    rfl
  · have hd : data.drop i = [] := List.drop_eq_nil_iff.mpr (by omega)
    rw [closesAt, from?, if_neg hi, hd]
    cases quote with
    | nil => exact absurd rfl hq
    | cons => rfl

end looks

section loops

variable {σ β : Type} {turn : σ → Option (Turn σ β)} {s s' : σ} {result : β}

theorem loop_again (h : turn s = some (.again s')) (ht : 0 < turns) :
    loop turn turns s = loop turn (turns - 1) s' := by
  obtain ⟨t, rfl⟩ := Nat.exists_eq_add_of_lt ht
  rw [loop, h]
  rfl

theorem loop_leave (h : turn s = some (.leave result)) (ht : 0 < turns) :
    loop turn turns s = some result := by
  obtain ⟨t, rfl⟩ := Nat.exists_eq_add_of_lt ht
  rw [loop, h]

end loops

section string

variable {line : Nat}

theorem stringTurn_nil (h : data.drop pos = []) :
    stringTurn data delimiter escape (pos, line) = some (.leave none) := by
  have hl := le_of_drop_nil h
  rw [stringTurn, if_neg (by omega)]

theorem stringTurn_cons (h : data.drop pos = b :: rest) :
    stringTurn data delimiter escape (pos, line) =
      if delimiter.isPrefixOf (b :: rest) then some (.leave (some (pos + delimiter.length, line)))
      else if some b = escape then
        some (.again (pos + 2, line + if data[pos + 1]? = some newline then 1 else 0))
      else some (.again (pos + 1, line + lineOf b)) := by
  have hl := lt_of_drop_cons h
  rw [stringTurn, if_pos hl, from?_of_le (Nat.le_of_lt hl), h]
  rfl

theorem stringTurn_escaped (h : data.drop pos = b :: rest)
    (hp : ¬ delimiter.isPrefixOf (b :: rest) = true) (hb : some b = escape) :
    stringTurn data delimiter escape (pos, line) =
      some (.again (pos + 2, line + if data[pos + 1]? = some newline then 1 else 0)) := by
  rw [stringTurn_cons h, if_neg hp, if_pos hb]

theorem loop_stringTurn (hr : data.drop pos = rest) (ht : data.length - pos < turns) :
    loop (stringTurn data delimiter escape) turns (pos, line) =
      some ((closeQuoted delimiter escape rest).map fun (body, lines, _) =>
        (pos + body.length, line + lines)) := by
  fun_induction closeQuoted delimiter escape rest generalizing pos line turns with
  | case1 =>
    rw [loop_leave (stringTurn_nil hr) (by omega)]
    rfl
  | case2 b rest hp =>
    have hturn : stringTurn data delimiter escape (pos, line) =
        some (.leave (some (pos + delimiter.length, line))) := by
      rw [stringTurn_cons hr, if_pos hp]
    rw [loop_leave hturn (by omega)]
    rfl
  | case3 b hb hp =>
    -- an escape is the last byte: the next turn begins behind the end
    have hl := lt_of_drop_cons hr
    have hd : data.drop (pos + 2) = [] := by
      rw [← List.drop_drop, hr]
      rfl
    rw [loop_again (stringTurn_escaped hr hp hb) (by omega),
      loop_leave (stringTurn_nil hd) (by omega)]
    rfl
  | case4 b hb c rest hp ih =>
    have hl := lt_of_drop_cons hr
    have hc := drop_succ_of_drop hr
    have hn : (if data[pos + 1]? = some newline then 1 else 0) = lineOf c := by
      rw [getElem?_of_drop hc, lineOf]
      simp
    rw [loop_again (stringTurn_escaped hr hp hb) (by omega), hn, ih (drop_succ_of_drop hc) (by omega)]
    cases closeQuoted delimiter escape rest with
    | none => rfl
    | some found =>
      simp
      omega
  | case5 b rest hp hb ih =>
    have hl := lt_of_drop_cons hr
    have hturn : stringTurn data delimiter escape (pos, line) =
        some (.again (pos + 1, line + lineOf b)) := by
      rw [stringTurn_cons hr, if_neg hp, if_neg hb]
    rw [loop_again hturn (by omega), ih (drop_succ_of_drop hr) (by omega)]
    cases closeQuoted delimiter escape rest with
    | none => rfl
    | some found =>
      simp
      omega

end string

theorem loop_letterTurn (hq : quote ≠ []) (hr : data.drop i = rest) (ht : data.length - i < turns) :
    ∃ j, loop (letterTurn data quote) turns i = some j ∧
      (if closesAt data quote j then some j else none) =
        (splitInLine quote rest).map fun (body, _) => i + body.length := by
  fun_induction splitInLine quote rest generalizing i turns with
  | case1 =>
    have hl := le_of_drop_nil hr
    have hturn : letterTurn data quote i = some (.leave i) := by
      rw [letterTurn, if_neg (by omega)]
    have hn : closesAt data quote i = false := by
      rw [closesAt_eq hq, hr]
      cases quote with
      | nil => exact absurd rfl hq
      | cons => rfl
    refine ⟨i, loop_leave hturn (by omega), ?_⟩
    rw [hn]
    rfl
  | case2 b rest hp =>
    have hl := lt_of_drop_cons hr
    have hc : closesAt data quote i = true := by rw [closesAt_eq hq, hr, hp]
    have hturn : letterTurn data quote i = some (.leave i) := by
      simp [letterTurn, hl, hc]
    refine ⟨i, loop_leave hturn (by omega), ?_⟩
    rw [hc]
    rfl
  | case3 rest hp =>
    have hl := lt_of_drop_cons hr
    have hn : closesAt data quote i = false := by
      rw [closesAt_eq hq, hr]
      exact Bool.eq_false_iff.mpr hp
    have hturn : letterTurn data quote i = some (.leave i) := by
      rw [letterTurn, if_pos hl, getElem?_of_drop hr]
      simp
    refine ⟨i, loop_leave hturn (by omega), ?_⟩
    rw [hn]
    rfl
  | case4 b rest hp hb ih =>
    have hl := lt_of_drop_cons hr
    have hn : closesAt data quote i = false := by
      rw [closesAt_eq hq, hr]
      exact Bool.eq_false_iff.mpr hp
    have hturn : letterTurn data quote i = some (.again (i + 1)) := by
      rw [letterTurn, if_pos hl, getElem?_of_drop hr]
      simp [hb, hn]
    have ht' : data.length - (i + 1) < turns - 1 := by omega
    obtain ⟨j, hj, he⟩ := ih (drop_succ_of_drop hr) ht'
    refine ⟨j, (loop_again hturn (by omega)).trans hj, ?_⟩
    rw [he]
    cases splitInLine quote rest with
    | none => rfl
    | some found =>
      simp
      omega

theorem letterEnd?_escaped (hq : quote ≠ []) (hr : data.drop pos = b :: rest) (hb : some b = escape)
    (ht : data.length - pos < turns) :
    letterEnd? turns data quote escape pos =
      some ((splitInLine quote (data.drop (pos + 2))).map fun (body, _) => pos + 2 + body.length) := by
  have ht' : data.length - (pos + 2) < turns := by omega
  obtain ⟨j, hj, he⟩ := loop_letterTurn hq rfl ht'
  rw [letterEnd?, getElem?_of_drop hr]
  simp only [if_pos hb, hj]
  exact congrArg some he

theorem letterEnd?_eq (hq : quote ≠ []) (hr : data.drop pos = rest)
    (ht : data.length - pos < turns) :
    letterEnd? turns data quote escape pos =
      some ((closeCharacter quote escape rest).map fun (body, _) => pos + body.length) := by
  fun_cases closeCharacter quote escape rest with
  | case1 =>
    rw [letterEnd?, List.getElem?_eq_none (le_of_drop_nil hr)]
    rfl
  | case2 b hb =>
    have hd : data.drop (pos + 2) = [] := by
      rw [← List.drop_drop, hr]
      rfl
    rw [letterEnd?_escaped hq hr hb ht, hd]
    rfl
  | case3 b hb c rest =>
    rw [letterEnd?_escaped hq hr hb ht, drop_succ_of_drop (drop_succ_of_drop hr)]
    cases splitInLine quote rest with
    | none => rfl
    | some found =>
      simp
      omega
  | case4 rest hb =>
    rw [letterEnd?, getElem?_of_drop hr]
    simp only [if_neg hb, if_pos]
    rfl
  | case5 b rest hb hn width after ha =>
    obtain ⟨hne, hp⟩ := (Bool.and_eq_true _ _).mp ha
    have hd : data.drop (pos + charLength b) = after := by rw [← List.drop_drop, hr]
    have hc : closesAt data quote (pos + charLength b) = true := by rw [closesAt_eq hq, hd, hp]
    have hl : width ≤ (b :: rest).length := by
      have hlen : after.length ≠ 0 := by simpa using hne
      rw [List.length_drop] at hlen
      omega
    rw [letterEnd?, getElem?_of_drop hr]
    simp only [if_neg hb, if_neg hn, hc, if_true, Option.map_some, List.length_take]
    rw [Nat.min_eq_left hl]
  | case6 b rest hb hn width after ha =>
    have hd : data.drop (pos + charLength b) = after := by rw [← List.drop_drop, hr]
    have hc : closesAt data quote (pos + charLength b) = false := by
      rw [closesAt_eq hq, hd, Bool.eq_false_iff]
      intro hp
      apply ha
      have hne : after ≠ [] := by
        intro he
        rw [he] at hp
        simp [hq] at hp
      simp [hp, hne]
    rw [letterEnd?, getElem?_of_drop hr]
    simp only [if_neg hb, if_neg hn, hc]
    rfl

theorem windows_findIdx? (hc : mark ≠ []) (rest : Bytes) :
    (windows mark.length rest).findIdx? (· == mark) =
      (splitAtMark mark rest).map fun (body, _) => body.length := by
  induction rest with
  | nil => simp [windows, splitAtMark, hc]
  | cons b rest ih =>
    have he : ((b :: rest).take mark.length == mark) = mark.isPrefixOf (b :: rest) := by
      rw [Bool.eq_iff_iff, beq_iff_eq, List.isPrefixOf_iff_prefix, List.prefix_iff_eq_take, eq_comm]
    by_cases hl : mark.length ≤ (b :: rest).length
    · rw [windows, if_pos hl, List.findIdx?_cons, he, splitAtMark]
      by_cases hp : mark.isPrefixOf (b :: rest) = true
      · rw [if_pos hp, if_pos hp]
        rfl
      · rw [if_neg hp, if_neg hp, ih]
        cases splitAtMark mark rest <;> rfl
    · have hn : ¬ mark <:+: b :: rest := fun h => hl h.length_le
      rw [windows, if_neg hl, splitAtMark_eq_none_iff.mpr hn]
      rfl

theorem closerAt?_eq (hc : mark ≠ []) (rest : Bytes) :
    closerAt? mark rest = some ((splitAtMark mark rest).map fun (body, _) => body.length) := by
  rw [closerAt?, if_neg (by simpa using hc), windows_findIdx? hc]

theorem between?_eq (n : Nat) (h : pos + n ≤ data.length) :
    between? data pos (pos + n) = some ((data.drop pos).take n) := by
  rw [between?, if_pos ⟨Nat.le_add_right _ _, h⟩, List.drop_take, Nat.add_sub_cancel_left]

section turn

variable {rules : List Rule} {rule : Rule} {c : Collected} {p : Piece}

theorem opensAt_eq (h : rule.Advances) (data : Bytes) :
    rule.opensAt data = rule.opener.isPrefixOf data := by
  cases rule with
  | quoted | character | line => simp_all [Rule.opensAt, Rule.opener, Rule.Advances]
  | block => rfl

def turnOf (pos : Nat) (c : Collected) : Head → Turn (Nat × Collected) (Collected × Option Nat)
  | .piece p _ => .again (pos + p.text.length, c.take p)
  | .unclosed | .endless => .leave (c.settle, some c.line)

theorem ruleTurn_quoted {escape : Option Char}
    (hd : data.drop (pos + delimiter.length) = rest.drop delimiter.length)
    (ht : data.length < turns) :
    ruleTurn turns data pos c (.quoted delimiter escape) =
      some (turnOf pos c ((Rule.quoted delimiter escape).read rest)) := by
  have ht' : data.length - (pos + delimiter.length) < turns := by omega
  rw [ruleTurn, loop_stringTurn hd ht', Rule.read]
  cases closeQuoted delimiter (Rule.escapeByte escape) (rest.drop delimiter.length) with
  | none => rfl
  | some found => simp [turnOf, Piece.text, Collected.take, Nat.add_assoc]

theorem ruleTurn_character {escape : Option Char} (hq : quote ≠ [])
    (hd : data.drop (pos + quote.length) = rest.drop quote.length) (ht : data.length < turns) :
    ruleTurn turns data pos c (.character quote escape) =
      some (turnOf pos c ((Rule.character quote escape).read rest)) := by
  have ht' : data.length - (pos + quote.length) < turns := by omega
  rw [ruleTurn, letterEnd?_eq hq hd ht', Rule.read]
  cases closeCharacter quote (Rule.escapeByte escape) (rest.drop quote.length) with
  | none => rfl
  | some found =>
    have hs (text : Bytes) : c.take (.literal text 0) = c.settle := by
      simp only [Collected.take, Nat.add_zero, ← c.line_settle]
    simp [turnOf, Piece.text, hs, Nat.add_assoc]

theorem take_findIdx_newline (behind : Bytes) :
    behind.take (behind.findIdx (· == newline)) = behind.takeWhile (· != newline) := by
  have hp : (fun b : UInt8 => !(b != newline)) = (· == newline) := by
    funext b
    exact Bool.not_not _
  rw [List.takeWhile_eq_take_findIdx_not, hp]

theorem ruleTurn_line {opener : Bytes}
    (hd : data.drop (pos + opener.length) = rest.drop opener.length)
    (hl : pos + opener.length ≤ data.length) :
    ruleTurn turns data pos c (.line opener) =
      some (turnOf pos c ((Rule.line opener).read rest)) := by
  obtain ⟨behind, hr⟩ : ∃ behind, rest.drop opener.length = behind := ⟨_, rfl⟩
  have hi : behind.findIdx (· == newline) ≤ behind.length := List.findIdx_le_length
  have hn : (behind.takeWhile (· != newline)).length = behind.findIdx (· == newline) := by
    rw [← take_findIdx_newline, List.length_take, Nat.min_eq_left hi]
  have hle : pos + opener.length + behind.findIdx (· == newline) ≤ data.length := by
    have hb : behind.length = data.length - (pos + opener.length) := by
      rw [← hr, ← hd, List.length_drop]
    omega
  rw [ruleTurn, from?_of_le hl, hd, hr, Option.bind_eq_bind, Option.bind_some]
  dsimp only
  rw [between?_eq _ hle, hd, hr, take_findIdx_newline]
  simp [turnOf, Rule.read, Piece.text, hr, hn, Nat.add_assoc]

theorem ruleTurn_block {opener closer : Bytes} (hc : closer ≠ [])
    (hd : data.drop (pos + opener.length) = rest.drop opener.length)
    (hl : pos + opener.length ≤ data.length) :
    ruleTurn turns data pos c (.block opener closer) =
      some (turnOf pos c ((Rule.block opener closer).read rest)) := by
  have he : closer.isEmpty = false := by simpa using hc
  rw [ruleTurn, from?_of_le hl, hd, Option.bind_eq_bind, Option.bind_some, closerAt?_eq hc, Rule.read]
  simp only [he, Bool.false_eq_true, if_false]
  cases hs : splitAtMark closer (rest.drop opener.length) with
  | none => rfl
  | some found =>
    have hw := splitAtMark_append hs
    have hle : pos + opener.length + found.1.length ≤ data.length := by
      have hlen := congrArg List.length hw
      rw [← hd, List.length_drop, List.length_append, List.length_append] at hlen
      omega
    have hb : between? data (pos + opener.length) (pos + opener.length + found.1.length) =
        some found.1 := by
      rw [between?_eq _ hle, hd, ← hw, List.append_assoc, List.take_left]
    simp only [Option.bind_eq_bind, Option.bind_some, Option.map_some, hb]
    simp [turnOf, Piece.text, Nat.add_assoc]

theorem ruleTurn_eq (hd : data.drop pos = rest) (ho : rule.opener <+: rest) (ha : rule.Advances)
    (hl : pos ≤ data.length) (ht : data.length < turns) :
    ruleTurn turns data pos c rule = some (turnOf pos c (rule.read rest)) := by
  have hle : pos + rule.opener.length ≤ data.length := by
    have hlen := ho.length_le
    rw [← hd, List.length_drop] at hlen
    omega
  have hdrop : data.drop (pos + rule.opener.length) = rest.drop rule.opener.length := by
    rw [← hd, List.drop_drop]
  cases rule with
  | quoted => exact ruleTurn_quoted hdrop ht
  | character => exact ruleTurn_character ha hdrop ht
  | line => exact ruleTurn_line hdrop hle
  | block => exact ruleTurn_block ha hdrop hle

theorem scanTurn_eq (hd : data.drop pos = b :: rest) (hr : ∀ rule ∈ rules, rule.Advances)
    (ht : data.length < turns) :
    scanTurn turns rules data (pos, c) = some (turnOf pos c (head rules b rest)) := by
  have hl := lt_of_drop_cons hd
  have hf : rules.find? (·.opener.isPrefixOf (b :: rest)) = rules.find? (·.opensAt (b :: rest)) :=
    List.find?_congr fun rule hm => (opensAt_eq (hr rule hm) _).symm
  rw [scanTurn, if_pos hl, from?_of_le (Nat.le_of_lt hl), hd, Option.bind_eq_bind, Option.bind_some,
    hf, head]
  cases ho : rules.find? (·.opensAt (b :: rest)) with
  | none =>
    simp [turnOf, Piece.text_plain]
  | some rule =>
    have hopen : Rule.Opens rules rule (b :: rest) := ho
    apply ruleTurn_eq hd
    · exact List.isPrefixOf_iff_prefix.mp (Rule.opener_isPrefixOf hopen.opensAt)
    · exact hr rule hopen.mem
    · exact Nat.le_of_lt hl
    · exact ht

theorem scanTurn_nil (h : data.drop pos = []) :
    scanTurn turns rules data (pos, c) = some (.leave (c, none)) := by
  have hl := le_of_drop_nil h
  rw [scanTurn, if_neg (by omega)]

/-- The loop over the source collects what the pieces of the source give, and needs no more turns
than there are bytes, and one. -/
theorem loop_scanTurn {n : Nat} (hr : ∀ rule ∈ rules, rule.Advances) (ht : data.length < turns)
    (hd : data.drop pos = rest) (hn : data.length - pos < n) :
    ∃ c', loop (scanTurn turns rules data) n (pos, c) =
        some (c', if (cut rules rest).ending = .unclosed then
          some ((cut rules rest).list.foldl Collected.take c).line else none) ∧
      c'.blocks = ((cut rules rest).list.foldl Collected.take c).blocks := by
  fun_induction cut rules rest generalizing pos c n with
  | case1 => exact ⟨c, loop_leave (scanTurn_nil hd) (by omega), rfl⟩
  | case2 b rest p after hh tail =>
    rename_i ih
    have hl := lt_of_drop_cons hd
    have hp := List.length_pos_iff.mpr (text_ne_nil_of_head hh)
    have hturn := scanTurn_eq hd hr ht (c := c)
    rw [hh] at hturn
    have hd' : data.drop (pos + p.text.length) = after := by
      rw [← List.drop_drop, hd, ← head_append hh, List.drop_left]
    have hn' : data.length - (pos + p.text.length) < n - 1 := by omega
    obtain ⟨c', hc, hb⟩ := ih hd' hn' (c := c.take p)
    exact ⟨c', (loop_again hturn (by omega)).trans hc, hb⟩
  | case3 b rest hh =>
    have hturn := scanTurn_eq hd hr ht (c := c)
    rw [hh] at hturn
    refine ⟨c.settle, loop_leave hturn (by omega), ?_⟩
    rw [Collected.blocks, c.settle_settle]
    rfl
  | case4 b rest hh => exact absurd hh (head_ne_endless hr b rest)

theorem lt_of_scanTurn {pos' : Nat} {c' : Collected} (hr : ∀ rule ∈ rules, rule.Advances)
    (ht : data.length < turns) (h : scanTurn turns rules data (pos, c) = some (.again (pos', c'))) :
    pos < pos' ∧ pos' ≤ data.length := by
  cases hd : data.drop pos with
  | nil =>
    rw [scanTurn_nil hd] at h
    cases h
  | cons b rest =>
    rw [scanTurn_eq hd hr ht] at h
    cases hh : head rules b rest with
    | unclosed | endless =>
      rw [hh] at h
      cases h
    | piece p after =>
      rw [hh] at h
      obtain rfl : pos + p.text.length = pos' := congrArg Prod.fst (Turn.again.inj (Option.some.inj h))
      have hp := List.length_pos_iff.mpr (text_ne_nil_of_head hh)
      have hlen := congrArg List.length (head_append hh)
      have hl := lt_of_drop_cons hd
      rw [← hd, List.length_drop, List.length_append] at hlen
      omega

end turn

theorem lt_of_stringTurn {line pos' line' : Nat}
    (h : stringTurn data delimiter escape (pos, line) = some (.again (pos', line'))) :
    pos < pos' ∧ pos' ≤ data.length + 1 := by
  cases hd : data.drop pos with
  | nil =>
    rw [stringTurn_nil hd] at h
    cases h
  | cons b rest =>
    have hl := lt_of_drop_cons hd
    by_cases hp : delimiter.isPrefixOf (b :: rest) = true
    · rw [stringTurn_cons hd, if_pos hp] at h
      cases h
    · by_cases hb : some b = escape
      · rw [stringTurn_escaped hd hp hb] at h
        obtain rfl : pos + 2 = pos' := congrArg Prod.fst (Turn.again.inj (Option.some.inj h))
        omega
      · rw [stringTurn_cons hd, if_neg hp, if_neg hb] at h
        obtain rfl : pos + 1 = pos' := congrArg Prod.fst (Turn.again.inj (Option.some.inj h))
        omega

theorem lt_of_letterTurn {j : Nat} (h : letterTurn data quote i = some (.again j)) :
    i < j ∧ j ≤ data.length := by
  by_cases hl : i < data.length
  · rw [letterTurn, if_pos hl, List.getElem?_eq_getElem hl, Option.bind_eq_bind, Option.bind_some] at h
    split at h
    · obtain rfl := Turn.again.inj (Option.some.inj h)
      omega
    · cases h
  · rw [letterTurn, if_neg hl] at h
    cases h

end Position

open Position in
/-- An extraction always comes to its end, for any bytes, if no string, character or line comment
opens at nothing and no block comment closes at nothing. No loop needs more turns than there are
bytes, and one; every turn that does not leave its loop goes forward, and no look at the bytes goes
past their end. -/
theorem extract_eq_extractWithin {language : Language}
    (hr : ∀ rule ∈ language.rules, rule.Advances) (path : String) (data : Bytes) :
    ∃ out, extract path data language = some out ∧ ∀ turns, data.length < turns →
      extractWithin turns path data language = some out ∧
      (∀ pos c pos' c', scanTurn turns language.rules data (pos, c) = some (.again (pos', c')) →
        pos < pos' ∧ pos' ≤ data.length) ∧
      (∀ delimiter escape pos line pos' line',
        stringTurn data delimiter escape (pos, line) = some (.again (pos', line')) →
          pos < pos' ∧ pos' ≤ data.length + 1) ∧
      ∀ quote i j, letterTurn data quote i = some (.again j) → i < j ∧ j ≤ data.length := by
  have he := cut_ne_endless hr data
  obtain ⟨c, hc⟩ : ∃ c, Collected.ofPieces (cut language.rules data).list = c := ⟨_, rfl⟩
  refine ⟨⟨c.blocks, ((if (cut language.rules data).ending = .unclosed then some c.line else none).map
    fun line => (⟨path, "", line, .message (.just .unclosed)⟩ : Issue)).toList⟩, ?_, ?_⟩
  · cases hcut : (cut language.rules data).ending with
    | complete | unclosed => simp [extract, hcut, hc]
    | endless => exact absurd hcut he
  · intro turns ht
    refine ⟨?_, fun _ _ _ _ => lt_of_scanTurn hr ht, fun _ _ _ _ _ _ => lt_of_stringTurn,
      fun _ _ _ => lt_of_letterTurn⟩
    have hz : data.drop 0 = data := rfl
    have hfold : (cut language.rules data).list.foldl Collected.take .start = c := hc
    obtain ⟨c', hloop, hblocks⟩ := loop_scanTurn hr ht (c := .start) hz ht
    rw [hfold] at hloop hblocks
    rw [extractWithin, hloop, Option.map_some]
    dsimp only
    rw [hblocks]

def eagerLanguage : Language :=
  ⟨"x", "X", ["x"], [.character (ofText "'") (some '\\'), .quoted (ofText "\"") (some '\\'),
    .line (ofText "#"), .block [] (ofText "]")]⟩

def cutOffSource : Bytes := ofText "a]#c\n]\"\\\"\"'" ++ [0xF0, 0x9F]

theorem extract_eq_extractWithin_cutOff :
    (∀ rule ∈ eagerLanguage.rules, rule.Advances) ∧
      ∃ out, extract "f.x" cutOffSource eagerLanguage = some out ∧
        Position.extractWithin 14 "f.x" cutOffSource eagerLanguage = some out ∧
        out.blocks.entries = [(1, ofText "a\nc\n\n")] ∧ out.issues.map Issue.line = [2] := by
  have hr : ∀ rule ∈ eagerLanguage.rules, rule.Advances := by
    simp [eagerLanguage, Rule.Advances, ofText, ofChars]
  obtain ⟨out, ho, hall⟩ := extract_eq_extractWithin hr "f.x" cutOffSource
  have hlen : cutOffSource.length < 14 := by decide_cbv
  have hx : (extract "f.x" cutOffSource eagerLanguage).map
      (fun out => (out.blocks.entries, out.issues.map Issue.line)) =
        some ([(1, ofText "a\nc\n\n")], [2]) := by cbv
  rw [ho] at hx
  obtain ⟨hb, hi⟩ := Prod.mk.inj (Option.some.inj hx)
  exact ⟨hr, out, ho, (hall 14 hlen).1, hb, hi⟩

end CommentBlocks
