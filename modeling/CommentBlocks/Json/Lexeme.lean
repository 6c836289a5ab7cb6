import CommentBlocks.Bytes

namespace CommentBlocks.Json

/-- What is wrong with a text: it is not JSON, it ends too early, or it is JSON of another kind. -/
inductive Fault
  | malformed
  | truncated
  | mistyped
  deriving DecidableEq, Repr

abbrev Reading (α : Type) := Except Fault (α × List Char)

def isBlank (c : Char) : Bool := c == ' ' || c == '\n' || c == '\t' || c == '\r'

def skipBlanks (s : List Char) : List Char := s.dropWhile isBlank

def word : List Char → List Char → Except Fault (List Char)
  | [], s => .ok s
  | _ :: _, [] => .error .truncated
  | w :: ws, c :: s => if c = w then word ws s else .error .malformed

def hexDigit? (c : Char) : Option Nat :=
  if c.isDigit then some (c.toNat - '0'.toNat)
  else if 'a' ≤ c ∧ c ≤ 'f' then some (c.toNat - 'a'.toNat + 10)
  else if 'A' ≤ c ∧ c ≤ 'F' then some (c.toNat - 'A'.toNat + 10)
  else none

/-- Reads four hexadecimal digits. With fewer than four bytes of text left the text is cut off. -/
def hexCode (s : List Char) : Reading Nat :=
  if Bytes.width (s.take 4) < 4 then .error .truncated
  else
    match s with
    | a :: b :: c :: d :: rest =>
      match hexDigit? a, hexDigit? b, hexDigit? c, hexDigit? d with
      | some a, some b, some c, some d => .ok (a * 4096 + b * 256 + c * 16 + d, rest)
      | _, _, _, _ => .error .malformed
    | _ => .error .malformed

def isHighSurrogate (n : Nat) : Bool := 0xD800 ≤ n && n ≤ 0xDBFF

def isLowSurrogate (n : Nat) : Bool := 0xDC00 ≤ n && n ≤ 0xDFFF

def lowSurrogate (high : Nat) : List Char → Reading Char
  | [] => .error .truncated
  | '\\' :: [] => .error .truncated
  | '\\' :: 'u' :: s =>
    match hexCode s with
    | .error e => .error e
    | .ok (low, rest) =>
      if isLowSurrogate low then
        .ok (Char.ofNat ((high - 0xD800) * 0x400 + (low - 0xDC00) + 0x10000), rest)
      else .error .malformed
  | _ => .error .malformed

def shortEscape? : Char → Option Char
  | '"' => some '"'
  | '\\' => some '\\'
  | '/' => some '/'
  | 'b' => some '\x08'
  | 'f' => some '\x0c'
  | 'n' => some '\n'
  | 'r' => some '\r'
  | 't' => some '\t'
  | _ => none

def escape : List Char → Reading Char
  | [] => .error .truncated
  | 'u' :: s =>
    match hexCode s with
    | .error e => .error e
    | .ok (n, rest) =>
      if isLowSurrogate n then .error .malformed
      else if isHighSurrogate n then lowSurrogate n rest
      else .ok (Char.ofNat n, rest)
  | c :: s =>
    match shortEscape? c with
    | some x => .ok (x, s)
    | none => .error .malformed

def skipEscape : List Char → Except Fault (List Char)
  | [] => .error .truncated
  | 'u' :: s => (hexCode s).map (·.2)
  | c :: s => if (shortEscape? c).isSome then .ok s else .error .malformed

theorem length_lt_of_hexCode {s rest : List Char} {n : Nat} (h : hexCode s = .ok (n, rest)) :
    rest.length < s.length := by
  unfold hexCode at h
  split at h
  · simp at h
  · split at h
    · split at h
      · obtain ⟨-, rfl⟩ := Prod.mk.inj (Except.ok.inj h)
        simp only [List.length_cons]
        omega
      · simp at h
    · simp at h

theorem length_lt_of_lowSurrogate {high : Nat} {s rest : List Char} {c : Char}
    (h : lowSurrogate high s = .ok (c, rest)) : rest.length < s.length := by
  unfold lowSurrogate at h
  split at h
  · simp at h
  · simp at h
  · split at h
    · simp at h
    · next hc =>
      split at h
      · obtain ⟨-, rfl⟩ := Prod.mk.inj (Except.ok.inj h)
        have := length_lt_of_hexCode hc
        simp only [List.length_cons]
        omega
      · simp at h
  · simp at h

theorem length_lt_of_escape {s rest : List Char} {c : Char} (h : escape s = .ok (c, rest)) :
    rest.length < s.length := by
  unfold escape at h
  split at h
  · simp at h
  · split at h
    · simp at h
    · next n after hc =>
      have hl := length_lt_of_hexCode hc
      split at h
      · simp at h
      · split at h
        · have := length_lt_of_lowSurrogate h
          simp only [List.length_cons]
          omega
        · obtain ⟨-, rfl⟩ := Prod.mk.inj (Except.ok.inj h)
          simp only [List.length_cons]
          omega
  · split at h
    · obtain ⟨-, rfl⟩ := Prod.mk.inj (Except.ok.inj h)
      simp
    · simp at h

theorem length_lt_of_skipEscape {s rest : List Char} (h : skipEscape s = .ok rest) :
    rest.length < s.length := by
  unfold skipEscape at h
  split at h
  · simp at h
  · next s =>
    cases hc : hexCode s with
    | error e => simp [hc, Except.map] at h
    | ok p =>
      obtain ⟨n, after⟩ := p
      have hl := length_lt_of_hexCode hc
      rw [hc] at h
      obtain rfl := Except.ok.inj h
      simp only [List.length_cons]
      omega
  · split at h
    · obtain rfl := Except.ok.inj h
      simp
    · simp at h

def chars : List Char → Reading (List Char)
  | [] => .error .truncated
  | c :: s =>
    if c = '"' then .ok ([], s)
    else if c = '\\' then
      match _h : escape s with
      | .error e => .error e
      | .ok (x, rest) => (chars rest).map fun (xs, after) => (x :: xs, after)
    else if c.toNat < 0x20 then .error .malformed
    else (chars s).map fun (xs, after) => (c :: xs, after)
termination_by s => s.length
decreasing_by
  · exact Nat.lt_succ_of_lt (length_lt_of_escape _h)
  · simp

def skipChars : List Char → Except Fault (List Char)
  | [] => .error .truncated
  | c :: s =>
    if c = '"' then .ok s
    else if c = '\\' then
      match _h : skipEscape s with
      | .error e => .error e
      | .ok rest => skipChars rest
    else if c.toNat < 0x20 then .error .malformed
    else skipChars s
termination_by s => s.length
decreasing_by
  · exact Nat.lt_succ_of_lt (length_lt_of_skipEscape _h)
  · simp

end CommentBlocks.Json
