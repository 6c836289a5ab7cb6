import CommentBlocks.Json.Numeral

namespace CommentBlocks.Json

/-- What is wrong with a value that is not of the kind expected: its first lexeme has to be one
before its kind counts. -/
def wrongKind : List Char → Fault
  | [] => .truncated
  | c :: s =>
    let after (r : Except Fault Unit) : Fault := match r with
      | .error e => e
      | .ok _ => .mistyped
    if c = 'n' then after ((word "ull".toList s).map fun _ => ())
    else if c = 't' then after ((word "rue".toList s).map fun _ => ())
    else if c = 'f' then after ((word "alse".toList s).map fun _ => ())
    else if c = '-' ∨ c.isDigit then after ((number (c :: s)).map fun _ => ())
    else if c = '"' then after ((chars s).map fun _ => ())
    else if c = '[' ∨ c = '\x7b' then .mistyped
    else .malformed

def text (s : List Char) : Reading (List Char) :=
  match skipBlanks s with
  | '"' :: s => chars s
  | s => .error (wrongKind s)

def text? (s : List Char) : Reading (Option (List Char)) :=
  match skipBlanks s with
  | 'n' :: s => (word "ull".toList s).map fun rest => (none, rest)
  | s => (text s).map fun (t, rest) => (some t, rest)

def bool (s : List Char) : Reading Bool :=
  match skipBlanks s with
  | 't' :: s => (word "rue".toList s).map fun rest => (true, rest)
  | 'f' :: s => (word "alse".toList s).map fun rest => (false, rest)
  | s => .error (wrongKind s)

def natural (bound : Nat) (s : List Char) : Reading Nat :=
  match skipBlanks s with
  | [] => .error .truncated
  | c :: s =>
    if c = '-' ∨ c.isDigit then
      match number (c :: s) with
      | .error e => .error e
      | .ok (n, rest) =>
        match n.natural? with
        | some k => if k < bound then .ok (k, rest) else .error .mistyped
        | none => .error .mistyped
    else .error (wrongKind (c :: s))

def nextElement (first : Bool) (s : List Char) : Except Fault (Option (List Char)) :=
  match skipBlanks s with
  | [] => .error .truncated
  | c :: s =>
    if c = ']' then .ok none
    else if first then .ok (some (c :: s))
    else if c = ',' then
      match skipBlanks s with
      | [] => .error .truncated
      | d :: rest => if d = ']' then .error .malformed else .ok (some (d :: rest))
    else .error .malformed

def endList (s : List Char) : Except Fault (List Char) :=
  match skipBlanks s with
  | [] => .error .truncated
  | c :: rest => if c = ']' then .ok rest else .error .malformed

def elements {α : Type} (item : List Char → Reading α) :
    Nat → Bool → List Char → Reading (List α)
  | 0, _, _ => .error .malformed
  | fuel + 1, first, s =>
    match nextElement first s with
    | .error e => .error e
    | .ok none => (endList s).map fun rest => ([], rest)
    | .ok (some s) =>
      match item s with
      | .error e => .error e
      | .ok (a, rest) =>
        (elements item fuel false rest).map fun (as, after) => (a :: as, after)

def list {α : Type} (item : List Char → Reading α) (s : List Char) : Reading (List α) :=
  match skipBlanks s with
  | '[' :: s => elements item (s.length + 1) true s
  | s => .error (wrongKind s)

def nextKey (first : Bool) (s : List Char) : Except Fault (Option (List Char)) :=
  match skipBlanks s with
  | [] => .error .truncated
  | c :: s =>
    if c = '\x7d' then .ok none
    else if first then if c = '"' then .ok (some s) else .error .malformed
    else if c = ',' then
      match skipBlanks s with
      | [] => .error .truncated
      | d :: rest => if d = '"' then .ok (some rest) else .error .malformed
    else .error .malformed

def colon (s : List Char) : Except Fault (List Char) :=
  match skipBlanks s with
  | [] => .error .truncated
  | c :: rest => if c = ':' then .ok rest else .error .malformed

def endObject (s : List Char) : Except Fault (List Char) :=
  match skipBlanks s with
  | [] => .error .truncated
  | c :: rest => if c = '\x7d' then .ok rest else .error .malformed

mutual

/-- Passes over a value of any kind. `fuel` bounds the values and lists that are entered. -/
def skipValue : Nat → List Char → Except Fault (List Char)
  | 0, _ => .error .malformed
  | fuel + 1, s =>
    match skipBlanks s with
    | [] => .error .truncated
    | c :: s =>
      if c = 'n' then word "ull".toList s
      else if c = 't' then word "rue".toList s
      else if c = 'f' then word "alse".toList s
      else if c = '-' ∨ c.isDigit then (numeral .malformed (c :: s)).map (·.2)
      else if c = '"' then skipChars s
      else if c = '[' then skipElements fuel true s
      else if c = '\x7b' then skipMembers fuel true s
      else .error .malformed

def skipElements : Nat → Bool → List Char → Except Fault (List Char)
  | 0, _, _ => .error .malformed
  | fuel + 1, first, s =>
    match nextElement first s with
    | .error e => .error e
    | .ok none => endList s
    | .ok (some s) =>
      match skipValue fuel s with
      | .error e => .error e
      | .ok rest => skipElements fuel false rest

def skipMembers : Nat → Bool → List Char → Except Fault (List Char)
  | 0, _, _ => .error .malformed
  | fuel + 1, first, s =>
    match nextKey first s with
    | .error e => .error e
    | .ok none => endObject s
    | .ok (some s) =>
      match (skipChars s).bind colon with
      | .error e => .error e
      | .ok s =>
        match skipValue fuel s with
        | .error e => .error e
        | .ok rest => skipMembers fuel false rest

end

def skip (s : List Char) : Except Fault (List Char) := skipValue (2 * s.length + 2) s

end CommentBlocks.Json
