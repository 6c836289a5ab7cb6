import CommentBlocks.Json.Value

namespace CommentBlocks.Json

/-- A field of a record that is being read into a draft `σ`: its name, whether the draft has it
already, and how its value is read into the draft. -/
structure Slot (σ : Type) where
  name : String
  isFilled : σ → Bool
  fill : σ → List Char → Reading σ

/-- How a record of type `α` is read. A draft that lacks a required field finishes as nothing. -/
structure Form (σ α : Type) where
  slots : List (Slot σ)
  blank : σ
  finish : σ → Option α

namespace Form

variable {σ α : Type}

def member (f : Form σ α) (key : List Char) (draft : σ) (s : List Char) : Reading σ :=
  match f.slots.find? (·.name.toList == key) with
  | some slot =>
    if slot.isFilled draft then .error .mistyped
    else
      match colon s with
      | .error e => .error e
      | .ok s => slot.fill draft s
  | none => ((colon s).bind skip).map fun rest => (draft, rest)

def members (f : Form σ α) : Nat → Bool → σ → List Char → Reading σ
  | 0, _, _, _ => .error .malformed
  | fuel + 1, first, draft, s =>
    match nextKey first s with
    | .error e => .error e
    | .ok none => .ok (draft, s)
    | .ok (some s) =>
      match chars s with
      | .error e => .error e
      | .ok (key, s) =>
        match f.member key draft s with
        | .error e => .error e
        | .ok (draft, s) => f.members fuel false draft s

def fields : List (Slot σ) → Bool → σ → List Char → Reading σ
  | [], _, draft, s => .ok (draft, s)
  | slot :: slots, first, draft, s =>
    match nextElement first s with
    | .error e => .error e
    | .ok none => .ok (draft, s)
    | .ok (some s) =>
      match slot.fill draft s with
      | .error e => .error e
      | .ok (draft, s) => fields slots false draft s

def close (f : Form σ α) (stop : List Char → Except Fault (List Char)) (r : Reading σ) : Reading α :=
  match r with
  | .error e => .error e
  | .ok (draft, s) =>
    match f.finish draft with
    | none => .error .mistyped
    | some a => (stop s).map fun rest => (a, rest)

def read (f : Form σ α) (s : List Char) : Reading α :=
  match skipBlanks s with
  | '\x7b' :: s => f.close endObject (f.members (s.length + 1) true f.blank s)
  | '[' :: s => f.close endList (fields f.slots true f.blank s)
  | s => .error (wrongKind s)

def parse (f : Form σ α) (t : String) : Except Fault α :=
  match f.read t.toList with
  | .error e => .error e
  | .ok (a, rest) => if (skipBlanks rest).isEmpty then .ok a else .error .malformed

end Form

end CommentBlocks.Json
