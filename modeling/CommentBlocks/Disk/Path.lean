import CommentBlocks.Bytes

namespace CommentBlocks

inductive Component
  | root
  | here
  | up
  | name (s : String)
  deriving DecidableEq, Repr

namespace Component

def text : Component → String
  | root => "/"
  | here => "."
  | up => ".."
  | name s => s

end Component

namespace Path

def segments : List Char → List (List Char)
  | [] => [[]]
  | c :: rest =>
    if c = '/' then [] :: segments rest
    else
      match segments rest with
      | s :: ss => (c :: s) :: ss
      | [] => [[c]]

def isAbsolute (path : String) : Bool := path.toList.head? == some '/'

def endsInSlash (path : String) : Bool := path.toList.getLast? == some '/'

def component? (segment : List Char) : Option Component :=
  if segment = [] then none
  else if segment = ['.'] then some .here
  else if segment = ['.', '.'] then some .up
  else some (.name (String.ofList segment))

/-- The components of a path. A dot counts only at the head of a relative path. -/
def components (path : String) : List Component :=
  match segments path.toList with
  | [] => []
  | first :: rest =>
    let inner := (rest.filterMap component?).filter (· != .here)
    if isAbsolute path then .root :: inner
    else (component? first).toList ++ inner

def join (path name : String) : String :=
  if path.isEmpty || endsInSlash path then path ++ name else path ++ "/" ++ name

def spell (cs : List Component) : String := cs.foldl (fun path c => join path c.text) ""

/-- Adds a component to a path in normal form, which is held in reverse: a dot changes nothing, and
a step up takes away a name. -/
def settle : List Component → Component → List Component
  | path, .here => path
  | .name _ :: path, .up => path
  | path, c => c :: path

def normalize (cs : List Component) : List Component := (cs.foldl settle []).reverse

def extension? (name : List Char) : Option (List Char) :=
  let reversed := name.reverse
  match reversed.dropWhile (· != '.') with
  | [] => none
  | [_] => none
  | _ :: _ :: _ => some (reversed.takeWhile (· != '.')).reverse

def fileName? (path : String) : Option String :=
  match (components path).getLast? with
  | some (.name s) => some s
  | _ => none

def byteLength (s : String) : Nat := Bytes.width s.toList

def nameLimit : Nat := 255

structure IsName (name : String) : Prop where
  ne_empty : name ≠ ""
  ne_here : name ≠ "."
  ne_up : name ≠ ".."
  slashless : '/' ∉ name.toList
  whole : '\x00' ∉ name.toList
  short : byteLength name ≤ nameLimit

theorem isName_iff {name : String} : IsName name ↔ name ≠ "" ∧ name ≠ "." ∧ name ≠ ".." ∧
    '/' ∉ name.toList ∧ '\x00' ∉ name.toList ∧ byteLength name ≤ nameLimit :=
  ⟨fun ⟨a, b, c, e, f, g⟩ => ⟨a, b, c, e, f, g⟩, fun ⟨a, b, c, e, f, g⟩ => ⟨a, b, c, e, f, g⟩⟩

instance (name : String) : Decidable (IsName name) := decidable_of_iff _ isName_iff.symm

end Path

end CommentBlocks
