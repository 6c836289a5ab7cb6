namespace CommentBlocks.Template

def openBrace : Char := '\x7b'

def closeBrace : Char := '\x7d'

def number? (cs : List Char) : Option Nat :=
  let digits := match cs with
    | '+' :: rest => rest
    | cs => cs
  if !digits.isEmpty && digits.all Char.isDigit then
    some (digits.foldl (fun n c => 10 * n + (c.toNat - '0'.toNat)) 0)
  else none

def argument? (args : List (List Char)) (after : List Char) : Option (List Char × List Char) :=
  match after.dropWhile (· != closeBrace) with
  | [] => none
  | _ :: rest =>
    ((number? (after.takeWhile (· != closeBrace))).bind (args[·]?)).map fun arg => (arg, rest)

theorem length_lt_of_argument? {args : List (List Char)} {after arg rest : List Char}
    (h : argument? args after = some (arg, rest)) : rest.length < after.length := by
  unfold argument? at h
  split at h
  · simp at h
  · next c tail hd =>
    obtain ⟨a, ha, he⟩ := Option.map_eq_some_iff.mp h
    obtain ⟨rfl, rfl⟩ := Prod.mk.inj he
    have hs : (after.dropWhile (· != closeBrace)).length ≤ after.length :=
      (List.dropWhile_suffix _).length_le
    rw [hd, List.length_cons] at hs
    omega

/-- Puts the arguments in their places in one pass. What is put in is not looked at again, and a
brace that opens no place stays as it is. -/
def fillChars (args : List (List Char)) : List Char → List Char
  | [] => []
  | c :: after =>
    if c = openBrace then
      match _h : argument? args after with
      | some (arg, rest) => arg ++ fillChars args rest
      | none => c :: fillChars args after
    else c :: fillChars args after
termination_by template => template.length
decreasing_by
  · exact Nat.lt_succ_of_lt (length_lt_of_argument? _h)
  · simp
  · simp

def fill (template : String) (args : List String) : String :=
  String.ofList (fillChars (args.map String.toList) template.toList)

end CommentBlocks.Template
