namespace CommentBlocks.Json

def hexDigit (n : Nat) : Char := if n < 10 then Char.ofNat (n + 48) else Char.ofNat (n + 87)

def writeChar (c : Char) : List Char :=
  if c = '"' then ['\\', '"']
  else if c = '\\' then ['\\', '\\']
  else if c = '\x08' then ['\\', 'b']
  else if c = '\x0c' then ['\\', 'f']
  else if c = '\n' then ['\\', 'n']
  else if c = '\r' then ['\\', 'r']
  else if c = '\t' then ['\\', 't']
  else if c.toNat < 0x20 then
    ['\\', 'u', '0', '0', hexDigit (c.toNat / 16), hexDigit (c.toNat % 16)]
  else [c]

def writeText (s : String) : List Char := '"' :: s.toList.flatMap writeChar ++ ['"']

def writeNat (n : Nat) : List Char := (toString n).toList

def writeBool (b : Bool) : List Char := if b then "true".toList else "false".toList

def separated : List (List Char) → List Char
  | [] => []
  | [p] => p
  | p :: ps => p ++ ',' :: separated ps

def writeList {α : Type} (item : α → List Char) (as : List α) : List Char :=
  '[' :: separated (as.map item) ++ [']']

def writeObject (members : List (String × List Char)) : List Char :=
  '\x7b' :: separated (members.map fun (key, value) => writeText key ++ ':' :: value) ++ ['\x7d']

end CommentBlocks.Json
