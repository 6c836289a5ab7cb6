namespace CommentBlocks

abbrev Bytes := List UInt8

namespace Bytes

def newline : UInt8 := 10

def carriageReturn : UInt8 := 13

def slash : UInt8 := 47

def ofChars (cs : List Char) : Bytes := cs.flatMap String.utf8EncodeChar

def ofText (t : String) : Bytes := ofChars t.toList

def width : List Char → Nat
  | [] => 0
  | c :: cs => c.utf8Size + width cs

/-- The characters that valid UTF-8 stands for, and nothing for any other bytes. -/
def chars? (b : Bytes) : Option (List Char) := b.toByteArray.utf8Decode?.map Array.toList

def text? (b : Bytes) : Option String := (chars? b).map String.ofList

def newlines (b : Bytes) : Nat := b.count newline

theorem chars?_ofChars (cs : List Char) : chars? (ofChars cs) = some cs := by
  have h : (ofChars cs).toByteArray = cs.utf8Encode := rfl
  simp [chars?, h]

theorem ofChars_append (cs ds : List Char) : ofChars (cs ++ ds) = ofChars cs ++ ofChars ds :=
  List.flatMap_append

theorem newlines_append (b c : Bytes) : newlines (b ++ c) = newlines b + newlines c :=
  List.count_append

end Bytes

end CommentBlocks
