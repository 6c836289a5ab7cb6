import CommentBlocks.Bytes

namespace CommentBlocks

/-- One way in which a literal or a comment opens.
The rules of a language are tried in order at every position of the source. -/
inductive Rule
  | quoted (delimiter : Bytes) (escape : Option Char)
  | character (quote : Bytes) (escape : Option Char)
  | line (opener : Bytes)
  | block (opener closer : Bytes)
  deriving DecidableEq, Repr

namespace Rule

def opener : Rule → Bytes
  | quoted delimiter _ => delimiter
  | character quote _ => quote
  | line opener => opener
  | block opener _ => opener

/-- Whether the rule opens at the head of `rest`. Every source begins with an empty opener, but a
literal or a line comment without one would take nothing and the scan would stay where it is, so
these are left out. A block still has its closer to take. -/
def opensAt (rule : Rule) (rest : Bytes) : Bool :=
  match rule with
  | block opener _ => opener.isPrefixOf rest
  | rule => !rule.opener.isEmpty && rule.opener.isPrefixOf rest

/-- The byte that a source compares with an escape character. A character past U+00FF has none,
so as an escape it never takes effect. -/
def escapeByte (escape : Option Char) : Option UInt8 :=
  match escape with
  | some c => if c.toNat < 256 then some c.toNat.toUInt8 else none
  | none => none

theorem opener_isPrefixOf {rule : Rule} {rest : Bytes} (h : rule.opensAt rest = true) :
    rule.opener.isPrefixOf rest = true := by
  cases rule <;> simp_all [opensAt, opener]

end Rule

structure Language where
  id : String
  name : String
  extensions : List String
  rules : List Rule
  deriving DecidableEq, Repr

def sameLetters (s t : String) : Bool := s.toList.map Char.toLower == t.toList.map Char.toLower

def Language.hasExtension (l : Language) (extension : String) : Bool :=
  let bare := String.ofList (extension.toList.dropWhile (· == '.'))
  l.extensions.any (sameLetters · bare)

end CommentBlocks
