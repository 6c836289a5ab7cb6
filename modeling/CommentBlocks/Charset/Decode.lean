import CommentBlocks.Charset.Basic
import CommentBlocks.Charset.EastAsian
import CommentBlocks.Charset.Unicode

namespace CommentBlocks

namespace Charset

def decodePage (p : Page) (b : Bytes) : Option (List Char) :=
  let upper := p.upper.toList
  b.mapM fun x =>
    if x < 0x80 then some (ascii x)
    else upper[x.toNat - 0x80]?.bind fun c => if c = '\uFFFD' then none else some c

def decodeUserDefined (b : Bytes) : List Char :=
  b.map fun x => if x < 0x80 then ascii x else Char.ofNat (0xF780 + (x.toNat - 0x80))

def decode (c : Charset) (b : Bytes) : Option (List Char) :=
  match c with
  | utf8 => Bytes.chars? b
  | utf16Little => decodeUtf16 .little b
  | utf16Big => decodeUtf16 .big b
  | page p => decodePage p b
  | gbk | gb18030 => decodeGb18030 b
  | big5 => decodeBig5 b
  | eucJp => decodeEucJp b
  | iso2022Jp => decodeIso2022Jp b
  | shiftJis => decodeShiftJis b
  | eucKr => decodeEucKr b
  | userDefined => some (decodeUserDefined b)
  | replacement => if b.isEmpty then some [] else none

def ofMark? : Bytes → Option (Charset × Bytes)
  | 0xEF :: 0xBB :: 0xBF :: rest => some (utf8, rest)
  | 0xFF :: 0xFE :: rest => some (utf16Little, rest)
  | 0xFE :: 0xFF :: rest => some (utf16Big, rest)
  | _ => none

def detect (declared : Charset) (b : Bytes) : Charset × Bytes := (ofMark? b).getD (declared, b)

/-- The content of a file in UTF-8. Without a declared encoding it is taken as it is; otherwise
the error is the encoding in which the bytes make no text. -/
def toUtf8 (declared : Option Charset) (b : Bytes) : Except Charset Bytes :=
  match declared with
  | none => .ok b
  | some declared =>
    let (actual, body) := detect declared b
    match actual.decode body with
    | some cs => .ok (Bytes.ofChars cs)
    | none => .error actual

end Charset

end CommentBlocks
