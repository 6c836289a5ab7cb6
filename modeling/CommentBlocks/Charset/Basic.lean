import CommentBlocks.Charset.Page

namespace CommentBlocks

inductive Charset
  | utf8
  | utf16Little
  | utf16Big
  | page (p : Charset.Page)
  | gbk
  | gb18030
  | big5
  | eucJp
  | iso2022Jp
  | shiftJis
  | eucKr
  | userDefined
  | replacement
  deriving DecidableEq, Repr

namespace Charset

def name : Charset → String
  | utf8 => "UTF-8"
  | utf16Little => "UTF-16LE"
  | utf16Big => "UTF-16BE"
  | page p => p.name
  | gbk => "GBK"
  | gb18030 => "gb18030"
  | big5 => "Big5"
  | eucJp => "EUC-JP"
  | iso2022Jp => "ISO-2022-JP"
  | shiftJis => "Shift_JIS"
  | eucKr => "EUC-KR"
  | userDefined => "x-user-defined"
  | replacement => "replacement"

end Charset

end CommentBlocks
