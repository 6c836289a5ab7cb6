import CommentBlocks.Message.Template

namespace CommentBlocks

/-- One thing to be said. The last two are layouts of a whole issue: its cause with file and line,
and with the field in between. -/
inductive Phrase
  | required
  | noDirectory
  | unknownLanguage
  | unknownEncoding
  | unclosed
  | undecodable
  | malformed
  | layout
  | fieldLayout
  deriving DecidableEq, Repr

namespace Phrase

def all : List Phrase :=
  [required, noDirectory, unknownLanguage, unknownEncoding, unclosed, undecodable, malformed,
    layout, fieldLayout]

def name : Phrase → String
  | required => "Required"
  | noDirectory => "DirNotExists"
  | unknownLanguage => "UnsupportedInputLang"
  | unknownEncoding => "UnsupportedEncoding"
  | unclosed => "NotFoundEndFlag"
  | undecodable => "DecodeFailed"
  | malformed => "InvalidFormat"
  | layout => "ErrMessage"
  | fieldLayout => "ErrMessageWithField"

def ofName? (name : String) : Option Phrase := all.find? (·.name == name)

def english : Phrase → String
  | required => "is required"
  | noDirectory => "directory does not exist"
  | unknownLanguage => "unsupported input language: \x7b0\x7d"
  | unknownEncoding => "unsupported encoding: \x7b0\x7d"
  | unclosed => "end marker not found"
  | undecodable => "content is not valid \x7b0\x7d"
  | malformed => "invalid format"
  | layout => "\x7b0\x7d at \x7b1\x7d:\x7b2\x7d"
  | fieldLayout => "\x7b0\x7d[\x7b1\x7d] at \x7b2\x7d:\x7b3\x7d"

def simplifiedChinese : Phrase → String
  | required => "不能为空"
  | noDirectory => "目录不存在"
  | unknownLanguage => "无效的输入语言：\x7b0\x7d"
  | unknownEncoding => "不支持的编码方式：\x7b0\x7d"
  | unclosed => "找不到结束符号"
  | undecodable => "内容不是有效的 \x7b0\x7d 编码"
  | malformed => "格式不正确"
  | layout => "\x7b0\x7d 位于 \x7b1\x7d:\x7b2\x7d"
  | fieldLayout => "\x7b0\x7d[\x7b1\x7d] 位于 \x7b2\x7d:\x7b3\x7d"

end Phrase

structure Message where
  phrase : Phrase
  args : List String
  deriving DecidableEq, Repr

namespace Message

def just (phrase : Phrase) : Message := ⟨phrase, []⟩

def text (m : Message) : String := Template.fill m.phrase.english m.args

end Message

end CommentBlocks
