import CommentBlocks.Charset.Label
import CommentBlocks.Language.Languages
import CommentBlocks.Selection.Listing

namespace CommentBlocks

/-- The files to be searched, each once, the encoding if it is not UTF-8, and the language. -/
structure Plan where
  files : List String
  charset : Option Charset
  language : Language
  deriving DecidableEq, Repr

namespace Plan

def charset? (encoding : Option String) : Except Issue (Option Charset) :=
  match (encoding.map Text.trim).filter (!·.isEmpty) with
  | none => .ok none
  | some label =>
    match Charset.ofLabel? label with
    | some .utf8 => .ok none
    | some c => .ok (some c)
    | none => .error (.inField "encoding" (.message ⟨.unknownEncoding, [label]⟩))

def language? (ls : Languages) (name : String) : Except Issue Language :=
  let id := Text.trim name
  if id.isEmpty then .error (.inField "language" (.message (.just .required)))
  else
    match ls.find? id with
    | some l => .ok l
    | none => .error (.inField "language" (.message ⟨.unknownLanguage, [id]⟩))

def ofSelection (d : Disk) (ls : Languages) (s : Selection) : Except Issue Plan :=
  match charset? s.encoding with
  | .error i => .error i
  | .ok charset =>
    match language? ls s.language with
    | .error i => .error i
    | .ok language =>
      match s.candidates d language s.paths with
      | .error i => .error i
      | .ok paths => .ok ⟨Selection.firstSpellings d [] paths, charset, language⟩

end Plan

end CommentBlocks
