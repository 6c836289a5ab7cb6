import CommentBlocks.Issue.Issue

namespace CommentBlocks

abbrev Phrasebook := Phrase → Option String

/-- Phrasebooks under ascending tags, with the tag of the active locale. -/
structure Translator where
  books : List (String × Phrasebook)
  locale : String

namespace Translator

def defaultLocale : String := "en"

def empty : Translator := ⟨[], defaultLocale⟩

def put (tag : String) (book : Phrasebook) : List (String × Phrasebook) → List (String × Phrasebook)
  | [] => [(tag, book)]
  | (t, b) :: rest =>
    if tag < t then (tag, book) :: (t, b) :: rest
    else if tag = t then (tag, book) :: rest
    else (t, b) :: put tag book rest

def add (t : Translator) (tag : String) (book : Phrasebook) : Translator :=
  { t with books := put tag book t.books }

def book? (t : Translator) (tag : String) : Option Phrasebook := t.books.lookup tag

/-- Makes `tag` the active locale if it has a book by now, and the default locale otherwise. -/
def select (t : Translator) (tag : String) : Translator :=
  { t with locale := if (t.book? tag).isSome then tag else defaultLocale }

def locales (t : Translator) : List String := t.books.map (·.1)

def builtin : Translator :=
  (empty.add defaultLocale fun p => some p.english).add "zh-Hans" fun p => some p.simplifiedChinese

def template? (t : Translator) (phrase : Phrase) : Option String :=
  ((t.book? t.locale).bind (· phrase)).or ((t.book? defaultLocale).bind (· phrase))

def say (t : Translator) (phrase : Phrase) (args : List String) : String :=
  match t.template? phrase with
  | some template => Template.fill template args
  | none => phrase.name

def report (t : Translator) (i : Issue) : String :=
  let cause := match i.cause.message? with
    | some m => t.say m.phrase m.args
    | none => i.cause.text
  if i.field.isEmpty then t.say .layout [cause, i.file, toString i.line]
  else t.say .fieldLayout [cause, i.field, i.file, toString i.line]

end Translator

end CommentBlocks
