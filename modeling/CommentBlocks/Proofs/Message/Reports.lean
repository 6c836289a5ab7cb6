import CommentBlocks.Message.Translator
import CommentBlocks.Proofs.Message.Pieces

namespace CommentBlocks

open Template

theorem Template.fillChars_piece (p : Piece) (args : List String) (rest : List Char) :
    fillChars (args.map String.toList) (p.spelling.toList ++ rest) =
      (p.filled args).toList ++ fillChars (args.map String.toList) rest := by
  cases p with
  | text t plain => exact fillChars_append plain _ rest
  | place zeros n =>
    have hs : (Piece.place zeros n).spelling.toList ++ rest =
        openBrace :: (numeral zeros n ++ closeBrace :: rest) := by
      simp [Piece.spelling]
    rw [hs, fillChars_place, Piece.filled, Piece.spelling]
    cases hn : args[n]? <;> simp [hn]

namespace Phrase

def pieces : Phrase → List Piece
  | required => [.text "is required" (by decide)]
  | noDirectory => [.text "directory does not exist" (by decide)]
  | unknownLanguage => [.text "unsupported input language: " (by decide), .place 0 0]
  | unknownEncoding => [.text "unsupported encoding: " (by decide), .place 0 0]
  | unclosed => [.text "end marker not found" (by decide)]
  | undecodable => [.text "content is not valid " (by decide), .place 0 0]
  | malformed => [.text "invalid format" (by decide)]
  | layout =>
    [.place 0 0, .text " at " (by decide), .place 0 1, .text ":" (by decide), .place 0 2]
  | fieldLayout =>
    [.place 0 0, .text "[" (by decide), .place 0 1, .text "] at " (by decide), .place 0 2,
      .text ":" (by decide), .place 0 3]

theorem toList_english (p : Phrase) :
    p.english.toList = p.pieces.flatMap fun q => q.spelling.toList := by
  cases p <;> rfl

theorem fill_english (p : Phrase) (args : List String) :
    fill p.english args = String.join (p.pieces.map (Piece.filled args)) := by
  apply String.ext
  rw [fill, String.toList_ofList, toList_english]
  cases p <;>
    simp only [pieces, List.flatMap_cons, List.flatMap_nil, fillChars_piece, fillChars, List.map_cons,
      List.map_nil, String.join_cons, String.join_nil, String.toList_append, String.toList_empty]

end Phrase

namespace Translator

theorem template?_builtin (p : Phrase) : builtin.template? p = some p.english := rfl

theorem say_builtin (p : Phrase) (args : List String) :
    builtin.say p args = String.join (p.pieces.map (Piece.filled args)) := by
  rw [← Phrase.fill_english, say, template?_builtin]

theorem say_layout (cause file line : String) :
    builtin.say .layout [cause, file, line] = cause ++ " at " ++ file ++ ":" ++ line := by
  rw [say_builtin]
  simp [Phrase.pieces, Piece.filled, String.append_assoc]

theorem say_fieldLayout (cause field file line : String) :
    builtin.say .fieldLayout [cause, field, file, line] =
      cause ++ "[" ++ field ++ "] at " ++ file ++ ":" ++ line := by
  rw [say_builtin]
  simp [Phrase.pieces, Piece.filled, String.append_assoc]

/-- The translator says a cause in the words that the cause has itself. -/
theorem report_builtin_eq (i : Issue) :
    builtin.report i =
      if i.field.isEmpty then builtin.say .layout [i.cause.text, i.file, toString i.line]
      else builtin.say .fieldLayout [i.cause.text, i.field, i.file, toString i.line] := by
  obtain ⟨file, field, line, cause⟩ := i
  cases cause <;> rfl

/-- Of an issue without a field the translator reports the text. A field stands in brackets behind
the cause in the report, and in parentheses behind the line in the text. The text of a message has
its arguments as they are, and so the report has cause, field and file. -/
theorem report_builtin (i : Issue) :
    (i.field = "" →
        builtin.report i = i.cause.text ++ " at " ++ i.file ++ ":" ++ toString i.line ∧
          i.text = builtin.report i) ∧
      (i.field ≠ "" →
        builtin.report i =
            i.cause.text ++ "[" ++ i.field ++ "] at " ++ i.file ++ ":" ++ toString i.line ∧
          i.text =
            i.cause.text ++ " at " ++ i.file ++ ":" ++ toString i.line ++ " (" ++ i.field ++ ")") ∧
      ∀ m, i.cause = .message m →
        i.cause.text = String.join (m.phrase.pieces.map (Piece.filled m.args)) := by
  refine ⟨fun hf => ?_, fun hf => ?_, fun m hm => ?_⟩
  · have he : i.field.isEmpty = true := String.isEmpty_iff.mpr hf
    rw [report_builtin_eq, if_pos he, say_layout, Issue.text, if_pos he]
    simp
  · have he : ¬ i.field.isEmpty = true := fun h => hf (String.isEmpty_iff.mp h)
    rw [report_builtin_eq, if_neg he, say_fieldLayout, Issue.text, if_neg he]
    simp [String.append_assoc]
  · rw [hm]
    exact Phrase.fill_english m.phrase m.args

theorem report_builtin_braces :
    let i : Issue :=
      ⟨"\x7b1\x7d.rs", "\x7b0\x7d", 18446744073709551615,
        .message ⟨.fieldLayout, ["\x7b1\x7d", "\x7b0\x7d"]⟩⟩
    i.field ≠ "" ∧
      builtin.report i =
        "\x7b1\x7d[\x7b0\x7d] at \x7b2\x7d:\x7b3\x7d[\x7b0\x7d] at \x7b1\x7d.rs:18446744073709551615" ∧
      i.text =
        "\x7b1\x7d[\x7b0\x7d] at \x7b2\x7d:\x7b3\x7d at \x7b1\x7d.rs:18446744073709551615 (\x7b0\x7d)" := by
  intro i
  have hf : i.field ≠ "" := by decide
  have hc : i.cause.text = "\x7b1\x7d[\x7b0\x7d] at \x7b2\x7d:\x7b3\x7d" :=
    ((report_builtin i).2.2 _ rfl).trans rfl
  have h := (report_builtin i).2.1 hf
  rw [hc] at h
  exact ⟨hf, h.1.trans (by decide), h.2.trans (by decide)⟩

end Translator

end CommentBlocks
