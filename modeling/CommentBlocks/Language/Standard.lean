import CommentBlocks.Language.Languages

namespace CommentBlocks.Languages

private def escaped (delimiter : String) : Rule := .quoted (Bytes.ofText delimiter) (some '\\')

private def raw (delimiter : String) : Rule := .quoted (Bytes.ofText delimiter) none

private def letter : Rule := .character (Bytes.ofText "'") (some '\\')

private def toEnd (opener : String) : Rule := .line (Bytes.ofText opener)

private def between (opener closer : String) : Rule :=
  .block (Bytes.ofText opener) (Bytes.ofText closer)

private def cLike : List Rule := [escaped "\"", letter, toEnd "//", between "/*" "*/"]

private def scriptLike : List Rule :=
  [escaped "`", escaped "\"", escaped "'", toEnd "//", between "/*" "*/"]

def standard : Languages :=
  ofList
    [⟨"c", "C", ["h", "c"], cLike⟩,
      ⟨"cpp", "C++", ["h", "hpp", "cpp", "cxx", "cc"], cLike⟩,
      ⟨"csharp", "C#", ["cs"], cLike⟩,
      ⟨"go", "Go", ["go"], raw "`" :: cLike⟩,
      ⟨"java", "Java", ["java"], cLike⟩,
      ⟨"javascript", "JavaScript", ["js", "mjs"], scriptLike⟩,
      ⟨"typescript", "TypeScript", ["ts"], scriptLike⟩,
      ⟨"kotlin", "Kotlin", ["kt", "kts"], raw "\"\"\"" :: cLike⟩,
      ⟨"swift", "Swift", ["swift"], escaped "\"\"\"" :: cLike⟩,
      ⟨"scala", "Scala", ["scala"], raw "\"\"\"" :: cLike⟩,
      ⟨"rust", "Rust", ["rs"], cLike⟩,
      ⟨"php", "PHP", ["php"],
        [escaped "\"", escaped "'", toEnd "//", toEnd "#", between "/*" "*/"]⟩,
      ⟨"python", "Python", ["py"],
        [between "\"\"\"" "\"\"\"", between "'''" "'''", escaped "\"", escaped "'", toEnd "#"]⟩,
      ⟨"ruby", "Ruby", ["rb"],
        [escaped "\"", escaped "'", toEnd "#", between "=begin" "=end"]⟩,
      ⟨"shell", "Shell", ["sh"], [escaped "\"", raw "'", toEnd "#"]⟩,
      ⟨"perl", "Perl", ["perl", "prl", "pl"],
        [escaped "\"", escaped "'", toEnd "#", between "=pod" "=cut"]⟩,
      ⟨"lua", "Lua", ["lua"],
        [escaped "\"", escaped "'", between "--[[" "]]", toEnd "--"]⟩]

end CommentBlocks.Languages
