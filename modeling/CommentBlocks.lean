import CommentBlocks.Block.Basic
import CommentBlocks.Block.ByLine
import CommentBlocks.Bytes
import CommentBlocks.Charset.Basic
import CommentBlocks.Charset.Decode
import CommentBlocks.Charset.EastAsian
import CommentBlocks.Charset.Index.Big5
import CommentBlocks.Charset.Index.EucKr
import CommentBlocks.Charset.Index.Gb18030
import CommentBlocks.Charset.Index.Gb18030Ranges
import CommentBlocks.Charset.Index.Jis0208
import CommentBlocks.Charset.Index.Jis0212
import CommentBlocks.Charset.Label
import CommentBlocks.Charset.Page
import CommentBlocks.Charset.Unicode
import CommentBlocks.Disk.Grow
import CommentBlocks.Disk.Node
import CommentBlocks.Disk.Path
import CommentBlocks.Disk.Resolve
import CommentBlocks.Disk.Walk
import CommentBlocks.Glob.Basic
import CommentBlocks.Glob.Expression
import CommentBlocks.Glob.Fault
import CommentBlocks.Glob.Filter
import CommentBlocks.Glob.Match
import CommentBlocks.Glob.Part
import CommentBlocks.Glob.Reach
import CommentBlocks.Issue.Cause
import CommentBlocks.Issue.Issue
import CommentBlocks.Json.Form
import CommentBlocks.Json.Lexeme
import CommentBlocks.Json.Numeral
import CommentBlocks.Json.Value
import CommentBlocks.Json.Written
import CommentBlocks.Language.Languages
import CommentBlocks.Language.Rule
import CommentBlocks.Language.Standard
import CommentBlocks.Message.Phrase
import CommentBlocks.Message.Template
import CommentBlocks.Message.Translator
import CommentBlocks.Plan.All
import CommentBlocks.Plan.Basic
import CommentBlocks.Run.Basic
import CommentBlocks.Run.Play
import CommentBlocks.Run.Weight
import CommentBlocks.Selection.Basic
import CommentBlocks.Selection.Limits
import CommentBlocks.Selection.Listing
import CommentBlocks.Shared.Basic
import CommentBlocks.Shared.Journal
import CommentBlocks.Shared.Signal
import CommentBlocks.Source.Closing
import CommentBlocks.Source.Extract
import CommentBlocks.Source.Piece
import CommentBlocks.Text.Blank
import CommentBlocks.Worker.Alone
import CommentBlocks.Worker.Outcome
import CommentBlocks.Worker.Phase
import CommentBlocks.Proofs.Run.Balance
import CommentBlocks.Proofs.Run.Progress
import CommentBlocks.Proofs.Run.Dispatch
import CommentBlocks.Proofs.Run.Played
import CommentBlocks.Proofs.Run.Ending
import CommentBlocks.Proofs.Source.Groups
import CommentBlocks.Proofs.Source.Lines
import CommentBlocks.Proofs.Source.Literal
import CommentBlocks.Proofs.Plan.Faults
import CommentBlocks.Proofs.Run.Delivery
import CommentBlocks.Proofs.Run.Close
import CommentBlocks.Proofs.Run.Liveness
import CommentBlocks.Proofs.Run.Leaving
import CommentBlocks.Proofs.Source.Adjacent
import CommentBlocks.Proofs.Source.Closing
import CommentBlocks.Proofs.Source.Unclosed
import CommentBlocks.Proofs.Source.Quoted
import CommentBlocks.Proofs.Source.Positions
import CommentBlocks.Proofs.Charset.Stored
import CommentBlocks.Proofs.Worker.Alone
import CommentBlocks.Proofs.Worker.Storage
import CommentBlocks.Proofs.Json.Lexeme
import CommentBlocks.Proofs.Json.Spaced
import CommentBlocks.Proofs.Json.Record
import CommentBlocks.Proofs.Json.RoundTrip
import CommentBlocks.Proofs.Source.Letters
import CommentBlocks.Proofs.Source.Returns
import CommentBlocks.Proofs.Source.LineEnds
import CommentBlocks.Proofs.Run.Shares
import CommentBlocks.Proofs.Worker.Session
import CommentBlocks.Proofs.Disk.Names
import CommentBlocks.Proofs.Selection.Spellings
import CommentBlocks.Proofs.Disk.Tree
import CommentBlocks.Proofs.Disk.Follow
import CommentBlocks.Proofs.Disk.Spelled
import CommentBlocks.Proofs.Disk.Plain
import CommentBlocks.Proofs.Disk.Outcome
import CommentBlocks.Proofs.Disk.Visit
import CommentBlocks.Proofs.Disk.Straight
import CommentBlocks.Proofs.Disk.SameTree
import CommentBlocks.Proofs.Disk.Leads
import CommentBlocks.Proofs.Selection.Directory
import CommentBlocks.Proofs.Selection.Links
import CommentBlocks.Proofs.Selection.Missing
import CommentBlocks.Proofs.Message.Pieces
import CommentBlocks.Proofs.Text.Characters
import CommentBlocks.Proofs.Glob.Takes
import CommentBlocks.Proofs.Glob.Fits
import CommentBlocks.Proofs.Glob.Pattern
import CommentBlocks.Proofs.Glob.Line
import CommentBlocks.Proofs.Glob.Deep
import CommentBlocks.Proofs.Glob.Kept
import CommentBlocks.Proofs.Selection.Globs
import CommentBlocks.Proofs.Selection.Extensions
import CommentBlocks.Proofs.Selection.Listed
import CommentBlocks.Proofs.Message.Reports
import CommentBlocks.Proofs.Language.Registered
import CommentBlocks.Proofs.Message.Locales
import CommentBlocks.Proofs.Json.Grammar
import CommentBlocks.Proofs.Json.AnyOrder
import CommentBlocks.Proofs.Shared.Families
import CommentBlocks.Proofs.Shared.Conserved
import CommentBlocks.Proofs.Shared.Raised
import CommentBlocks.Proofs.Shared.Watched
import CommentBlocks.Proofs.Disk.Normal
import CommentBlocks.Proofs.Selection.Detours
