import BlockLexer.Unicode.Ranges
import BlockLexer.Unicode.Letter
import BlockLexer.Unicode.Numeral
import BlockLexer.Unicode.Alphanumeric
import BlockLexer.Unicode.Blank
import BlockLexer.Unicode.Unprintable
import BlockLexer.Text
import BlockLexer.Text.Quoted
import BlockLexer.Text.Pool
import BlockLexer.Position
import BlockLexer.Settings
import BlockLexer.Error
import BlockLexer.Token.Symbol
import BlockLexer.Token.NumberFormat
import BlockLexer.Token.Basic
import BlockLexer.Lexeme.Basic
import BlockLexer.Lexeme.Delimited
import BlockLexer.Lexeme.Content
import BlockLexer.Lexeme.Number
import BlockLexer.Lexeme.Cut
import BlockLexer.Tokenize
import BlockLexer.Cursor
import BlockLexer.Block
import BlockLexer.Line.Basic
import BlockLexer.Line.Reader
import BlockLexer.Line.Merge
import BlockLexer.Token.Reader
import BlockLexer.Proofs.Text.Lines
import BlockLexer.Proofs.Text.Pool
import BlockLexer.Proofs.Position
import BlockLexer.Proofs.Position.Order
import BlockLexer.Proofs.Cursor
import BlockLexer.Proofs.Cursor.Run
import BlockLexer.Proofs.Lexeme.Content
import BlockLexer.Proofs.Lexeme.Delimited
import BlockLexer.Proofs.Lexeme.Number
import BlockLexer.Proofs.Lexeme.Fits
import BlockLexer.Proofs.Lexeme.Extension
import BlockLexer.Proofs.Lexeme.Flaw
import BlockLexer.Proofs.Tokenize
import BlockLexer.Proofs.Tiling
import BlockLexer.Proofs.Grammar
import BlockLexer.Proofs.Block.Follow
import BlockLexer.Proofs.Composition
import BlockLexer.Proofs.Line.Physical
import BlockLexer.Proofs.Line.Reader
import BlockLexer.Proofs.Line.Merge
import BlockLexer.Proofs.Line.Run
import BlockLexer.Proofs.Line.Cache
import BlockLexer.Proofs.Block.Spans
import BlockLexer.Proofs.Token.Unit
import BlockLexer.Proofs.Token.Streaming
import BlockLexer.Proofs.Token.Run
import BlockLexer.Proofs.Line.Grouping
import BlockLexer.Proofs.Error
import BlockLexer.Proofs.Token.Failure
import BlockLexer.Proofs.Line.Tiling
import BlockLexer.Proofs.Token.Resumption
import BlockLexer.Proofs.Reach
import BlockLexer.Proofs.Closing
import BlockLexer.Proofs.Children
import BlockLexer.Proofs.Sift
import BlockLexer.Proofs.Level
import BlockLexer.Proofs.Token.Nesting
import BlockLexer.Proofs.Token.NumberFormat
import BlockLexer.Proofs.Translation
