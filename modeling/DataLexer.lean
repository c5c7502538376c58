import DataLexer.Main
import DataLexer.Proofs.Balance
import DataLexer.Proofs.Relexing
import DataLexer.Proofs.RowBreaks
import DataLexer.Proofs.Abreast
import DataLexer.Proofs.LineEndings
import DataLexer.Proofs.Extension
import DataLexer.Proofs.Truncation
import DataLexer.Proofs.Faults
import DataLexer.Proofs.FirstDefect
import DataLexer.Proofs.Closing
import DataLexer.Proofs.Relocation
import DataLexer.Proofs.Seam
import DataLexer.Proofs.Bare
import DataLexer.Proofs.Comments
import DataLexer.Proofs.Grammar
import DataLexer.Proofs.Names
import DataLexer.Proofs.Positions
import DataLexer.Proofs.Requests
import DataLexer.Proofs.Carets
import DataLexer.Proofs.ByteOrderMark
import DataLexer.Proofs.Listing
import DataLexer.Check.Workers
import DataLexer.Proofs.Commands
import DataLexer.Proofs.CheckRuns
import DataLexer.Proofs.PathOrder
import DataLexer.Proofs.Relisting
import DataLexer.Proofs.Collection
import DataLexer.Proofs.Painting
import DataLexer.Proofs.Gutters
import DataLexer.Proofs.SourceLines
import DataLexer.Proofs.LineEnds
import DataLexer.Proofs.Excerpts
import DataLexer.Proofs.ErrorReports
import DataLexer.Proofs.FileNames
import DataLexer.Proofs.ReadBack
import DataLexer.Proofs.Recorder
import DataLexer.Proofs.Notes
import DataLexer.Proofs.Recording
import DataLexer.Proofs.Walk
