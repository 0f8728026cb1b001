import SexprCall.Cursor.Family
import SexprCall.Reader.Session
import SexprCall.File.System
import SexprCall.Main
import SexprCall.Proofs.Grammar.Parsing
import SexprCall.Proofs.Reader.Tally
import SexprCall.Proofs.Reader.Memory
import SexprCall.Proofs.Node.Outline
import SexprCall.Proofs.Render.Lines
import SexprCall.Proofs.Render.Decoding
import SexprCall.Proofs.Render.Injectivity
import SexprCall.Proofs.Cursor.Placement
import SexprCall.Proofs.Position.Count
import SexprCall.Proofs.Grammar.Correspondence
import SexprCall.Proofs.Render.Success
import SexprCall.Proofs.Source.Concatenation
import SexprCall.Proofs.Source.Extension
import SexprCall.Proofs.Source.Completion
import SexprCall.Proofs.Grammar.Subtree
import SexprCall.Proofs.Reader.Returned
import SexprCall.Proofs.Source.Excerpt
import SexprCall.Proofs.Cursor.Location
import SexprCall.Proofs.Lexeme.Segmentation
import SexprCall.Proofs.Cursor.Reached
import SexprCall.Proofs.Node.Layout
import SexprCall.Proofs.Source.Respacing
import SexprCall.Proofs.Render.Session
import SexprCall.Proofs.File.LineEndings
import SexprCall.Proofs.Command.Contract
import SexprCall.Proofs.Source.Seam
import SexprCall.Proofs.Reader.Progress
import SexprCall.Proofs.Cursor.Indices
import SexprCall.Proofs.Render.Unrolling
import SexprCall.Proofs.Render.Dependence
import SexprCall.Proofs.Render.Arguments
import SexprCall.Proofs.Text.Balance
import SexprCall.Proofs.Render.Balance
import SexprCall.Proofs.Text.Quoting
import SexprCall.Proofs.Node.Leaves
import SexprCall.Proofs.Command.Verbose
import SexprCall.Proofs.Command.Listing
import SexprCall.Proofs.Command.Output
import SexprCall.Proofs.File.Decoding
import SexprCall.Proofs.Command.Arrangement
