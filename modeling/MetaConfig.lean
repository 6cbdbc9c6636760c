import MetaConfig.Main
import MetaConfig.Page
import MetaConfig.Line.Exchange
import MetaConfig.Proofs.Command.Conversion
import MetaConfig.Proofs.Highlight.Html
import MetaConfig.Proofs.Line.Grammar
import MetaConfig.Proofs.Source.Agreement
import MetaConfig.Proofs.Source.Declared
import MetaConfig.Proofs.Source.Inference
import MetaConfig.Proofs.Line.Reference
import MetaConfig.Proofs.Line.Reading
import MetaConfig.Proofs.Highlight.Plain
import MetaConfig.Proofs.Render.Marking
import MetaConfig.Proofs.Json.Printing
import MetaConfig.Proofs.Highlight.Json
import MetaConfig.Proofs.Render.Sections
import MetaConfig.Proofs.Text.LineBreaks
import MetaConfig.Proofs.Json.LineBreaks
import MetaConfig.Proofs.LineBreaks
import MetaConfig.Proofs.Highlight.Colour
import MetaConfig.Proofs.Page
import MetaConfig.Proofs.Json.Members
import MetaConfig.Proofs.Json.Leaves
import MetaConfig.Proofs.Source.Flattening
import MetaConfig.Proofs.Source.Keys
import MetaConfig.Proofs.Source.Malformed
import MetaConfig.Proofs.Command.Highlighting
import MetaConfig.Proofs.Source.Integers
import MetaConfig.Proofs.Render.Rereading
import MetaConfig.Proofs.Source.Rules
import MetaConfig.Proofs.Line.Padding
import MetaConfig.Proofs.Source.Lines
import MetaConfig.Proofs.Source.FileNames
import MetaConfig.Proofs.Text.Positions
