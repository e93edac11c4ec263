import Storyline.Main
import Storyline.Script.Json
import Storyline.Proofs.Diagnostic
import Storyline.Proofs.Graph.Draft
import Storyline.Proofs.Graph.Destinations
import Storyline.Proofs.Graph.Sound
import Storyline.Proofs.Graph.Edges
import Storyline.Proofs.Graph.Targets
import Storyline.Proofs.Graph.Attach
import Storyline.Proofs.Steps
import Storyline.Proofs.Build.Assembly
import Storyline.Proofs.Build.Integrity
import Storyline.Proofs.Sheet.OnePass
import Storyline.Proofs.Sheet.Spelling
import Storyline.Proofs.Graph.NodeKey
import Storyline.Proofs.Graph.Renumber
import Storyline.Proofs.Build.StoryOrder
import Storyline.Proofs.Double.Rounding
import Storyline.Proofs.Double.Shortest
import Storyline.Proofs.Json.Numbers
import Storyline.Proofs.Json.QuotedText
import Storyline.Proofs.Json.RoundTrip
import Storyline.Proofs.Json.Fitting
import Storyline.Proofs.Database.Members
import Storyline.Proofs.Database.RoundTrip
import Storyline.Proofs.Sheet.Counting
import Storyline.Proofs.Text.Utf8
import Storyline.Proofs.Build.Legible
import Storyline.Proofs.Build.Printed
import Storyline.Proofs.Command.Stages
import Storyline.Proofs.Build.Entry
import Storyline.Proofs.Command.Outputs
import Storyline.Proofs.Json.Printable
import Storyline.Proofs.Build.ReadBack
import Storyline.Proofs.Database.Printable
import Storyline.Proofs.Build.Sources
import Storyline.Proofs.Command.History
import Storyline.Proofs.Command.Rebuild
import Storyline.Proofs.Graph.Voices
import Storyline.Proofs.Graph.Authored
import Storyline.Proofs.Graph.Traced
import Storyline.Proofs.Build.Faults
import Storyline.Proofs.Command.Transcript
import Storyline.Proofs.Command.Recovery
import Storyline.Proofs.Graph.Options
import Storyline.Proofs.Graph.Accounts
import Storyline.Proofs.Text.Lower
import Storyline.Proofs.Graph.Acceptance
import Storyline.Proofs.Graph.Linkable
import Storyline.Proofs.Graph.Meaningless
import Storyline.Proofs.Graph.PlayThrough
import Storyline.Proofs.Graph.LinkSets
import Storyline.Proofs.Text.Encoding
import Storyline.Proofs.Command.Undecodable
import Storyline.Proofs.Sheet.Columns
import Storyline.Catalog.Request
import Storyline.Proofs.Catalog.Lookup
import Storyline.Proofs.Sheet.Mark
import Storyline.Proofs.Script.Dialogue
import Storyline.Proofs.Script.LinkTargets
import Storyline.Proofs.Script.Staging
import Storyline.Proofs.Numeral
