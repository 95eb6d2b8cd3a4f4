import CallAtlas.Text.Width
import CallAtlas.Text.Word
import CallAtlas.Json.Printing
import CallAtlas.Json.Reading
import CallAtlas.Limit
import CallAtlas.Resolve
import CallAtlas.Browser
import CallAtlas.Graph.Assembly
import CallAtlas.Graph.Share
import CallAtlas.Settings
import CallAtlas.Store.Change
import CallAtlas.Store.Document
import CallAtlas.Http.Location
import CallAtlas.Explorer.Served
import CallAtlas.Console.Layout
import CallAtlas.Tools
import CallAtlas.CommandLine.Run
import CallAtlas.Main
import CallAtlas.Proofs.Graph.Members
import CallAtlas.Proofs.Sorting
import CallAtlas.Proofs.Graph.Typed
import CallAtlas.Proofs.Graph.Size
import CallAtlas.Proofs.Graph.Edges
import CallAtlas.Proofs.Graph.Ranking
import CallAtlas.Proofs.Graph.Growth
import CallAtlas.Proofs.Graph.Attributes
import CallAtlas.Proofs.Explorer.Acts
import CallAtlas.Proofs.Explorer.Latest
import CallAtlas.Proofs.Explorer.Answers
import CallAtlas.Proofs.Explorer.Confluence
import CallAtlas.Proofs.Explorer.Requests
import CallAtlas.Proofs.Explorer.Failures
import CallAtlas.Proofs.Explorer.Origin
import CallAtlas.Proofs.Graph.Paths
import CallAtlas.Proofs.Graph.RowOrder
import CallAtlas.Proofs.Path.Resolution
import CallAtlas.Proofs.Explorer.Agreement
import CallAtlas.Proofs.Path.LastSegment
import CallAtlas.Proofs.Path.Enumeration
import CallAtlas.Proofs.Browser.Directories
import CallAtlas.Proofs.Explorer.FileLoads
import CallAtlas.Proofs.Explorer.Settlement
import CallAtlas.Proofs.Explorer.Sides
import CallAtlas.Proofs.Store.Sources
import CallAtlas.Proofs.Browser.Opening
import CallAtlas.Proofs.Store.Sessions
import CallAtlas.Proofs.Client.Transparency
import CallAtlas.Proofs.Graph.History
import CallAtlas.Proofs.Graph.Filling
import CallAtlas.Proofs.Query.Lexemes
import CallAtlas.Proofs.Query.Segments
