import CallTree.KeyMap
import CallTree.Text.Blank
import CallTree.Text.Case
import CallTree.Text.Quoted
import CallTree.Text.Segments
import CallTree.Text.Utf8
import CallTree.Double.Layout
import CallTree.Json.Reader
import CallTree.Tree.Build
import CallTree.Runner.Response
import CallTree.Runner.Retry
import CallTree.History
import CallTree.Address.Basic
import CallTree.Runner.Client
import CallTree.Settings.Source
import CallTree.CommandLine.Run
import CallTree.Main
import CallTree.Settings.Yaml.Cursor
import CallTree.Settings.Yaml.Scalar
import CallTree.Proofs.Text.Numerals
import CallTree.Proofs.Text.Splitting
import CallTree.Proofs.Tree.NodeId
import CallTree.Proofs.Frame.Path
import CallTree.Proofs.Tree.Shape
import CallTree.Proofs.Tree.Place
import CallTree.Proofs.Log.Segments
import CallTree.Proofs.Tree.Position
import CallTree.Proofs.Text.Packing
import CallTree.Proofs.Token.Numbers
import CallTree.Proofs.KeyMap
import CallTree.Proofs.Log.Carried
import CallTree.Proofs.Log.Message
import CallTree.Proofs.Log.RoundTrip
import CallTree.Proofs.Tree.Calls
import CallTree.Proofs.Json.Value
import CallTree.Proofs.Frame.Form
import CallTree.Proofs.History.Session
import CallTree.Proofs.Json.Reading
import CallTree.Proofs.Json.RoundTrip
import CallTree.Proofs.CommandLine.Again
import CallTree.Proofs.Log.Dropped
import CallTree.Proofs.Tree.Children
import CallTree.Proofs.Frame.Malformed
import CallTree.Proofs.Address.Percent
import CallTree.Proofs.Address.Endpoint
import CallTree.Proofs.Runner.Script
import CallTree.Proofs.Token.Spellings
import CallTree.Proofs.Files.Places
import CallTree.Proofs.Tree.Flags
import CallTree.Proofs.Tree.Erasure
import CallTree.Proofs.CommandLine.HistoryFile
import CallTree.Proofs.Token.SignBit
import CallTree.Proofs.Runner.Listing
import CallTree.Proofs.Runner.Labels
import CallTree.Proofs.Log.Overlay
import CallTree.Proofs.Token.Settled
import CallTree.Proofs.Token.Digitless
import CallTree.Proofs.History.Others
import CallTree.Proofs.Frame.Writings
import CallTree.Proofs.Runner.Resolving
import CallTree.Proofs.Token.HexText
import CallTree.Proofs.Token.Nesting
import CallTree.Proofs.Token.Source
import CallTree.Proofs.Runner.Order
import CallTree.Proofs.Runner.Runs
import CallTree.Proofs.Runner.Envelope
import CallTree.Proofs.Runner.Attempts
import CallTree.Proofs.Text.Decimals
import CallTree.Proofs.Tree.IdText
import CallTree.Proofs.Log.Fields
import CallTree.Proofs.Log.SoleArgument
import CallTree.Proofs.Text.Lines
import CallTree.Proofs.Runner.Readable
