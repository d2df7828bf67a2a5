import RippleServer.Client.Capabilities
import RippleServer.Client.Params
import RippleServer.Dependency
import RippleServer.Environment
import RippleServer.Event
import RippleServer.Extension
import RippleServer.Frame
import RippleServer.Host.Allowed
import RippleServer.Host.Folding
import RippleServer.Host.Name
import RippleServer.Host.Punycode
import RippleServer.Host.Script
import RippleServer.Json.Basic
import RippleServer.Json.Decode
import RippleServer.Json.Number
import RippleServer.Json.Printer
import RippleServer.Json.Problem
import RippleServer.Json.Reader
import RippleServer.Json.Record
import RippleServer.Json.Shortest
import RippleServer.Json.Skip
import RippleServer.Launch
import RippleServer.Lifecycle
import RippleServer.Log.Filter
import RippleServer.Log.Format
import RippleServer.Log.Line
import RippleServer.Log.Pattern
import RippleServer.Log.Record
import RippleServer.Main
import RippleServer.Messages
import RippleServer.Module.Basic
import RippleServer.Module.Disk
import RippleServer.Options
import RippleServer.Path
import RippleServer.Plugin.Assembly
import RippleServer.Plugin.Language
import RippleServer.Plugin.Providers
import RippleServer.Plugin.Service
import RippleServer.Program
import RippleServer.Project
import RippleServer.Proofs.Aggregation
import RippleServer.Proofs.Classification
import RippleServer.Proofs.Coherence
import RippleServer.Proofs.Composition
import RippleServer.Proofs.Dialogue
import RippleServer.Proofs.DocumentRoot
import RippleServer.Proofs.Ending
import RippleServer.Proofs.EnvironmentShield
import RippleServer.Proofs.Exchanges
import RippleServer.Proofs.FailureReports
import RippleServer.Proofs.FileWatching
import RippleServer.Proofs.FirstMentions
import RippleServer.Proofs.FrameRoundTrip
import RippleServer.Proofs.Framing
import RippleServer.Proofs.Handshake
import RippleServer.Proofs.Header
import RippleServer.Proofs.HeaderLoop
import RippleServer.Proofs.InertTraffic
import RippleServer.Proofs.JoinedPaths
import RippleServer.Proofs.JsonMembers
import RippleServer.Proofs.JsonRoundTrip
import RippleServer.Proofs.JsonScalars
import RippleServer.Proofs.JsonSkipping
import RippleServer.Proofs.JsonTree
import RippleServer.Proofs.Lifecycle
import RippleServer.Proofs.Locales
import RippleServer.Proofs.Lookups
import RippleServer.Proofs.ManifestAgreement
import RippleServer.Proofs.MessageRoundTrip
import RippleServer.Proofs.OptionPayloads
import RippleServer.Proofs.PackageLoading
import RippleServer.Proofs.PathComponents
import RippleServer.Proofs.ProjectMemo
import RippleServer.Proofs.Providers
import RippleServer.Proofs.RecordDecoding
import RippleServer.Proofs.Registrations
import RippleServer.Proofs.Resolution
import RippleServer.Proofs.SdkLoading
import RippleServer.Proofs.Shutdown
import RippleServer.Proofs.TablePlaces
import RippleServer.Proofs.Trace
import RippleServer.Proofs.Triggers
import RippleServer.Proofs.Utf8
import RippleServer.Rpc.Message
import RippleServer.Rpc.Reply
import RippleServer.Sdk
import RippleServer.Server
import RippleServer.Session
import RippleServer.Text.Alphanumeric
import RippleServer.Text.Blank
import RippleServer.Text.CodePoint
import RippleServer.Text.Decimal
import RippleServer.Text.Quoted
import RippleServer.Text.Terminal
import RippleServer.Text.Unprintable
import RippleServer.Text.Unseen
import RippleServer.Text.Utf8
import RippleServer.Uri.Basic
import RippleServer.Uri.FilePath
import RippleServer.Watch
