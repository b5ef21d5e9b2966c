import EditHistory.Action
import EditHistory.Auth.Authenticator
import EditHistory.Auth.Config
import EditHistory.Auth.Store
import EditHistory.Auth.Token
import EditHistory.Command
import EditHistory.Command.Reading
import EditHistory.CommandLine.Arguments
import EditHistory.CommandLine.Program
import EditHistory.Docs.Client
import EditHistory.Docs.Id
import EditHistory.Docs.Metadata
import EditHistory.Document
import EditHistory.Document.Styled
import EditHistory.Files
import EditHistory.Files.Path
import EditHistory.Json.Encoded
import EditHistory.Json.Guard
import EditHistory.Json.Reader
import EditHistory.Json.Writer
import EditHistory.Log
import EditHistory.Log.Logger
import EditHistory.Number.Binary
import EditHistory.Number.Layout
import EditHistory.Number.Limit
import EditHistory.Number.Mixed
import EditHistory.Number.Reading
import EditHistory.Number.Shortest
import EditHistory.Playback.Cursor
import EditHistory.Playback.Engine
import EditHistory.Playback.Host
import EditHistory.Playback.Operation
import EditHistory.Playback.Options
import EditHistory.Playback.Schedule
import EditHistory.Playback.Speeds
import EditHistory.Playback.Status
import EditHistory.Playback.Ticker
import EditHistory.Preferences
import EditHistory.Preferences.SpeedLine
import EditHistory.Preferences.Store
import EditHistory.Revision
import EditHistory.Revision.Archive
import EditHistory.Revision.Payload
import EditHistory.Session
import EditHistory.Terminal.Cells
import EditHistory.Terminal.Color
import EditHistory.Terminal.Emoji
import EditHistory.Terminal.Emoji.Table
import EditHistory.Terminal.Literal
import EditHistory.Terminal.Markup
import EditHistory.Terminal.Style
import EditHistory.Text.Base64
import EditHistory.Text.Blank
import EditHistory.Text.Digit
import EditHistory.Text.Letter
import EditHistory.Text.Lines
import EditHistory.Text.Lowercase
import EditHistory.Text.Printable
import EditHistory.Text.Quoted
import EditHistory.Text.Uppercase
import EditHistory.Text.Utf8
import EditHistory.Text.Wide
import EditHistory.Text.Width
import EditHistory.Value
import EditHistory.Value.Field
import EditHistory.Viewer
import EditHistory.Viewer.Shade
import EditHistory.Viewer.Tag
import EditHistory.Viewer.Tagged
import EditHistory.Viewer.View
import EditHistory.Web.Address
import EditHistory.Web.Exchange
import EditHistory.Web.Form
import EditHistory.Web.IpAddress
import EditHistory.Web.Location
import EditHistory.Web.Status
import EditHistory.Yaml.Cursor
import EditHistory.Yaml.Data
import EditHistory.Yaml.Load
import EditHistory.Yaml.Moment
import EditHistory.Yaml.Node
import EditHistory.Yaml.Place
import EditHistory.Yaml.Plain
import EditHistory.Yaml.Scalar
import EditHistory.Yaml.Shape
import EditHistory.Yaml.Token
import EditHistory.Main
import EditHistory.Proofs.Actions
import EditHistory.Proofs.Command.Reading
import EditHistory.Proofs.CommandLine.Fetch
import EditHistory.Proofs.Json.Guard
import EditHistory.Proofs.Number.Text
import EditHistory.Proofs.Web.Address
import EditHistory.Proofs.Web.Form
import EditHistory.Proofs.Web.Location
import EditHistory.Proofs.Preferences.Saving
import EditHistory.Proofs.Playback.Clock
import EditHistory.Proofs.Playback.Content
import EditHistory.Proofs.Playback.Lockstep
import EditHistory.Proofs.Playback.Snapshots
import EditHistory.Proofs.Playback.Ticks
import EditHistory.Proofs.Steps
import EditHistory.Proofs.Replay
import EditHistory.Proofs.Replay.Edits
import EditHistory.Proofs.Replay.Undo
import EditHistory.Proofs.Auth.Redirect
import EditHistory.Proofs.Json.Limit
import EditHistory.Proofs.Revision.Archive
import EditHistory.Proofs.Number.Double
import EditHistory.Proofs.Number.Nearest
import EditHistory.Proofs.Number.Decimal
import EditHistory.Proofs.Number.Shortest
import EditHistory.Proofs.Number.Display
import EditHistory.Proofs.Json.Number
import EditHistory.Proofs.Json.Writer
import EditHistory.Proofs.Auth.Store
import EditHistory.Proofs.Auth.Signing
import EditHistory.Proofs.Revision.Batch
import EditHistory.Proofs.Docs.Fetching
import EditHistory.Proofs.Number.Quotient
import EditHistory.Proofs.Playback.Pace
import EditHistory.Proofs.Viewer.Playing
import EditHistory.Proofs.Playback.Failures
import EditHistory.Proofs.Playback.Options
import EditHistory.Proofs.Auth.Loading
import EditHistory.Proofs.Auth.Asking
import EditHistory.Proofs.Files.Names
import EditHistory.Proofs.Value.Field
import EditHistory.Proofs.Number.Integer
import EditHistory.Proofs.Number.Order
import EditHistory.Proofs.Number.Difference
import EditHistory.Proofs.Playback.Speeds
import EditHistory.Proofs.Viewer.Speed
import EditHistory.Proofs.Document.Styled
import EditHistory.Proofs.Command.Warnings
import EditHistory.Proofs.Docs.Script
import EditHistory.Proofs.Docs.Failures
import EditHistory.Proofs.Docs.Id
import EditHistory.Proofs.Preferences.Resaving
import EditHistory.Proofs.Auth.Drafts
import EditHistory.Proofs.Preferences.Loading
import EditHistory.Proofs.Auth.Consent
import EditHistory.Proofs.Playback.Course
import EditHistory.Proofs.CommandLine.Ending
import EditHistory.Proofs.Playback.Starting
import EditHistory.Proofs.Revision.Guarded
