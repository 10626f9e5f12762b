import ProxyClient.Address.Endpoint
import ProxyClient.Address.Ipv6
import ProxyClient.Address.Options
import ProxyClient.Address.Reader
import ProxyClient.Address.SuspendToken
import ProxyClient.Address.Url
import ProxyClient.Bind.Key
import ProxyClient.Bind.Placeholders
import ProxyClient.Bind.Set
import ProxyClient.Bind.Value
import ProxyClient.Bytes
import ProxyClient.Cache.Desk
import ProxyClient.Cache.Header
import ProxyClient.Cache.Reader
import ProxyClient.Cache.Writer
import ProxyClient.Client
import ProxyClient.Column
import ProxyClient.Cursor.Basic
import ProxyClient.Cursor.Rows
import ProxyClient.Cursor.Statement
import ProxyClient.Cursor.Variables
import ProxyClient.Disk.Basic
import ProxyClient.Disk.Stream
import ProxyClient.Domain.Basic
import ProxyClient.Domain.Direction
import ProxyClient.Domain.Joiner
import ProxyClient.Domain.Mapping
import ProxyClient.Domain.Mapping.Table
import ProxyClient.Domain.Punycode
import ProxyClient.Double.Basic
import ProxyClient.Double.Print
import ProxyClient.Double.Read
import ProxyClient.Error
import ProxyClient.Exchange.Basic
import ProxyClient.Exchange.Command
import ProxyClient.Exchange.Handshake
import ProxyClient.Exchange.Phase
import ProxyClient.Exchange.Query
import ProxyClient.Message.Request
import ProxyClient.Message.Rows
import ProxyClient.Message.Server
import ProxyClient.Message.Session
import ProxyClient.Network.Basic
import ProxyClient.Network.Script
import ProxyClient.Network.Transport
import ProxyClient.Proofs.Address.Credentials
import ProxyClient.Proofs.Address.Reader
import ProxyClient.Proofs.Address.Spelling
import ProxyClient.Proofs.Bind.Keys
import ProxyClient.Proofs.Bind.Order
import ProxyClient.Proofs.Bind.Reading
import ProxyClient.Proofs.Bind.Scanning
import ProxyClient.Proofs.Cache.Collecting
import ProxyClient.Proofs.Cache.Copying
import ProxyClient.Proofs.Cache.Cuts
import ProxyClient.Proofs.Cache.Damage
import ProxyClient.Proofs.Cache.Expiry
import ProxyClient.Proofs.Cache.Heading
import ProxyClient.Proofs.Cache.Likeness
import ProxyClient.Proofs.Cache.Losing
import ProxyClient.Proofs.Cache.Reading
import ProxyClient.Proofs.Cache.Recording
import ProxyClient.Proofs.Cache.Resumption
import ProxyClient.Proofs.Cache.Slicing
import ProxyClient.Proofs.Cache.Transcript
import ProxyClient.Proofs.Cache.Whole
import ProxyClient.Proofs.Cursor.Absence
import ProxyClient.Proofs.Cursor.Apart
import ProxyClient.Proofs.Cursor.Beside
import ProxyClient.Proofs.Cursor.Checking
import ProxyClient.Proofs.Cursor.Closing
import ProxyClient.Proofs.Cursor.Courses
import ProxyClient.Proofs.Cursor.Deeds
import ProxyClient.Proofs.Cursor.Driving
import ProxyClient.Proofs.Cursor.Epochs
import ProxyClient.Proofs.Cursor.Failure
import ProxyClient.Proofs.Cursor.Fetching
import ProxyClient.Proofs.Cursor.Hiding
import ProxyClient.Proofs.Cursor.History
import ProxyClient.Proofs.Cursor.Interruption
import ProxyClient.Proofs.Cursor.Leaving
import ProxyClient.Proofs.Cursor.Liveness
import ProxyClient.Proofs.Cursor.Offline
import ProxyClient.Proofs.Cursor.Opening
import ProxyClient.Proofs.Cursor.Outputs
import ProxyClient.Proofs.Cursor.Recorders
import ProxyClient.Proofs.Cursor.Refusal
import ProxyClient.Proofs.Cursor.Settings
import ProxyClient.Proofs.Cursor.Silence
import ProxyClient.Proofs.Cursor.Sparing
import ProxyClient.Proofs.Cursor.Standing
import ProxyClient.Proofs.Disk.Files
import ProxyClient.Proofs.Exchange.Answer
import ProxyClient.Proofs.Exchange.Events
import ProxyClient.Proofs.Exchange.Grammar
import ProxyClient.Proofs.Exchange.Journal
import ProxyClient.Proofs.Exchange.Tee
import ProxyClient.Proofs.Message.Fields
import ProxyClient.Proofs.Message.Login
import ProxyClient.Proofs.Message.OneByOne
import ProxyClient.Proofs.Message.Statement
import ProxyClient.Proofs.Message.Values
import ProxyClient.Proofs.Message.Writing
import ProxyClient.Proofs.Paging.Agreement
import ProxyClient.Proofs.Paging.Batch
import ProxyClient.Proofs.Paging.Exact
import ProxyClient.Proofs.Paging.Indexing
import ProxyClient.Proofs.Paging.Page
import ProxyClient.Proofs.Paging.Server
import ProxyClient.Proofs.Paging.Sources
import ProxyClient.Proofs.Paging.Steps
import ProxyClient.Proofs.Paging.Supply
import ProxyClient.Proofs.Paging.TableServer
import ProxyClient.Proofs.Paging.Window
import ProxyClient.Proofs.Session.Connecting
import ProxyClient.Proofs.Session.Delivery
import ProxyClient.Proofs.Session.Hearing
import ProxyClient.Proofs.Session.Moves
import ProxyClient.Proofs.Session.Parking
import ProxyClient.Proofs.Session.Requests
import ProxyClient.Proofs.Session.Synchrony
import ProxyClient.Proofs.Text.Digits
import ProxyClient.Proofs.Text.Escaping
import ProxyClient.Proofs.Text.Expansion
import ProxyClient.Proofs.Text.Splitting
import ProxyClient.Proofs.Wire.Framing
import ProxyClient.Proofs.Wire.Items
import ProxyClient.Proofs.Wire.Layout
import ProxyClient.Proofs.Wire.Stream
import ProxyClient.ResultSet
import ProxyClient.RowHandler
import ProxyClient.Session.Basic
import ProxyClient.Substitution
import ProxyClient.Text.Case
import ProxyClient.Text.Composition
import ProxyClient.Text.Lossy
import ProxyClient.Text.Marks
import ProxyClient.Text.Numeral
import ProxyClient.Text.Percent
import ProxyClient.Text.Split
import ProxyClient.Text.Table
import ProxyClient.Wire.Builder
import ProxyClient.Wire.Codec
import ProxyClient.Wire.Frame
import ProxyClient.Wire.Source
import ProxyClient.Wire.Tag
