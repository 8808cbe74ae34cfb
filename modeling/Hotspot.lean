import Hotspot.Text.Ranges
import Hotspot.Text.Blank
import Hotspot.Text.Digits
import Hotspot.Text.Printable
import Hotspot.Text.Cased
import Hotspot.Text.Lowercase
import Hotspot.Text.Pattern
import Hotspot.Text.Quoted
import Hotspot.Text.Hex
import Hotspot.Text.Utf8
import Hotspot.Text.Surrogates
import Hotspot.Text.ModifiedUtf8
import Hotspot.Text.Numeral
import Hotspot.Text.CodePoints
import Hotspot.Binary64.Basic
import Hotspot.Binary64.Decimal
import Hotspot.Binary64.Shortest
import Hotspot.Value.Basic
import Hotspot.Value.Display
import Hotspot.Json.Node
import Hotspot.Json.Token
import Hotspot.Json.Encoding
import Hotspot.Json.Parser
import Hotspot.Json.Printer
import Hotspot.Text.Uppercase
import Hotspot.Band.Basic
import Hotspot.Band.Policy
import Hotspot.Band.Reading
import Hotspot.SecurityType
import Hotspot.MacAddress
import Hotspot.Flag
import Hotspot.Configuration.Basic
import Hotspot.Configuration.Validation
import Hotspot.Configuration.Mapping
import Hotspot.Disk.Path
import Hotspot.Disk.Basic
import Hotspot.Disk.Lemmas
import Hotspot.Capabilities.Basic
import Hotspot.Capabilities.Resources
import Hotspot.Draws
import Hotspot.Defaults
import Hotspot.Digest.Sha256
import Hotspot.Digest.Hmac
import Hotspot.Bssid
import Hotspot.Legacy.Record
import Hotspot.Legacy.Format
import Hotspot.Legacy.Migration
import Hotspot.Capabilities.Support
import Hotspot.Store.Basic
import Hotspot.Store.Command
import Hotspot.Store.Recording
import Hotspot.Store.Document
import Hotspot.Session
import Hotspot.Service.Basic
import Hotspot.Service.Form
import Hotspot.Service.Framework
import Hotspot.Service.Launch
import Hotspot.Service.Response
import Hotspot.Proofs.Text.Utf8
import Hotspot.Proofs.Text.ModifiedUtf8
import Hotspot.Proofs.Text.ModifiedGrammar
import Hotspot.Proofs.Text.Decimal
import Hotspot.Proofs.Text.Folding
import Hotspot.Proofs.Text.Hex
import Hotspot.Proofs.Text.Pattern
import Hotspot.Proofs.Text.Numeral
import Hotspot.Proofs.Legacy.Fields
import Hotspot.Proofs.Legacy.Records
import Hotspot.Proofs.Legacy.Prefixes
import Hotspot.Proofs.Json.QuotedText
import Hotspot.Proofs.Json.Atoms
import Hotspot.Proofs.Json.RoundTrip
import Hotspot.Proofs.MacAddress
import Hotspot.Proofs.Bssid
import Hotspot.Proofs.Band.Reading
import Hotspot.Proofs.Configuration.Mapping
import Hotspot.Proofs.Configuration.Reading
import Hotspot.Proofs.Value.Integers
import Hotspot.Proofs.Configuration.Spellings
import Hotspot.Proofs.Capabilities.Channels
import Hotspot.Proofs.Capabilities.ListTexts
import Hotspot.Proofs.Capabilities.Resources
import Hotspot.Proofs.Configuration.Support
import Hotspot.Proofs.Configuration.Validity
import Hotspot.Proofs.Configuration.Generation
import Hotspot.Proofs.Configuration.Canonical
import Hotspot.Proofs.Store.Steps
import Hotspot.Proofs.Store.Accounting
import Hotspot.Proofs.Store.Freshness
import Hotspot.Proofs.Disk.Location
import Hotspot.Proofs.Disk.Writing
import Hotspot.Proofs.Legacy.Migration
import Hotspot.Proofs.Store.Document
import Hotspot.Proofs.Store.Likeness
import Hotspot.Proofs.Session.Events
import Hotspot.Proofs.Session.Opening
import Hotspot.Proofs.Session.Support
import Hotspot.Proofs.Session.Loading
import Hotspot.Proofs.Session.Agreement
import Hotspot.Proofs.Session.OwedWrites
import Hotspot.Proofs.Session.Restart
import Hotspot.Proofs.Session.Handover
import Hotspot.Proofs.Session.Interruption
import Hotspot.Proofs.Service.StrictForms
import Hotspot.Proofs.Service.Secret
import Hotspot.Proofs.Service.Starting
import Hotspot.Proofs.Service.Serving
import Hotspot.Proofs.Service.Addresses
import Hotspot.Proofs.Service.Rejections
import Hotspot.Proofs.Service.Secrecy
import Hotspot.Proofs.Store.Quietness
