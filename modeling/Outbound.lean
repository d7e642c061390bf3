import Outbound.Auth.Config
import Outbound.Auth.Context
import Outbound.Auth.Handler
import Outbound.Auth.Signature
import Outbound.Body.Basic
import Outbound.Body.Part
import Outbound.Builder.Call
import Outbound.Builder.Step
import Outbound.Content
import Outbound.Cookie
import Outbound.Datum.Basic
import Outbound.Datum.Coded
import Outbound.Datum.Joined
import Outbound.Datum.Misuse
import Outbound.Datum.Name
import Outbound.Datum.Number
import Outbound.Datum.Octets
import Outbound.Datum.Same
import Outbound.Datum.Written
import Outbound.Digest.Blake2
import Outbound.Digest.Hmac
import Outbound.Digest.Md5
import Outbound.Digest.Sha1
import Outbound.Digest.Sha2
import Outbound.Digest.Sha3
import Outbound.Digest.Words
import Outbound.Fault
import Outbound.FieldMap.Basic
import Outbound.FieldMap.Edit
import Outbound.FieldMap.Source
import Outbound.File.Path
import Outbound.File.Tree
import Outbound.Log
import Outbound.Number.Binary64
import Outbound.Number.Shortest
import Outbound.Octets.Base64
import Outbound.Octets.Endian
import Outbound.Octets.Hex
import Outbound.Payload
import Outbound.Pool
import Outbound.Proofs.Auth.Credentials
import Outbound.Proofs.Auth.Header
import Outbound.Proofs.Auth.Masking
import Outbound.Proofs.Auth.SignedText
import Outbound.Proofs.Body.Exclusive
import Outbound.Proofs.Body.Sent
import Outbound.Proofs.Builder.Failing
import Outbound.Proofs.Builder.Prototype
import Outbound.Proofs.Content
import Outbound.Proofs.Fallible
import Outbound.Proofs.FieldMap.Effects
import Outbound.Proofs.FieldMap.History
import Outbound.Proofs.FieldMap.Lookup
import Outbound.Proofs.FieldMap.Source
import Outbound.Proofs.FieldMap.Texts
import Outbound.Proofs.FieldMap.Writing
import Outbound.Proofs.Octets.Base64
import Outbound.Proofs.Query.Grouping
import Outbound.Proofs.Query.Plain
import Outbound.Proofs.Query.Reading
import Outbound.Proofs.Query.Sorted
import Outbound.Proofs.Request.Copying
import Outbound.Proofs.Request.Derived
import Outbound.Proofs.Request.Entering
import Outbound.Proofs.Request.Frame
import Outbound.Proofs.Request.Meaning
import Outbound.Proofs.Request.RoundTrip
import Outbound.Proofs.Request.Twin
import Outbound.Proofs.Request.Url
import Outbound.Proofs.Session.Authenticated
import Outbound.Proofs.Session.Based
import Outbound.Proofs.Session.Cookies
import Outbound.Proofs.Session.Current
import Outbound.Proofs.Session.History
import Outbound.Proofs.Session.Inferred
import Outbound.Proofs.Session.Keeps
import Outbound.Proofs.Session.Pooling
import Outbound.Proofs.Session.Rebuilt
import Outbound.Proofs.Session.Respelled
import Outbound.Proofs.Session.Settling
import Outbound.Proofs.Session.Signing
import Outbound.Proofs.Session.Throughout
import Outbound.Proofs.Session.Trail
import Outbound.Proofs.Session.Twins
import Outbound.Proofs.Session.Verbatim
import Outbound.Proofs.Settings.Resolved
import Outbound.Proofs.Settings.Sources
import Outbound.Proofs.Text.Case
import Outbound.Proofs.Text.Charset
import Outbound.Proofs.Text.Cut
import Outbound.Proofs.Text.Decoding
import Outbound.Proofs.Text.Numeral
import Outbound.Proofs.Text.Percent
import Outbound.Proofs.Text.Trimmed
import Outbound.Proofs.Text.Utf8
import Outbound.Proofs.Text.Weight
import Outbound.Proofs.Text.WellFormed
import Outbound.Proofs.Uri.Cuts
import Outbound.Proofs.Uri.Origin
import Outbound.Proofs.Uri.Proxy
import Outbound.Proofs.Uri.Reading
import Outbound.Proofs.Uri.RoundTrip
import Outbound.Proofs.Uri.Tidy
import Outbound.Proofs.Uri.WellFormed
import Outbound.Proofs.Wire.Body
import Outbound.Proofs.Wire.Headers
import Outbound.Proxy
import Outbound.Query
import Outbound.Realm
import Outbound.Request.Basic
import Outbound.Request.Target
import Outbound.Session.Basic
import Outbound.Session.Build
import Outbound.Session.Run
import Outbound.Settings.Basic
import Outbound.Settings.Check
import Outbound.Settings.Resolve
import Outbound.Text.Blank
import Outbound.Text.Case
import Outbound.Text.CaseTable
import Outbound.Text.Charset
import Outbound.Text.CodeRange
import Outbound.Text.Cut
import Outbound.Text.Digit
import Outbound.Text.Numeral
import Outbound.Text.Page
import Outbound.Text.Percent
import Outbound.Text.Printable
import Outbound.Text.Quoted
import Outbound.Text.Utf8
import Outbound.Uri.Address
import Outbound.Uri.Basic
import Outbound.Uri.Given
import Outbound.Uri.Parser
import Outbound.Wire.Basic
import Outbound.Wire.Body
import Outbound.World
