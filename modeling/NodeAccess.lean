import NodeAccess.Text.Decimal
import NodeAccess.Text.Hex
import NodeAccess.Text.Base64
import NodeAccess.Text.Blank
import NodeAccess.Text.Described
import NodeAccess.Number.Binary
import NodeAccess.Number.Numeral
import NodeAccess.Number.Reading
import NodeAccess.Number.Shortest
import NodeAccess.Guid
import NodeAccess.Timestamp.Basic
import NodeAccess.Timestamp.Text
import NodeAccess.Access.Grants
import NodeAccess.Access.WellKnownRole
import NodeAccess.AttributeId
import NodeAccess.Name
import NodeAccess.NodeClass
import NodeAccess.StatusCode
import NodeAccess.DataValue.Basic
import NodeAccess.Request
import NodeAccess.Json.Basic
import NodeAccess.Json.Decoder
import NodeAccess.Json.Float
import NodeAccess.Json.Reader
import NodeAccess.Json.Writer
import NodeAccess.DataValue.Json
import NodeAccess.Settings.Basic
import NodeAccess.Settings.Json
import NodeAccess.Settings.Tree
import NodeAccess.Toml.Basic
import NodeAccess.Toml.Blank
import NodeAccess.Toml.DateTime
import NodeAccess.Toml.Document
import NodeAccess.Settings.Overlay
import NodeAccess.Text.LowerCase
import NodeAccess.Settings.Environment
import NodeAccess.Settings.Load
import NodeAccess.Settings.Location
import NodeAccess.Server
import NodeAccess.Service
import NodeAccess.Proofs.Text.Digits
import NodeAccess.Proofs.Text.Base64
import NodeAccess.Proofs.Text.Spelling
import NodeAccess.Proofs.Number.Spelling
import NodeAccess.Proofs.NodeId.Guid
import NodeAccess.Proofs.NodeId.Text
import NodeAccess.Proofs.NodeId.Spelling
import NodeAccess.Proofs.NodeId.Refusal
import NodeAccess.Proofs.NodeId.Canonical
import NodeAccess.Proofs.Timestamp.Text
import NodeAccess.Proofs.Access.Visible
import NodeAccess.Proofs.Access.Narrowing
import NodeAccess.Proofs.Access.Fallback
import NodeAccess.Proofs.Access.Agreement
import NodeAccess.Proofs.Access.Joining
import NodeAccess.Proofs.Access.Mask
import NodeAccess.Proofs.Service.Dispatch
import NodeAccess.Proofs.Service.Advertised
import NodeAccess.Proofs.Service.Run
import NodeAccess.Proofs.Service.Noninterference
import NodeAccess.Proofs.Service.Handling
import NodeAccess.Proofs.Service.Completeness
import NodeAccess.Proofs.Json.Literal
import NodeAccess.Proofs.Json.Text
import NodeAccess.Proofs.Json.Decoding
import NodeAccess.Proofs.Json.Names
import NodeAccess.Proofs.Variant.Json
import NodeAccess.Proofs.DataValue.Json
import NodeAccess.Proofs.Toml.Value
import NodeAccess.Proofs.Toml.Document
import NodeAccess.Proofs.Settings.Merging
import NodeAccess.Proofs.Settings.Overriding
import NodeAccess.Proofs.Settings.Shape
import NodeAccess.Proofs.Settings.Validity
import NodeAccess.Proofs.Settings.Layers
import NodeAccess.Proofs.Settings.Failure
import NodeAccess.Proofs.Settings.Precedence
import NodeAccess.Proofs.Settings.Reading
import NodeAccess.Proofs.Settings.SingleFile
import NodeAccess.Proofs.Settings.VariableText
import NodeAccess.Proofs.Settings.Variables
import NodeAccess.Proofs.Access.Standard
import NodeAccess.Proofs.NodeId.Null
import NodeAccess.Proofs.Json.Records
import NodeAccess.Proofs.Settings.Json
import NodeAccess.Proofs.Settings.Rejection
import NodeAccess.Proofs.Timestamp.Instant
import NodeAccess.Proofs.Variant.Equality
import NodeAccess.Proofs.DataValue.Equality
