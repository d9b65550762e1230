import Gateway.Main
import Gateway.Proofs.AnnouncedUrl
import Gateway.Proofs.Answering
import Gateway.Proofs.Arguments
import Gateway.Proofs.Authority
import Gateway.Proofs.BackendHeaders
import Gateway.Proofs.CarriedQuery
import Gateway.Proofs.ConfiguredHeaders
import Gateway.Proofs.Confinement
import Gateway.Proofs.Dispatch
import Gateway.Proofs.Expansion
import Gateway.Proofs.FallThrough
import Gateway.Proofs.Fields
import Gateway.Proofs.FileOrder
import Gateway.Proofs.FileShape
import Gateway.Proofs.FilledHeaders
import Gateway.Proofs.Framing
import Gateway.Proofs.GroupCount
import Gateway.Proofs.HeaderPriority
import Gateway.Proofs.HostHeader
import Gateway.Proofs.Integers
import Gateway.Proofs.JoinedArguments
import Gateway.Proofs.Json
import Gateway.Proofs.Launching
import Gateway.Proofs.Layers
import Gateway.Proofs.LiteralKeys
import Gateway.Proofs.Loading
import Gateway.Proofs.Mounting
import Gateway.Proofs.Nesting
import Gateway.Proofs.NotFoundPage
import Gateway.Proofs.Number
import Gateway.Proofs.PathSegments
import Gateway.Proofs.Pattern.EmptyAlternative
import Gateway.Proofs.Pattern.Ends
import Gateway.Proofs.Pattern.Matches
import Gateway.Proofs.Pattern.Numbering
import Gateway.Proofs.Pattern.Scan
import Gateway.Proofs.PortTexts
import Gateway.Proofs.ProtocolSwitch
import Gateway.Proofs.RawAnswer
import Gateway.Proofs.Replacement
import Gateway.Proofs.RequestPath
import Gateway.Proofs.RequestTarget
import Gateway.Proofs.RuleSet
import Gateway.Proofs.Settlement
import Gateway.Proofs.SingleArrow
import Gateway.Proofs.Text.Letters
import Gateway.Proofs.Text.Lowercase
import Gateway.Proofs.Text.Pieces
import Gateway.Proofs.Text.Utf16
import Gateway.Proofs.TrailingSlash
import Gateway.Proofs.Transparent
import Gateway.Proofs.Url.BareAddress
import Gateway.Proofs.Url.Below
import Gateway.Proofs.Url.Characters
import Gateway.Proofs.Url.Parsed
import Gateway.Proofs.Url.PlainHost
import Gateway.Proofs.Url.Query
import Gateway.Proofs.Url.Resolved
import Gateway.Proofs.Url.Rooted
import Gateway.Proofs.VerbatimTarget
