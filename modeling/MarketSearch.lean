import MarketSearch.Batch
import MarketSearch.Binary64.Basic
import MarketSearch.Binary64.Shortest
import MarketSearch.Binary64.Text
import MarketSearch.Client.Caller
import MarketSearch.Client.Envelope
import MarketSearch.Client.Marketplace
import MarketSearch.Decimal.Basic
import MarketSearch.Decimal.Binary
import MarketSearch.Decimal.Reader
import MarketSearch.Digest.Hmac
import MarketSearch.Digest.Sha256
import MarketSearch.DiscountRate
import MarketSearch.Filter
import MarketSearch.Form
import MarketSearch.Http.ApiError
import MarketSearch.Http.Exchange
import MarketSearch.Http.Message
import MarketSearch.Http.Service
import MarketSearch.Http.Status
import MarketSearch.Http.Url
import MarketSearch.Json.Basic
import MarketSearch.Json.Decoder
import MarketSearch.Json.Outline
import MarketSearch.Json.Reader
import MarketSearch.Json.Writer
import MarketSearch.Layout
import MarketSearch.Listing.Fault
import MarketSearch.Listing.Lazada
import MarketSearch.Listing.Mapper
import MarketSearch.Listing.Shopee
import MarketSearch.Listing.Tiki
import MarketSearch.LogFilter
import MarketSearch.Numeral
import MarketSearch.Price
import MarketSearch.Product.Basic
import MarketSearch.Product.Order
import MarketSearch.Registry
import MarketSearch.Search
import MarketSearch.Settings.Basic
import MarketSearch.Settings.Decoder
import MarketSearch.Settings.EnvFile
import MarketSearch.Settings.Environment
import MarketSearch.Settings.Fields
import MarketSearch.Settings.Load
import MarketSearch.Settings.Service
import MarketSearch.Settings.Tree
import MarketSearch.SocketAddress
import MarketSearch.Sorting
import MarketSearch.Source
import MarketSearch.SourceFault
import MarketSearch.Text.Alphanumeric
import MarketSearch.Text.Base64
import MarketSearch.Text.Blank
import MarketSearch.Text.Case
import MarketSearch.Text.CaseTable
import MarketSearch.Text.Charset
import MarketSearch.Text.Control
import MarketSearch.Text.Percent
import MarketSearch.Text.Quoted
import MarketSearch.Text.Range
import MarketSearch.Text.Slashes
import MarketSearch.Text.Split
import MarketSearch.Text.Unprintable
import MarketSearch.Text.Utf8
import MarketSearch.Token.Claims
import MarketSearch.Token.Header
import MarketSearch.Token.Verifier
import MarketSearch.Toml.Document
import MarketSearch.Toml.Moment
import MarketSearch.Toml.Text
import MarketSearch.Toml.Value
import MarketSearch.Violation
import MarketSearch.Proofs.Binding
import MarketSearch.Proofs.Contribution
import MarketSearch.Proofs.Accounting
import MarketSearch.Proofs.Authorization
import MarketSearch.Proofs.Arrival
import MarketSearch.Proofs.Decimal
import MarketSearch.Proofs.Normalization
import MarketSearch.Proofs.Base64
import MarketSearch.Proofs.Utf8
import MarketSearch.Proofs.Fields
import MarketSearch.Proofs.Token
import MarketSearch.Proofs.Parameters
import MarketSearch.Proofs.Decision
import MarketSearch.Proofs.Run
import MarketSearch.Proofs.Limit
import MarketSearch.Proofs.Numeral
import MarketSearch.Proofs.Lists
import MarketSearch.Proofs.Form
import MarketSearch.Proofs.Address
import MarketSearch.Proofs.Upstream
import MarketSearch.Proofs.Grammar
import MarketSearch.Proofs.Reading
import MarketSearch.Proofs.Recognition
import MarketSearch.Proofs.Outline
import MarketSearch.Proofs.View
import MarketSearch.Proofs.Envelope
import MarketSearch.Proofs.Writing
import MarketSearch.Proofs.Deadline
import MarketSearch.Proofs.Issue
import MarketSearch.Proofs.Tree
import MarketSearch.Proofs.SettingName
import MarketSearch.Proofs.Variables
import MarketSearch.Proofs.Precedence
import MarketSearch.Proofs.Verbatim
import MarketSearch.Proofs.FirstCome
import MarketSearch.Proofs.Unchecked
import MarketSearch.Proofs.Listening
import MarketSearch.Proofs.Words
import MarketSearch.Proofs.Runnable
import MarketSearch.Proofs.Rounding
import MarketSearch.Proofs.Shortest
import MarketSearch.Proofs.NumberText
import MarketSearch.Proofs.Bodies
import MarketSearch.Proofs.Stability
import MarketSearch.Proofs.Reversal
import MarketSearch.Proofs.Canonical
import MarketSearch.Proofs.Records
import MarketSearch.Proofs.ReadBack
import MarketSearch.Proofs.DecimalText
import MarketSearch.Proofs.ExactDecimal
import MarketSearch.Proofs.Shape
import MarketSearch.Proofs.ListedPrice
import MarketSearch.Proofs.UpstreamFault
import MarketSearch.Proofs.KnownField
import MarketSearch.Proofs.Trimming
import MarketSearch.Proofs.Label
import MarketSearch.Proofs.QueryWords
import MarketSearch.Proofs.LetterCase
import MarketSearch.Proofs.GrantedScope
import MarketSearch.Proofs.Rendering
import MarketSearch.Proofs.ListingCode
import MarketSearch.Proofs.AddressText
