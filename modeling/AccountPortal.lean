import AccountPortal.Backend.Session
import AccountPortal.Browser.Run
import AccountPortal.Host.Config
import AccountPortal.Host.Site
import AccountPortal.Proofs.Backend.TokenHeader
import AccountPortal.Proofs.Form.TextObject
import AccountPortal.Proofs.Backend.Submitted
import AccountPortal.Proofs.Browser.Round
import AccountPortal.Proofs.Page.Attempt
import AccountPortal.Proofs.Page.Exhibit
import AccountPortal.Proofs.Page.Follow
import AccountPortal.Proofs.Page.SignupRun
import AccountPortal.Proofs.Page.LoginRun
import AccountPortal.Proofs.Page.DashboardRun
import AccountPortal.Proofs.Json.Scalar
import AccountPortal.Proofs.Json.Content
import AccountPortal.Proofs.Json.Skip
import AccountPortal.Proofs.Json.RoundTrip
import AccountPortal.Proofs.Json.Record
import AccountPortal.Proofs.Json.Members
import AccountPortal.Proofs.Account.Envelope
import AccountPortal.Proofs.Account.SignedIn
import AccountPortal.Proofs.Backend.TokenCookie
import AccountPortal.Proofs.Backend.Refusal
import AccountPortal.Proofs.Backend.SessionRun
import AccountPortal.Proofs.Backend.HiddenToken
import AccountPortal.Proofs.Form.Submission
import AccountPortal.Proofs.Browser.Twin
import AccountPortal.Proofs.Page.Secrecy
import AccountPortal.Proofs.Markup.Entity
import AccountPortal.Proofs.Markup.Template
import AccountPortal.Proofs.Page.Escaping
import AccountPortal.Proofs.Backend.Echo
import AccountPortal.Backend.Fetch
import AccountPortal.Proofs.Backend.Building
import AccountPortal.Proofs.Backend.Fetching
import AccountPortal.Proofs.Browser.Slot
import AccountPortal.Proofs.Page.FlashSlot
import AccountPortal.Proofs.Browser.Delivery
import AccountPortal.Proofs.Browser.Isolation
import AccountPortal.Proofs.Page.Bootstrap
import AccountPortal.Proofs.Form.EmailPattern
import AccountPortal.Proofs.Form.FirstViolation
import AccountPortal.Proofs.Host.Pages
import AccountPortal.Proofs.Json.Fields
import AccountPortal.Proofs.Account.Records
import AccountPortal.Proofs.Cookie.Segments
import AccountPortal.Proofs.Cookie.Naming
import AccountPortal.Proofs.Backend.Address
import AccountPortal.Proofs.Json.NumberStages
import AccountPortal.Proofs.Json.Taken
import AccountPortal.Proofs.Json.Agreement
import AccountPortal.Proofs.Json.Grammar
import AccountPortal.Proofs.Json.Parsing
import AccountPortal.Proofs.Json.Direct
import AccountPortal.Proofs.Json.Bodies
import AccountPortal.Proofs.Account.TwoForms
import AccountPortal.Proofs.Session.Departure
import AccountPortal.Proofs.Host.Numeral
import AccountPortal.Proofs.Host.AddressText
import AccountPortal.Proofs.Host.PortText
import AccountPortal.Proofs.Host.Variables
import AccountPortal.Proofs.Host.BindAddress
import AccountPortal.Proofs.Form.FormText
import AccountPortal.Proofs.Json.TextRecord
