import PortaPhone.Failover.SiteState
import PortaPhone.Lib.Streak
import PortaPhone.Failover.Steps
import PortaPhone.Failover.Monitor
import PortaPhone.Failover.Agreement
import PortaPhone.Failover.Reactive
import PortaPhone.Http.Routing
import PortaPhone.Http.AdminSession
import PortaPhone.Http.Login
import PortaPhone.Http.OtpPin
import PortaPhone.Lib.KeyValue
import PortaPhone.Sessions.Store
import PortaPhone.Sessions.Management
import PortaPhone.Sessions.Refresh
import PortaPhone.Contacts.Account
import PortaPhone.Lib.Dict
import PortaPhone.Contacts.Directory
import PortaPhone.Contacts.Retrieval
import PortaPhone.Contacts.Isolation
import PortaPhone.Sessions.Lifecycle
import PortaPhone.Lib.IsoDateTime
import PortaPhone.Dbs.Serializer
import PortaPhone.Dbs.Stores
import PortaPhone.Http.Admission
import PortaPhone.Contacts.Budget
import PortaPhone.Contacts.Pages
import PortaPhone.Contacts.NumberMap
import PortaPhone.Contacts.Phonebook
import PortaPhone.Contacts.SearchRounds
import PortaPhone.Lib.Cuts
import PortaPhone.Contacts.SearchLimits
import PortaPhone.Contacts.SearchPages
import PortaPhone.Contacts.CachedSearch
import PortaPhone.Lib.Base64
import PortaPhone.Recordings.RecordingId
import PortaPhone.Recordings.IssueLink
import PortaPhone.SignIn.Account
import PortaPhone.SignIn.Aliases
import PortaPhone.SignIn.SampleOtp
import PortaPhone.Netsapiens.TenantRouting
import PortaPhone.Http.Retries
import PortaPhone.Contacts.CacheMachine
import PortaPhone.Contacts.CacheFreshness
import PortaPhone.Contacts.SingleFlight
import PortaPhone.Customers.CustomFields
import PortaPhone.Http.ReadOnly
import PortaPhone.Lib.StoreOrder
import PortaPhone.SignIn.EmailLookup
import PortaPhone.SignIn.OtpAttempts
import PortaPhone.Customers.CrmHost
import PortaPhone.Customers.DeviceLimits
import PortaPhone.CallCenter.HuntGroups
import PortaPhone.CallCenter.QueueLogin
import PortaPhone.CallCenter.Counters
import PortaPhone.CallCenter.CountersCache
import PortaPhone.Contacts.NumberOrder
import PortaPhone.Contacts.Projection
import PortaPhone.Lib.Calendar
import PortaPhone.History.CallRange
import PortaPhone.History.CallHistory
import PortaPhone.Contacts.TypedRecords
import PortaPhone.Customers.LimitsOrder
import PortaPhone.Config.AppConfig
import PortaPhone.Freepbx.PasswordSignIn
import PortaPhone.Netsapiens.CallPages
import PortaPhone.Recordings.MediaDownload
import PortaPhone.Contacts.NumberRequests
import PortaPhone.Lib.JsonAlike
import PortaPhone.Lib.JsonText
import PortaPhone.Logs.Masking
import PortaPhone.Lib.Regex
import PortaPhone.Logs.NonInterference
import PortaPhone.Logs.TextMasking
import PortaPhone.Logs.FormBodies
import PortaPhone.Lib.JsonParse
import PortaPhone.Logs.JsonMasking
import PortaPhone.Lib.Registers
import PortaPhone.Recordings.LinkedAccess
import PortaPhone.Voicemail.Messages
import PortaPhone.History.ReleaseCache
import PortaPhone.Voicemail.Flags
import PortaPhone.Contacts.PhoneDirectory
import PortaPhone.Contacts.Extensions
import PortaPhone.SignIn.OtpReplicas
import PortaPhone.Api.Capabilities
import PortaPhone.Api.Routes
import PortaPhone.Api.Access
import PortaPhone.SignIn.AccountSessions
import PortaPhone.SignIn.SessionIsolation
