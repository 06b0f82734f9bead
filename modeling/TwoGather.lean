import TwoGather.Duo
import TwoGather.Friend.Controller
import TwoGather.Lib.Pool
import TwoGather.Friend.Symmetry
import TwoGather.Friend.CrossingSwipes
import TwoGather.Friend.CrossingRequests
import TwoGather.Report.CleanJob
import TwoGather.Report.Expiry
import TwoGather.Report.Controller
import TwoGather.Report.Points
import TwoGather.Lib.Vouching
import TwoGather.Sponsorship.Controller
import TwoGather.Sponsorship.TrustChain
import TwoGather.Lib.Uuid
import TwoGather.Sponsorship.Codes
import TwoGather.Fiesta.Controller
import TwoGather.Lib.Rosters
import TwoGather.Fiesta.Membership
import TwoGather.Fiesta.EndJob
import TwoGather.Fiesta.EndNotes
import TwoGather.Fiesta.Ending
import TwoGather.FirestoreRules
import TwoGather.Chat.Salons
import TwoGather.Chat.Opening
import TwoGather.Lib.Entries
import TwoGather.Fiesta.Requests
import TwoGather.Fiesta.OneEntry
import TwoGather.Fiesta.Capacity
import TwoGather.Fiesta.Deletion
import TwoGather.LockDuo.Controller
import TwoGather.Lib.Script
import TwoGather.Lib.TwoRuns
import TwoGather.Pushes
import TwoGather.Lib.Rely
import TwoGather.Fiesta.Ghosts
import TwoGather.LockDuo.Agreement
import TwoGather.LockDuo.FreshRequest
import TwoGather.LockDuo.OneSalon
import TwoGather.LockDuo.SalonLock
import TwoGather.LockDuo.FailedRequests
import TwoGather.Sponsorship.CodeTracking
import TwoGather.Lib.Windows
import TwoGather.Lib.Zoom
import TwoGather.TrustCode.RateLimiter
import TwoGather.TrustCode.SequentialAttempts
import TwoGather.Lib.Copies
import TwoGather.Recommandation.Controller
import TwoGather.Recommandation.LostRatings
import TwoGather.Lib.Snapshots
import TwoGather.Sponsorship.TwoAnswers
import TwoGather.Friend.LostUpdates
import TwoGather.TrustCode.Submission
import TwoGather.TrustCode.Approval
import TwoGather.Lib.Stages
import TwoGather.TrustCode.OverlappingAttempts
import TwoGather.Chat.Listeners
import TwoGather.Chat.Convergence
import TwoGather.Chat.OneListener
import TwoGather.Friend.CloudFunctions
import TwoGather.Lib.Faults
import TwoGather.Friend.Acceptance
import TwoGather.Friend.FailedRequests
import TwoGather.Fiesta.PendingOnly
import TwoGather.Fiesta.FailedJoins
import TwoGather.Fiesta.FiestaService
import TwoGather.Fiesta.Visibility
import TwoGather.Fiesta.Dismissal
import TwoGather.Fiesta.OwnEntries
import TwoGather.Session.Logout
import TwoGather.Fiesta.HostLevel
import TwoGather.Lib.Ranking
import TwoGather.Swipe.UserCardService
import TwoGather.Swipe.Scores
import TwoGather.Lib.Dynamic
import TwoGather.Location
import TwoGather.Swipe.SearchRadius
import TwoGather.Swipe.FiestaPreferences
import TwoGather.Fiesta.FormController
import TwoGather.Fiesta.FormErrors
import TwoGather.Fiesta.FiestaModel
import TwoGather.Fiesta.FormWrites
import TwoGather.Fiesta.CreationForm
import TwoGather.Fiesta.UpdateForm
import TwoGather.Fiesta.FormRuns
import TwoGather.Fiesta.WellFormed
import TwoGather.Fiesta.KeptFields
import TwoGather.Lib.Calendar
import TwoGather.Report.Duration
import TwoGather.Swipe.Ages
import TwoGather.TrustCode.TimeZones
import TwoGather.TrustCode.WaitingTime
import TwoGather.Lib.Replicas
import TwoGather.Provider.Notifications
import TwoGather.Chat.SelectedAssets
import TwoGather.Lib.Numbered
import TwoGather.Sponsorship.RequestList
import TwoGather.Swipe.Decks
import TwoGather.Geolocation.Geohash
import TwoGather.Geolocation.NearbyPoints
import TwoGather.Chat.DateSeparators
import TwoGather.Chat.MessageOrder
import TwoGather.Backend.Effects
import TwoGather.Backend.Calls
import TwoGather.Backend.Table
import TwoGather.Backend.Documents
import TwoGather.Backend.Notes
import TwoGather.Backend.Friendships
import TwoGather.Backend.Locks
import TwoGather.Backend.Fields
import TwoGather.Backend.Fiestas
import TwoGather.Backend.Chats
import TwoGather.Chat.Preview
import TwoGather.Backend.References
import TwoGather.Backend.Records
import TwoGather.Chat.MessageFormat
import TwoGather.StorageRules
import TwoGather.Backend.Answers
import TwoGather.Chat.Participants
import TwoGather.Chat.Presence
import TwoGather.Lib.Changes
import TwoGather.Provider.Inbox
