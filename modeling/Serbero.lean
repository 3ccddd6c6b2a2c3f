import Serbero.Mediation.Outstanding
import Serbero.Mediation.Stall
import Serbero.Policy.Guidance
import Serbero.Mediation.Skew
import Serbero.Mediation.Quotes
import Serbero.Chat.Cursor
import Serbero.Runtime.Stray
import Serbero.Runtime.Updates
import Serbero.Runtime.Backlog
import Serbero.Runtime.Announcements
import Serbero.Runtime.Finish
import Serbero.Runtime.Finality
import Serbero.Runtime.Holds
import Serbero.Runtime.Looks
import Serbero.Runtime.Turns
import Serbero.Runtime.Deliveries
import Serbero.Runtime.Notices
import Serbero.Chat.Inbox
import Serbero.Mostro.Published
import Serbero.Mostro.Sync
import Serbero.Mostro.Take
import Serbero.Notifier.Delivery
import Serbero.Runtime.Settle
import Serbero.Notifier.ReminderRuns
import Serbero.Lib.Companion
import Serbero.Lib.Decimal
import Serbero.Mediation.Feedback
import Serbero.Runtime.Replies
import Serbero.Runtime.Replay
import Serbero.Runtime.Walks
import Serbero.Runtime.Judged
import Serbero.Runtime.Seats
import Serbero.Judge.Shares
import Serbero.Judge.Questions
import Serbero.Judge.Offers
import Serbero.Eval.Calibration
import Serbero.Eval.Metrics
import Serbero.Eval.Replay
import Serbero.Lib.Packing
import Serbero.Solver.Text
import Serbero.Solver.Transcript
import Serbero.Solver.Parts
import Serbero.Judge.Redaction
import Serbero.Solver.Redaction
import Serbero.Solver.Forgery
import Serbero.Runtime.Unreached
import Serbero.Runtime.Warnings
import Serbero.Lib.Alone
import Serbero.Runtime.Transcripts
import Serbero.Chat.SeenSet
import Serbero.Chat.TokenBucket
import Serbero.Catalog.Render
import Serbero.Catalog.Rules
import Serbero.Runtime.Conversation
import Serbero.Runtime.Disclosure
import Serbero.Runtime.Floods
import Serbero.Runtime.FloodRuns
import Serbero.Policy.Grounds
import Serbero.Runtime.Records
import Serbero.Lib.Beside
import Serbero.Runtime.Reasons
import Serbero.Runtime.ReasonRuns
import Serbero.Lib.Ladder
import Serbero.Store.Migrations
import Serbero.Lib.Retry
import Serbero.Judge.Recorded
import Serbero.Judge.TypeSafe
import Serbero.Lib.Checks
import Serbero.Config.Duration
import Serbero.Config.Settings
import Serbero.Config.Faults
import Serbero.Config.Secrets
import Serbero.Mediation.Readiness
