import Rulefolio.Library.TransitionSystem
import Rulefolio.Library.Table
import Rulefolio.Library.Sequential
import Rulefolio.Notifications.TodoMail
import Rulefolio.Works.Service
import Rulefolio.Playtests.Revisions
import Rulefolio.Playtests.Generations
import Rulefolio.Playtests.LinkedFeedback
import Rulefolio.Playtests.Conclusions
import Rulefolio.Playtests.IssueTodos
import Rulefolio.Playtests.SessionTodos
import Rulefolio.Playtests.Overview
import Rulefolio.Playtests.PlannedVersion
import Rulefolio.Recovery.Gate
import Rulefolio.Identity.Service
import Rulefolio.Library.LockedRows
import Rulefolio.Workspaces.Calls
import Rulefolio.Authentication.RecoveryRequests
import Rulefolio.Authentication.Limiter
import Rulefolio.Authentication.Logins
import Rulefolio.Playtests.FeedbackEdits
import Rulefolio.Playtests.IssueOverview
import Rulefolio.Playtests.IssueKeys
import Rulefolio.Playtests.FeedbackKeys
import Rulefolio.Playtests.RetestTodos
import Rulefolio.Playtests.InvitedTodos
import Rulefolio.Notifications.Retries
import Rulefolio.Exports.Feedback
import Rulefolio.Authentication.RetryAfter
import Rulefolio.Recovery.ObjectDigest
import Rulefolio.Recovery.Replays
import Rulefolio.Notifications.LostRaces
import Rulefolio.Playtests.ConfirmTwice
import Rulefolio.Files.Completion
import Rulefolio.Files.Quotas
import Rulefolio.Playtests.SavedResult
import Rulefolio.Notifications.Deliveries
import Rulefolio.Workspaces.Exchanges
import Rulefolio.Workspaces.Exit
import Rulefolio.Workspaces.Runs
import Rulefolio.Files.Ledger
import Rulefolio.Library.Progress
import Rulefolio.Notifications.Inbox
import Rulefolio.Notifications.Progress
