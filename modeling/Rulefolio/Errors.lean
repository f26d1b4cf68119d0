import Mathlib.Logic.Basic

/-!
# The exceptions of the services

One constructor for each exception class of a modelled service, with the service in front where
two services use the same name. `sqlalchemyError` is any error of the database itself: a violated
constraint, an `INSERT` that a policy refuses, an `UPDATE` of an object whose row is not there.
Almost every service function turns it into its own `…Retryable`.
-/

namespace Rulefolio

/-- The exceptions of the modelled services, with the reason a conflict carries. -/
inductive ServiceError
  | sqlalchemyError
  | valueError
  | notificationTodoUnavailable
  | notificationTodoConflict (reason : String)
  | workspaceUnavailable
  | workspaceManagementForbidden
  | invitationRecipientUnavailable
  | workspaceMemberExists
  | workspaceInvitationExists
  | workspaceOwnerCannotBeRemoved
  | workspaceMemberUnavailable
  | workspaceMemberLastMaintainerRequired
  | workspaceInvitationUnavailable
  | workspaceInvitationAccountMismatch
  | workspaceInvitationRateLimited
  | workspaceOperationRetryable
  | workspaceExitReauthenticationFailed
  | workspaceRevisionConflict
  | workspaceExitInProgress
  | workspaceExitInvalid
  | worksWorkspaceUnavailable
  | workUnavailable
  | workManagementForbidden
  | workRevisionConflict
  | materialSelectionInvalid
  | workLastMaintainerRequired
  | workAccessMemberUnavailable
  | workAccessUnavailable
  | workOperationRetryable
  | playtestUnavailable
  | playtestManagementForbidden
  | playtestParticipantUnavailable
  | playtestMaterialSelectionInvalid
  | playtestSessionRevisionConflict
  | playtestCapacityExceeded
  | playtestCapacityBelowConfirmed
  | playtestSessionStateInvalid
  | playtestOperationRetryable
  | playtestRetestInvalid
  | playtestRetestUnavailable
  | playtestRetestRevisionConflict
  | playtestOverviewInvalid
  | playtestOverviewUnavailable
  | playtestResultInvalid
  | observationInvalid
  | observationUnavailable
  | issueEvidenceInvalid
  | issueEvidenceUnavailable
  | feedbackInvalid
  | feedbackItemUnavailable
  | feedbackItemLocked
  | feedbackItemRevisionConflict
  | feedbackSubmissionUnavailable
  | feedbackSubmissionForbidden
  | feedbackSubmissionRevisionConflict
  | feedbackSubmissionLinked
  | feedbackOperationConflict
  | issueUnavailable
  | issueManagementForbidden
  | issueInvalid
  | issueRevisionConflict
  | issueOperationConflict
  | issueEvidenceAlreadyLinked
  | issueLastEvidenceRequired
  | issueOperationRetryable
  | issueRetestResultRequired
  | issueRetestEvidenceRequired
  deriving DecidableEq, Repr

end Rulefolio
