import Rulefolio.Notifications.Service

/-!
# `business_todo_eligible`

Whether the business fact behind a todo still stands for its recipient. The question is
delegated to the package that owns the fact: `app.playtests` for the four mails about a session,
`app.issues` for the work-maintenance kinds. Both are modelled here because the dispatcher and
the retry of a failed mail ask it; row-level security shows them the rows they ask for.

## Main definitions

* `Playtests.notificationTodoEligible`, `Issues.notificationTodoEligible`.
* `Notifications.businessTodoEligible`.
-/

namespace Rulefolio

/-- `playtests.service.notification_todo_eligible`. -/
def Playtests.notificationTodoEligible (db : Database) (todo : NotificationTodo) : Bool :=
  todo.targetKind == .playtestSession &&
    db.participants.any
      (fun p => p.sessionId == todo.targetId && p.accountId == todo.recipientAccountId) &&
    (db.sessions.find? (·.id == todo.targetId)).any fun item =>
      if todo.kind = .playtestCancelled then item.status == .cancelled
      else item.status == .scheduled

/-- `workspaces.service.current_work_maintainer_ids`, as a set. -/
def Workspaces.currentWorkMaintainerIds (db : Database) (workId : Uuid) : List Uuid :=
  (db.accesses.filter fun a => a.workId == workId && a.role == .maintainer).map (·.accountId)

/-- `issues.service.notification_todo_eligible`. -/
def Issues.notificationTodoEligible (db : Database) (todo : NotificationTodo) : Bool :=
  match todo.workId with
  | none => false
  | some workId =>
    (Workspaces.currentWorkMaintainerIds db workId).contains todo.recipientAccountId &&
      match todo.kind, todo.sourceKey with
      | .feedbackSubmitted, _ => todo.targetKind == .playtestSession
      | .issueOpened, _ | .retestArrangementNeeded, _ =>
        db.issues.any fun i =>
          i.id == todo.targetId && i.workspaceId == todo.workspaceId && i.workId == workId &&
            i.status == .opened
      | .retestArranged, .id linkId =>
        todo.targetKind == .issue && db.retestLinks.any fun l =>
          l.id == linkId && l.issueId == todo.targetId && db.sessions.any fun s =>
            s.id == l.sessionId && s.workspaceId == todo.workspaceId && s.workId == workId &&
              s.status != .cancelled
      | _, _ => false

/-- `notifications.service.business_todo_eligible`. -/
def Notifications.businessTodoEligible (db : Database) (todo : NotificationTodo) : Bool :=
  match todo.workId, todo.kind with
  | none, _ => true
  | some _, .playtestInvitation | some _, .playtestArrangementUpdated
  | some _, .playtestMaterialUpdated | some _, .playtestCancelled =>
    Playtests.notificationTodoEligible db todo
  | some _, _ => Issues.notificationTodoEligible db todo

end Rulefolio
