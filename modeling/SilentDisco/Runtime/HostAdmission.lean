import SilentDisco.Runtime.Records

/-!
# Host admission policy

The pure policy of listener admission: how a new request is classified, what an explicit
approval has to do first, and which deliveries commit a decision.

## Main definitions

* `classifyJoinRequest`: the disposition of a request under a draft
* `prepareExplicitApproval`, `approvalAfterPersistence`: the two phases of an approval
* `classifyDelivery`: whether a delivery report commits the decision it carried
-/

namespace SilentDisco

inductive JoinRejectionReason
  | incorrectInviteCode | deviceNotApproved | hostRejected | hostUnavailable
  deriving DecidableEq

def JoinRejectionReason.stableName : JoinRejectionReason → String
  | .incorrectInviteCode => "incorrect_invite_code"
  | .deviceNotApproved => "device_not_approved"
  | .hostRejected => "host_rejected"
  | .hostUnavailable => "host_unavailable"

inductive JoinRequestDisposition
  | pendingManualDecision
  | autoApprove (trustedForFuture : Bool)
  | autoReject (reason : JoinRejectionReason)
  deriving DecidableEq

/-- Storage work that precedes an approval which claims durable trust. -/
structure TrustPersistenceRequest where
  requestId : RequestId
  deviceId : DeviceId
  displayName : String
  deriving DecidableEq

structure ApprovalDelivery where
  requestId : RequestId
  deviceId : DeviceId
  trustedForFuture : Bool
  persistenceFailed : Bool
  deriving DecidableEq

inductive ApprovalPreparation
  | persistTrustFirst (persistence : TrustPersistenceRequest)
  | deliver (delivery : ApprovalDelivery)
  deriving DecidableEq

inductive TrustPersistenceOutcome
  | committed | failed
  deriving DecidableEq

inductive DeliveryCommitDisposition
  | delivered | deliveredWithFailures | noRecipients | failed
  deriving DecidableEq

def DeliveryCommitDisposition.commitsDomainDecision : DeliveryCommitDisposition → Bool
  | .delivered | .deliveredWithFailures => true
  | .noRecipients | .failed => false

/-- The policy applied when a request arrives: a wrong invite code is rejected, and in
trusted-devices mode there is no manual fallback. -/
def classifyJoinRequest (draft : HostDraft) (request : JoinRequestSummary) :
    JoinRequestDisposition :=
  if draft.approvalMode = .inviteCode ∧ ¬request.inviteCodeValid then
    .autoReject .incorrectInviteCode
  else if draft.approvalMode = .trustedDevices then
    if request.trustState = .trusted then .autoApprove true else .autoReject .deviceNotApproved
  else .pendingManualDecision

/-- Durable trust is written first only if this approval asks for it and it is not there yet. -/
def prepareExplicitApproval (request : JoinRequestSummary) (rememberForFuture : Bool) :
    ApprovalPreparation :=
  if rememberForFuture ∧ request.trustState ≠ .trusted then
    .persistTrustFirst
      { requestId := request.requestId
        deviceId := request.deviceId
        displayName := request.displayName }
  else
    .deliver
      { requestId := request.requestId
        deviceId := request.deviceId
        trustedForFuture := request.trustState = .trusted
        persistenceFailed := false }

/-- The approval that may be delivered after the storage work; a failed write is reported. -/
def approvalAfterPersistence (persistence : TrustPersistenceRequest)
    (outcome : TrustPersistenceOutcome) : ApprovalDelivery :=
  { requestId := persistence.requestId
    deviceId := persistence.deviceId
    trustedForFuture := outcome = .committed
    persistenceFailed := outcome = .failed }

def classifyDelivery (report : DeliveryReport) : DeliveryCommitDisposition :=
  if report.intendedPeers = 0 then .noRecipients
  else if report.successfulPeers = 0 then .failed
  else if report.failedPeers = 0 then .delivered
  else .deliveredWithFailures

end SilentDisco
