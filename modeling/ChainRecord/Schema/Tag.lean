/-!
# Tags of messages

A tag classifies a message. The messages of both generations of governance that do the same have one
tag; messages of types that are not known share the tag `unknown`. Each tag has a name, by which
archives refer to it.
-/

namespace ChainRecord

/-- What a message is. -/
inductive Tag where
  /-- A message of a type that is not known. -/
  | unknown
  | send
  | multiSend
  | createValidator
  | editValidator
  | delegate
  | beginRedelegate
  | undelegate
  | cancelUnbondingDelegation
  | unjail
  | setWithdrawAddress
  | withdrawDelegatorReward
  | withdrawValidatorCommission
  | fundCommunityPool
  | createVestingAccount
  | createPermanentLockedAccount
  | createPeriodicVestingAccount
  | payForBlobs
  | registerEvmAddress
  | grantAllowance
  | revokeAllowance
  | pruneAllowances
  | grant
  | exec
  | revoke
  | submitProposal
  | execLegacyContent
  | vote
  | voteWeighted
  | deposit
  | cancelProposal
  | softwareUpgrade
  | cancelUpgrade
  | signalVersion
  | tryUpgrade
  | authorizeCircuitBreaker
  | tripCircuitBreaker
  | resetCircuitBreaker
  | createClient
  | updateClient
  | upgradeClient
  | submitMisbehaviour
  | connectionOpenInit
  | connectionOpenTry
  | connectionOpenAck
  | connectionOpenConfirm
  | channelOpenInit
  | channelOpenTry
  | channelOpenAck
  | channelOpenConfirm
  | channelCloseInit
  | channelCloseConfirm
  | recvPacket
  | timeout
  | timeoutOnClose
  | acknowledgement
  | transfer
  | registerInterchainAccount
  | sendTx
  | createMailbox
  | setMailbox
  | processMessage
  | createMessageIdMultisigIsm
  | createMerkleRootMultisigIsm
  | createNoopIsm
  | announceValidator
  | createRoutingIsm
  | setRoutingIsmDomain
  | removeRoutingIsmDomain
  | updateRoutingIsmOwner
  | createIgp
  | setIgpOwner
  | setDestinationGasConfig
  | payForGas
  | claim
  | createMerkleTreeHook
  | createNoopHook
  | createCollateralToken
  | createSyntheticToken
  | setToken
  | enrollRemoteRouter
  | unrollRemoteRouter
  | remoteTransfer
  | createZkExecutionIsm
  | updateZkExecutionIsm
  | submitMessages
  | forward
  deriving DecidableEq

namespace Tag

/-- All tags. -/
def all : List Tag :=
    [.unknown, .send, .multiSend, .createValidator, .editValidator, .delegate, .beginRedelegate,
    .undelegate, .cancelUnbondingDelegation, .unjail, .setWithdrawAddress,
    .withdrawDelegatorReward, .withdrawValidatorCommission, .fundCommunityPool,
    .createVestingAccount, .createPermanentLockedAccount, .createPeriodicVestingAccount,
    .payForBlobs, .registerEvmAddress, .grantAllowance, .revokeAllowance, .pruneAllowances,
    .grant, .exec, .revoke, .submitProposal, .execLegacyContent, .vote, .voteWeighted, .deposit,
    .cancelProposal, .softwareUpgrade, .cancelUpgrade, .signalVersion, .tryUpgrade,
    .authorizeCircuitBreaker, .tripCircuitBreaker, .resetCircuitBreaker, .createClient,
    .updateClient, .upgradeClient, .submitMisbehaviour, .connectionOpenInit, .connectionOpenTry,
    .connectionOpenAck, .connectionOpenConfirm, .channelOpenInit, .channelOpenTry,
    .channelOpenAck, .channelOpenConfirm, .channelCloseInit, .channelCloseConfirm, .recvPacket,
    .timeout, .timeoutOnClose, .acknowledgement, .transfer, .registerInterchainAccount, .sendTx,
    .createMailbox, .setMailbox, .processMessage, .createMessageIdMultisigIsm,
    .createMerkleRootMultisigIsm, .createNoopIsm, .announceValidator, .createRoutingIsm,
    .setRoutingIsmDomain, .removeRoutingIsmDomain, .updateRoutingIsmOwner, .createIgp,
    .setIgpOwner, .setDestinationGasConfig, .payForGas, .claim, .createMerkleTreeHook,
    .createNoopHook, .createCollateralToken, .createSyntheticToken, .setToken,
    .enrollRemoteRouter, .unrollRemoteRouter, .remoteTransfer, .createZkExecutionIsm,
    .updateZkExecutionIsm, .submitMessages, .forward]

/-- The name of a tag. -/
def name : Tag → String
  | .unknown => "MsgUnknown"
  | .send => "MsgSend"
  | .multiSend => "MsgMultiSend"
  | .createValidator => "MsgCreateValidator"
  | .editValidator => "MsgEditValidator"
  | .delegate => "MsgDelegate"
  | .beginRedelegate => "MsgBeginRedelegate"
  | .undelegate => "MsgUndelegate"
  | .cancelUnbondingDelegation => "MsgCancelUnbondingDelegation"
  | .unjail => "MsgUnjail"
  | .setWithdrawAddress => "MsgSetWithdrawAddress"
  | .withdrawDelegatorReward => "MsgWithdrawDelegatorReward"
  | .withdrawValidatorCommission => "MsgWithdrawValidatorCommission"
  | .fundCommunityPool => "MsgFundCommunityPool"
  | .createVestingAccount => "MsgCreateVestingAccount"
  | .createPermanentLockedAccount => "MsgCreatePermanentLockedAccount"
  | .createPeriodicVestingAccount => "MsgCreatePeriodicVestingAccount"
  | .payForBlobs => "MsgPayForBlobs"
  | .registerEvmAddress => "MsgRegisterEVMAddress"
  | .grantAllowance => "MsgGrantAllowance"
  | .revokeAllowance => "MsgRevokeAllowance"
  | .pruneAllowances => "MsgPruneAllowances"
  | .grant => "MsgGrant"
  | .exec => "MsgExec"
  | .revoke => "MsgRevoke"
  | .submitProposal => "MsgSubmitProposal"
  | .execLegacyContent => "MsgExecLegacyContent"
  | .vote => "MsgVote"
  | .voteWeighted => "MsgVoteWeighted"
  | .deposit => "MsgDeposit"
  | .cancelProposal => "MsgCancelProposal"
  | .softwareUpgrade => "MsgSoftwareUpgrade"
  | .cancelUpgrade => "MsgCancelUpgrade"
  | .signalVersion => "MsgSignalVersion"
  | .tryUpgrade => "MsgTryUpgrade"
  | .authorizeCircuitBreaker => "MsgAuthorizeCircuitBreaker"
  | .tripCircuitBreaker => "MsgTripCircuitBreaker"
  | .resetCircuitBreaker => "MsgResetCircuitBreaker"
  | .createClient => "MsgCreateClient"
  | .updateClient => "MsgUpdateClient"
  | .upgradeClient => "MsgUpgradeClient"
  | .submitMisbehaviour => "MsgSubmitMisbehaviour"
  | .connectionOpenInit => "MsgConnectionOpenInit"
  | .connectionOpenTry => "MsgConnectionOpenTry"
  | .connectionOpenAck => "MsgConnectionOpenAck"
  | .connectionOpenConfirm => "MsgConnectionOpenConfirm"
  | .channelOpenInit => "MsgChannelOpenInit"
  | .channelOpenTry => "MsgChannelOpenTry"
  | .channelOpenAck => "MsgChannelOpenAck"
  | .channelOpenConfirm => "MsgChannelOpenConfirm"
  | .channelCloseInit => "MsgChannelCloseInit"
  | .channelCloseConfirm => "MsgChannelCloseConfirm"
  | .recvPacket => "MsgRecvPacket"
  | .timeout => "MsgTimeout"
  | .timeoutOnClose => "MsgTimeoutOnClose"
  | .acknowledgement => "MsgAcknowledgement"
  | .transfer => "MsgTransfer"
  | .registerInterchainAccount => "MsgRegisterInterchainAccount"
  | .sendTx => "MsgSendTx"
  | .createMailbox => "MsgCreateMailbox"
  | .setMailbox => "MsgSetMailbox"
  | .processMessage => "MsgProcessMessage"
  | .createMessageIdMultisigIsm => "MsgCreateMessageIdMultisigIsm"
  | .createMerkleRootMultisigIsm => "MsgCreateMerkleRootMultisigIsm"
  | .createNoopIsm => "MsgCreateNoopIsm"
  | .announceValidator => "MsgAnnounceValidator"
  | .createRoutingIsm => "MsgCreateRoutingIsm"
  | .setRoutingIsmDomain => "MsgSetRoutingIsmDomain"
  | .removeRoutingIsmDomain => "MsgRemoveRoutingIsmDomain"
  | .updateRoutingIsmOwner => "MsgUpdateRoutingIsmOwner"
  | .createIgp => "MsgCreateIgp"
  | .setIgpOwner => "MsgSetIgpOwner"
  | .setDestinationGasConfig => "MsgSetDestinationGasConfig"
  | .payForGas => "MsgPayForGas"
  | .claim => "MsgClaim"
  | .createMerkleTreeHook => "MsgCreateMerkleTreeHook"
  | .createNoopHook => "MsgCreateNoopHook"
  | .createCollateralToken => "MsgCreateCollateralToken"
  | .createSyntheticToken => "MsgCreateSyntheticToken"
  | .setToken => "MsgSetToken"
  | .enrollRemoteRouter => "MsgEnrollRemoteRouter"
  | .unrollRemoteRouter => "MsgUnrollRemoteRouter"
  | .remoteTransfer => "MsgRemoteTransfer"
  | .createZkExecutionIsm => "MsgCreateZkExecutionIsm"
  | .updateZkExecutionIsm => "MsgUpdateZkExecutionIsm"
  | .submitMessages => "MsgSubmitMessages"
  | .forward => "MsgForward"

/-- The tag of a name. -/
def ofName? (name : String) : Option Tag :=
  all.find? fun tag ↦ tag.name = name

end Tag

end ChainRecord
