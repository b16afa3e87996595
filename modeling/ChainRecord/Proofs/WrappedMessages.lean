import ChainRecord.Proofs.Outcome
import ChainRecord.Proofs.Refusal
import ChainRecord.Proofs.Registry
import ChainRecord.Proofs.Stamp

/-!
# Wrapped messages

A message that wraps others is recorded by what it says itself. What it wraps shows in three places
and nowhere else: in the list of names, in the packet and in the proposal. So two messages that
differ only in what they wrap are refused alike, and otherwise their records agree outside of these
(`SameParent`, `Record.Message.SameOutside`).

In the lists nothing is lost and the order is kept. Every wrapped message has one name (`Names`) and
one entry (`Entry`), and an entry says which message it is of, whether or not the message can be
read. What makes an entry be left as it is, is said of the wrapped message alone (`IsLeft`): the
wrapped message of a wrapped message has no say in it, because whether a message is refused does not
depend on what it wraps (`Message.fails_read_iff`).
-/

namespace ChainRecord

open Reading

/-! ### Names and entries -/

/-- What is wrapped, by the table of messages: a message of no known type, one of a known type whose
bytes are none, or a message of a known type. -/
inductive Message.Unwraps (any : Any) : Except Wire.Fault Message → Prop
  /-- The type is not in the table. -/
  | unknown : (∀ kind : Kind, kind.typeUrl ≠ any.typeUrl) → Unwraps any (.ok (.unknown any))
  /-- The bytes are no message of the type. -/
  | malformed {kind : Kind} {fault : Wire.Fault} : kind.typeUrl = any.typeUrl →
      kind.shape.decode any.value = .error fault → Unwraps any (.error fault)
  /-- The bytes are a message of the type. -/
  | known {kind : Kind} {body : kind.Body} : kind.typeUrl = any.typeUrl →
      kind.shape.decode any.value = .ok body → Unwraps any (.ok (.known kind body))

theorem Message.unwraps_ofAny (any : Any) : Unwraps any (ofAny any) := by
  by_cases hurl : ∃ kind : Kind, kind.typeUrl = any.typeUrl
  · obtain ⟨kind, hurl⟩ := hurl
    rw [ofAny_of_typeUrl_eq hurl]
    cases hdecode : kind.shape.decode any.value with
    | error fault => exact .malformed hurl hdecode
    | ok body => exact .known hurl hdecode
  · have hne : ∀ kind : Kind, kind.typeUrl ≠ any.typeUrl := fun kind h ↦ hurl ⟨kind, h⟩
    rw [ofAny_of_typeUrl_ne hne]
    exact .unknown hne

namespace Reading

/-- The name of a wrapped message in a list. -/
inductive Names (any : Any) : String → Prop
  /-- A message of a known type has the name of its tag. -/
  | tag {kind : Message.Kind} {body : kind.Body} :
      Message.Unwraps any (.ok (.known kind body)) → Names any kind.tag.name
  /-- A message of another type is named by its type. -/
  | unknown : Message.Unwraps any (.ok (.unknown any)) → Names any any.typeUrl
  /-- Bytes that are no message are named by the type they should be of. -/
  | malformed {fault : Wire.Fault} : Message.Unwraps any (.error fault) → Names any any.typeUrl

theorem names_internalName (any : Any) : Names any (internalName any) := by
  have h := Message.unwraps_ofAny any
  rw [internalName]
  cases hany : Message.ofAny any with
  | error fault => exact .malformed (hany ▸ h)
  | ok message =>
    rw [hany] at h
    cases h with
    | unknown hne => exact .unknown (.unknown hne)
    | known hurl hdecode => exact .tag (.known hurl hdecode)

/-- A wrapped message is left as it is. -/
inductive IsLeft (settings : Settings) (levels : Nat) (any : Any) : Prop
  /-- No further level may be read. -/
  | tooDeep : levels = 0 → IsLeft settings levels any
  /-- The type is not in the table. -/
  | unknown : Message.Unwraps any (.ok (.unknown any)) → IsLeft settings levels any
  /-- The bytes are no message. -/
  | malformed {fault : Wire.Fault} : Message.Unwraps any (.error fault) →
      IsLeft settings levels any
  /-- The message makes no sense. -/
  | inconsistent {kind : Message.Kind} {body : kind.Body} :
      Message.Unwraps any (.ok (.known kind body)) →
      (Message.known kind body).IsInconsistent settings → IsLeft settings levels any

/-- The entry of a wrapped message in a packet or a proposal, where so many levels may be read. -/
inductive Entry (settings : Settings) (levels : Nat) (any : Any) : Record.NestedMessage → Prop
  /-- A message that is read is recorded with its tag and its fields. -/
  | read {kind : Message.Kind} {body : kind.Body} : 0 < levels →
      Message.Unwraps any (.ok (.known kind body)) →
      ¬ (Message.known kind body).IsInconsistent settings →
      Entry settings levels any ⟨any.typeUrl, kind.tag, kind.shape.fieldMap body⟩
  /-- A message that is left as it is is recorded as unknown, with the fields of its wrapping. -/
  | left : IsLeft settings levels any →
      Entry settings levels any ⟨any.typeUrl, .unknown, Any.shape.fieldMap any⟩

section NestedAt

variable (d : Decoder) (block : Block) (position : Nat) (status : Status) {any : Any}

theorem nestedAt_succ_of_error (levels : Nat) {fault : Wire.Fault}
    (h : Message.ofAny any = .error fault) :
    nestedAt d block position status (levels + 1) any = .undecoded any := by
  rw [nestedAt, h]

/-- What a message wraps has no say in whether it is recorded, nor in what is recorded of it. -/
theorem nestedAt_succ_of_ok (levels : Nat) {message : Message}
    (h : Message.ofAny any = .ok message) :
    (message.IsInconsistent d.settings ∧
        nestedAt d block position status (levels + 1) any = .undecoded any) ∨
      (¬ message.IsInconsistent d.settings ∧
        nestedAt d block position status (levels + 1) any =
          ⟨any.typeUrl, message.tag, message.fields⟩) := by
  have hfails := message.fails_read_iff ⟨d, block, position, status,
    nestedAt d block position status levels⟩
  rw [nestedAt, h]
  dsimp only at hfails ⊢
  rw [Message.recordIn]
  cases hread : message.read ⟨d, block, position, status, _⟩ with
  | error cause => exact Or.inl ⟨hfails.1 (hread ▸ fails_error cause), rfl⟩
  | ok found => exact Or.inr ⟨fun hin ↦ not_fails_ok found (hread ▸ hfails.2 hin), rfl⟩

theorem entry_nestedAt (levels : Nat) (any : Any) :
    Entry d.settings levels any (nestedAt d block position status levels any) := by
  cases levels with
  | zero => exact .left (.tooDeep rfl)
  | succ levels =>
    have hany := Message.unwraps_ofAny any
    cases hof : Message.ofAny any with
    | error fault =>
      rw [nestedAt_succ_of_error d block position status levels hof]
      exact .left (.malformed (hof ▸ hany))
    | ok message =>
      rw [hof] at hany
      rcases nestedAt_succ_of_ok d block position status levels hof with
        ⟨hin, hentry⟩ | ⟨hin, hentry⟩
      · rw [hentry]
        cases message with
        | unknown _ => exact hin.elim
        | known kind body => exact .left (.inconsistent hany hin)
      · rw [hentry]
        cases hany with
        | unknown hne => exact .left (.unknown (.unknown hne))
        | known hurl hdecode => exact .read levels.succ_pos (.known hurl hdecode) hin

end NestedAt

end Reading

/-! ### Transactions in packets -/

namespace InterchainAccounts

/-- The messages of a transaction for an interchain account; none of what is no transaction. -/
def messagesOf (transaction : Bytes) : List Any :=
  match CosmosTx.shape.decode transaction with
  | .ok tx => tx.messages
  | .error _ => []

theorem nestedMessages_eq (scope : Scope) (transaction : Bytes) :
    nestedMessages scope transaction = (messagesOf transaction).map scope.nested := by
  unfold nestedMessages messagesOf
  cases CosmosTx.shape.decode transaction <;> rfl

/-- The transaction in the payload of a packet to an interchain account, in base 64 behind the key
`data` of a JSON object or else in the wire form of packet data. -/
def transactionIn? (payload : Bytes) : Option Bytes :=
  match Json.membersOfBytes? payload with
  | some members => Base64.decode? (Attributes.text members "data")
  | none => (InterchainAccountPacketData.shape.decode payload).toOption.map (·.data)

/-- A payload is recorded exactly if there is a transaction in it, and then with an entry for each
of its messages. -/
theorem packetOfPayload?_eq (payload : Bytes) :
    ∃ packetType memo, ∀ scope : Scope, packetOfPayload? scope payload =
      (transactionIn? payload).map fun transaction ↦
        .interchainAccount packetType memo ((messagesOf transaction).map scope.nested) := by
  unfold packetOfPayload? transactionIn?
  cases Json.membersOfBytes? payload with
  | some members =>
    refine ⟨packetTypeOf (Json.lookup? members "type"), Attributes.text members "memo",
      fun scope ↦ ?_⟩
    simp only [packetOfMembers?, nestedMessages_eq]
  | none =>
    cases InterchainAccountPacketData.shape.decode payload with
    | error fault => exact ⟨"", "", fun scope ↦ rfl⟩
    | ok data =>
      refine ⟨packetTypeName data.packetType.toInt, data.memo, fun scope ↦ ?_⟩
      simp only [Except.toOption, Option.map_some, packetOf, nestedMessages_eq]

end InterchainAccounts

namespace IbcChannel

/-- The packet that a message is about. -/
def packetOf? : (kind : Kind) → kind.Body → Option Packet
  | .recvPacket, m => m.packet
  | .timeout, m => m.packet
  | .timeoutOnClose, m => m.packet
  | .acknowledgement, m => m.packet
  | .openInit, _ | .openTry, _ | .openAck, _ | .openConfirm, _ | .closeInit, _
  | .closeConfirm, _ => none

/-- The message with another payload in its packet. -/
def withPayload (payload : Bytes) : (kind : Kind) → kind.Body → kind.Body
  | .recvPacket, m => { m with packet := m.packet.map ({ · with data := payload }) }
  | .timeout, m => { m with packet := m.packet.map ({ · with data := payload }) }
  | .timeoutOnClose, m => { m with packet := m.packet.map ({ · with data := payload }) }
  | .acknowledgement, m => { m with packet := m.packet.map ({ · with data := payload }) }
  | .openInit, m => m
  | .openTry, m => m
  | .openAck, m => m
  | .openConfirm, m => m
  | .closeInit, m => m
  | .closeConfirm, m => m

/-- All messages about channels are read as messages about a packet, if there is one. -/
theorem read_eq_readPacket (kind : Kind) (m : kind.Body) :
    ∃ signer flow, (∀ scope, read scope kind m = readPacket scope signer flow (packetOf? kind m)) ∧
      ∀ scope payload, read scope kind (withPayload payload kind m) =
        readPacket scope signer flow ((packetOf? kind m).map ({ · with data := payload })) := by
  cases kind with
  | recvPacket => exact ⟨m.signer, .received, fun _ ↦ rfl, fun _ _ ↦ rfl⟩
  | acknowledgement => exact ⟨m.signer, _, fun _ ↦ rfl, fun _ _ ↦ rfl⟩
  | timeout | timeoutOnClose => exact ⟨m.signer, .refunded, fun _ ↦ rfl, fun _ _ ↦ rfl⟩
  | openInit | openTry | openAck | openConfirm | closeInit | closeConfirm =>
    exact ⟨m.signer, .refunded, fun _ ↦ rfl, fun _ _ ↦ rfl⟩

/-- Of a packet to interchain accounts only the signer of the message is recorded beside the
payload. -/
theorem readPacket_host {scope : Scope} {packet : Packet}
    (h : packet.destinationPort = scope.settings.icaHostPort) (signer : String) (flow : Flow) :
    readPacket scope signer flow (some packet) =
      { addresses := scope.addresses [(.signer, signer)]
        packet := InterchainAccounts.packetOfPayload? scope packet.data } := by
  rw [readPacket, if_pos h]

end IbcChannel

/-! ### Messages that wrap others -/

namespace Message

/-- A message carries a transaction for an interchain account in its packet. -/
inductive CarriesTransaction (settings : Settings) : Message → Bytes → Prop
  /-- It sends a transaction. -/
  | sendTx {m : InterchainAccounts.MsgSendTx}
      {data : InterchainAccounts.InterchainAccountPacketData} : m.packetData = some data →
      CarriesTransaction settings (.known (.interchainAccounts .sendTx) m) data.data
  /-- It is about a packet to interchain accounts. -/
  | hostPacket {kind : IbcChannel.Kind} {m : kind.Body} {packet : IbcChannel.Packet}
      {transaction : Bytes} : IbcChannel.packetOf? kind m = some packet →
      packet.destinationPort = settings.icaHostPort →
      InterchainAccounts.transactionIn? packet.data = some transaction →
      CarriesTransaction settings (.known (.ibcChannel kind) m) transaction

/-- A message wraps others, which are listed by name. -/
inductive Wraps : Message → List Any → Prop
  /-- Messages that are executed by permission. -/
  | exec (m : Authz.MsgExec) : Wraps (.known (.authz .exec) m) m.msgs
  /-- Messages that are proposed. -/
  | submitProposal (m : Gov.MsgSubmitProposal) :
      Wraps (.known (.gov .submitProposal) m) m.messages

/-- Two messages differ only in what they wrap. -/
inductive SameParent (settings : Settings) : Message → Message → Prop
  /-- Other messages are executed by permission. -/
  | exec (m : Authz.MsgExec) (msgs : List Any) :
      SameParent settings (.known (.authz .exec) m) (.known (.authz .exec) { m with msgs })
  /-- Other messages are proposed. -/
  | submitProposal (m : Gov.MsgSubmitProposal) (messages : List Any) :
      SameParent settings (.known (.gov .submitProposal) m)
        (.known (.gov .submitProposal) { m with messages })
  /-- Another transaction is sent. -/
  | sendTx (m : InterchainAccounts.MsgSendTx)
      (packetData : Option InterchainAccounts.InterchainAccountPacketData) :
      SameParent settings (.known (.interchainAccounts .sendTx) m)
        (.known (.interchainAccounts .sendTx) { m with packetData })
  /-- A packet to interchain accounts has another payload. -/
  | hostPacket {kind : IbcChannel.Kind} {m : kind.Body} {packet : IbcChannel.Packet}
      (payload : Bytes) : IbcChannel.packetOf? kind m = some packet →
      packet.destinationPort = settings.icaHostPort →
      SameParent settings (.known (.ibcChannel kind) m)
        (.known (.ibcChannel kind) (IbcChannel.withPayload payload kind m))

end Message

/-! ### What wrapped messages have no say in -/

/-- Two findings agree in everything that is outside of the wrapped messages. -/
structure Reading.Findings.SameOutside (f g : Findings) : Prop where
  addresses : f.addresses = g.addresses
  blobsSize : f.blobsSize = g.blobsSize
  entities : { f.entities with proposal := none } = { g.entities with proposal := none }

/-- Two records agree in everything that is outside of the wrapped messages. -/
structure Record.Message.SameOutside (r r' : Record.Message) : Prop where
  addresses : r.addresses = r'.addresses
  blobsSize : r.blobsSize = r'.blobsSize
  entities : { r.entities with proposal := none } = { r'.entities with proposal := none }

namespace Message

theorem stamp_sameOutside {scope : Scope} {f g : Findings} (h : f.SameOutside g)
    (message message' : Message) :
    (message.stamp scope f).SameOutside (message'.stamp scope g) := by
  refine ⟨h.addresses, h.blobsSize, ?_⟩
  unfold stamp
  cases scope.status with
  | success => exact h.entities
  | failed => rfl

/-- What is read of a message is read alike if it wraps other messages. -/
theorem SameParent.alike_read {scope : Scope} {message message' : Message}
    (h : SameParent scope.settings message message') :
    Alike Eq Findings.SameOutside (message.read scope) (message'.read scope) := by
  cases h with
  | exec m msgs => exact .ok ⟨rfl, rfl, rfl⟩
  | submitProposal m messages =>
    -- the deposit decides whether there is a proposal
    have hsubmitted : Alike Eq (fun _ _ ↦ True) (Gov.submitted scope m)
        (Gov.submitted scope { m with messages }) :=
      Alike.bind_same _ fun _ ↦ .ok trivial
    exact hsubmitted.bind fun _ _ _ ↦ .ok ⟨rfl, rfl, rfl⟩
  | sendTx m packetData => exact .ok ⟨rfl, rfl, rfl⟩
  | @hostPacket kind m packet payload hpacket hport =>
    obtain ⟨signer, flow, hread, hread'⟩ := IbcChannel.read_eq_readPacket kind m
    refine .ok ?_
    have hport' : ({ packet with data := payload } : IbcChannel.Packet).destinationPort =
        scope.settings.icaHostPort := hport
    rw [hread, hread', hpacket, Option.map_some, IbcChannel.readPacket_host hport,
      IbcChannel.readPacket_host hport']
    exact ⟨rfl, rfl, rfl⟩

theorem SameParent.alike_recordIn (scope : Scope) {message message' : Message}
    (h : SameParent scope.settings message message') :
    Alike Eq Record.Message.SameOutside (message.recordIn scope) (message'.recordIn scope) := by
  have hurl : message.typeUrl = message'.typeUrl := by cases h <;> rfl
  rw [recordIn_eq, recordIn_eq]
  refine (h.alike_read.map fun f g hfg ↦ stamp_sameOutside hfg message message').mapError ?_
  rintro cause _ rfl
  rw [hurl]

/-! ### What is recorded of wrapped messages -/

/-- A message that makes sense is recorded with what was found in it. -/
theorem exists_recordIn (scope : Scope) {message : Message}
    (h : ¬ message.IsInconsistent scope.settings) :
    ∃ found, message.read scope = .ok found ∧
      message.recordIn scope = .ok (message.stamp scope found) := by
  rw [← message.fails_read_iff scope] at h
  rw [recordIn]
  cases hread : message.read scope with
  | error cause => exact absurd (hread ▸ fails_error cause) h
  | ok found => exact ⟨found, rfl, rfl⟩

theorem Wraps.internalMessages_eq {scope : Scope} {message : Message} {anys : List Any}
    (h : Wraps message anys) {found : Findings} (hfound : message.read scope = .ok found) :
    found.internalMessages = anys.map internalName := by
  cases h with
  | exec m => exact Except.ok.inj hfound ▸ rfl
  | submitProposal m =>
    obtain ⟨proposal, -, hok⟩ := bind_eq_ok_iff.1 hfound
    exact Except.ok.inj hok ▸ rfl

theorem CarriesTransaction.read_eq (scope : Scope) {message : Message} {transaction : Bytes}
    (h : CarriesTransaction scope.settings message transaction) :
    ∃ found packetType memo, message.read scope = .ok found ∧
      found.packet = some (.interchainAccount packetType memo
        ((InterchainAccounts.messagesOf transaction).map scope.nested)) := by
  cases h with
  | @sendTx m data hdata =>
    refine ⟨_, InterchainAccounts.packetTypeName data.packetType.toInt, data.memo, rfl, ?_⟩
    show m.packetData.map (InterchainAccounts.packetOf scope) = _
    rw [hdata, Option.map_some, InterchainAccounts.packetOf, InterchainAccounts.nestedMessages_eq]
  | @hostPacket kind m packet transaction hpacket hport htransaction =>
    obtain ⟨signer, flow, hread, -⟩ := IbcChannel.read_eq_readPacket kind m
    obtain ⟨packetType, memo, hpayload⟩ := InterchainAccounts.packetOfPayload?_eq packet.data
    refine ⟨_, packetType, memo, rfl, ?_⟩
    rw [hread, hpacket, IbcChannel.readPacket_host hport]
    dsimp only
    rw [hpayload, htransaction, Option.map_some]

/-- **Wrapped messages are kept apart, and none is lost.** Of two messages that differ only in what
they wrap, either both are refused for one reason, or their records agree in their addresses, the
bytes of blobs and everything that is brought about but for the proposal. Messages that are executed
or proposed have one name each, in order; and so have the messages of a transaction in a packet one
entry each, which is that of the message or, where it is left as it is, of its wrapping. -/
theorem record_wrapped (d : Decoder) (block : Block) (position : Nat) (status : Status) :
    (∀ message message', SameParent d.settings message message' →
      Alike Eq Record.Message.SameOutside (message.record d block position status)
        (message'.record d block position status)) ∧
    (∀ message anys, Wraps message anys → ¬ message.IsInconsistent d.settings →
      ∃ r, message.record d block position status = .ok r ∧
        List.Forall₂ Names anys r.internalMessages) ∧
    ∀ message transaction tx, CarriesTransaction d.settings message transaction →
      InterchainAccounts.CosmosTx.shape.decode transaction = .ok tx →
      ∃ r packetType memo entries, message.record d block position status = .ok r ∧
        r.packet = some (.interchainAccount packetType memo entries) ∧
        List.Forall₂ (Entry d.settings d.settings.maxNestingDepth.toNat) tx.messages entries := by
  set scope := outermost d block position status with hscope
  refine ⟨fun message message' h ↦ h.alike_recordIn scope, fun message anys h hin ↦ ?_,
    fun message transaction tx h htx ↦ ?_⟩
  · obtain ⟨found, hfound, hrecord⟩ := exists_recordIn scope hin
    refine ⟨message.stamp scope found, hrecord, ?_⟩
    show List.Forall₂ Names anys found.internalMessages
    rw [h.internalMessages_eq hfound, List.forall₂_map_right_iff, List.forall₂_same]
    exact fun any _ ↦ names_internalName any
  · obtain ⟨found, packetType, memo, hfound, hpacket⟩ := h.read_eq scope
    have hrecord : message.record d block position status =
        .ok (message.stamp scope found) := by
      rw [record, ← hscope, recordIn, hfound]
    refine ⟨message.stamp scope found, packetType, memo, _, hrecord, hpacket, ?_⟩
    rw [InterchainAccounts.messagesOf, htx]
    dsimp only
    rw [List.forall₂_map_right_iff, List.forall₂_same]
    exact fun any _ ↦ entry_nestedAt d block position status _ any

/-- A transfer whose bytes are none. -/
def brokenSend : Any :=
  ⟨"/cosmos.bank.v1beta1.MsgSend", [10, 255]⟩

/-- A broken transfer is executed by permission, and sent to an interchain account. It makes no
difference to the message that executes it, has a name there, and has an entry in the packet. -/
theorem record_wrapped_brokenSend :
    Alike Eq Record.Message.SameOutside
      (Message.record {} ⟨100, ⟨1700000000, 0⟩⟩ (.known (.authz .exec) ⟨"grantee", [brokenSend]⟩) 0
        .success)
      (Message.record {} ⟨100, ⟨1700000000, 0⟩⟩ (.known (.authz .exec) ⟨"grantee", []⟩) 0
        .success) ∧
    (∃ r, Message.record {} ⟨100, ⟨1700000000, 0⟩⟩
        (.known (.authz .exec) ⟨"grantee", [brokenSend]⟩) 0 .success = .ok r ∧
      List.Forall₂ Names [brokenSend] r.internalMessages) ∧
    ∃ r packetType memo entries, Message.record {} ⟨100, ⟨1700000000, 0⟩⟩
        (.known (.interchainAccounts .sendTx) ⟨"owner", "connection-3",
          some ⟨1, InterchainAccounts.CosmosTx.shape.encode ⟨[brokenSend]⟩, "memo"⟩, 0⟩) 0
        .success = .ok r ∧
      r.packet = some (.interchainAccount packetType memo entries) ∧
      List.Forall₂ (Entry {} 2) [brokenSend] entries := by
  obtain ⟨hparent, hnames, hentries⟩ := record_wrapped {} ⟨100, ⟨1700000000, 0⟩⟩ 0 .success
  refine ⟨hparent _ _ (.exec ⟨"grantee", [brokenSend]⟩ []),
    hnames _ _ (.exec ⟨"grantee", [brokenSend]⟩) id, ?_⟩
  have hdecode : InterchainAccounts.CosmosTx.shape.decode
      (InterchainAccounts.CosmosTx.shape.encode ⟨[brokenSend]⟩) = .ok ⟨[brokenSend]⟩ :=
    Wire.Shape.decode_encode _ rfl _ (by decide +kernel)
  exact hentries _ _ _ (.sendTx rfl) hdecode

end Message

end ChainRecord
