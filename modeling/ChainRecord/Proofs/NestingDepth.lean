import ChainRecord.Proofs.Json.MemberLengths
import ChainRecord.Proofs.NestingLimit
import ChainRecord.Proofs.Wire.Weight

/-!
# The depth of nesting

A message may wrap messages that wrap further ones. Each of them is read from bytes of the message
around it: those of a proposal are its fields, and those for an interchain account are fields of a
transaction, which is a field of a message or of a payload, or is in base 64 in a JSON object. None
of this lengthens what is read, and a list of messages takes a byte more for each of them. So a
wrapped message is shorter than the message that wraps it, whatever the bytes are
(`Message.AsksFor.length_lt`).

Which wrapped messages an entry is asked for of is said by `Message.AsksFor`; no other message has a
say in what is read (`Message.read_congr`). Hence reading is a recursion over the number of bytes,
and the nesting limit is not what ends it (`Reading.nesting_bounded_by_length`).
-/

namespace ChainRecord

open Reading

/-! ### Lengths of what is carried -/

/-- Each item counts in the total. -/
theorem Wire.le_totalLength_of_mem {α : Type} (length : α → Nat) {items : List α} {a : α}
    (h : a ∈ items) : length a ≤ Wire.totalLength length items := by
  induction items with
  | nil => exact absurd h List.not_mem_nil
  | cons b items ih =>
    rw [Wire.totalLength_cons]
    rcases List.mem_cons.1 h with rfl | hrest
    · exact Nat.le_add_right _ _
    · exact (ih hrest).trans (Nat.le_add_left _ _)

theorem Wire.length_le_weight_bytes (bytes : Bytes) :
    bytes.length ≤ Wire.Kind.weight 1 .bytes bytes := by
  rw [Wire.Kind.weight]
  show bytes.length ≤ if bytes.length = 0 then 0 else 1 + bytes.length
  split <;> omega

theorem length_value_le_weight (any : Any) : any.value.length ≤ Any.shape.weight 1 any := by
  have hvalue := Wire.length_le_weight_bytes any.value
  simp only [Any.shape, Wire.Shape.weight, Wire.Fields.weight]
  omega

/-- A wrapped message is shorter than all of them together. -/
theorem lt_weight_messages {any : Any} {anys : List Any} (h : any ∈ anys) :
    any.value.length < Wire.Kind.weight 1 (.messages Any.shape) anys := by
  have hvalue := length_value_le_weight any
  have hmem : 1 + Any.shape.weight 1 any ≤ Wire.Kind.weight 1 (.messages Any.shape) anys := by
    rw [Wire.Kind.weight]
    exact Wire.le_totalLength_of_mem (fun any ↦ 1 + Any.shape.weight 1 any) h
  omega

namespace InterchainAccounts

/-- A message of a transaction is shorter than the transaction. -/
theorem length_value_lt_of_mem_messagesOf {transaction : Bytes} {any : Any}
    (h : any ∈ messagesOf transaction) : any.value.length < transaction.length := by
  rw [messagesOf] at h
  split at h
  · rename_i tx hdecode
    have hweight := CosmosTx.shape.weight_le_of_decode (Nat.le_refl 1) hdecode
    have hany := lt_weight_messages h
    simp only [CosmosTx.shape, Wire.Shape.weight, Wire.Fields.weight] at hweight
    omega
  · exact absurd h List.not_mem_nil

theorem length_data_le_weight (data : InterchainAccountPacketData) :
    data.data.length ≤ InterchainAccountPacketData.shape.weight 1 data := by
  have hdata := Wire.length_le_weight_bytes data.data
  simp only [InterchainAccountPacketData.shape, Wire.Shape.weight, Wire.Fields.weight]
  omega

/-- The transaction in a payload is no longer than the payload, in either form. -/
theorem length_le_of_transactionIn? {payload transaction : Bytes}
    (h : transactionIn? payload = some transaction) : transaction.length ≤ payload.length := by
  rw [transactionIn?] at h
  split at h
  · rename_i members hmembers
    exact Json.length_le_of_membersOfBytes? hmembers h
  · obtain ⟨data, hdata, rfl⟩ := Option.map_eq_some_iff.1 h
    cases hdecode : InterchainAccountPacketData.shape.decode payload with
    | error fault => rw [hdecode] at hdata; cases hdata
    | ok data' =>
      rw [hdecode] at hdata
      obtain rfl := Option.some.inj hdata
      have hweight := InterchainAccountPacketData.shape.weight_le_of_decode (Nat.le_refl 1) hdecode
      have hlength := length_data_le_weight data'
      omega

end InterchainAccounts

namespace IbcChannel

theorem length_data_le_weight (packet : Packet) :
    packet.data.length ≤ Packet.shape.weight 1 packet := by
  have hdata := Wire.length_le_weight_bytes packet.data
  simp only [Packet.shape, Wire.Shape.weight, Wire.Fields.weight]
  omega

/-- A packet weighs less than a message about it. -/
theorem weight_packet_lt {kind : Kind} {m : kind.Body} {packet : Packet}
    (h : packetOf? kind m = some packet) :
    Packet.shape.weight 1 packet < kind.shape.weight 1 m := by
  cases kind with
  | recvPacket | timeout | timeoutOnClose | acknowledgement =>
    have hsome : m.packet = some packet := h
    have hweight : Wire.Kind.weight 1 (.message Packet.shape) m.packet =
        1 + Packet.shape.weight 1 packet := by rw [hsome, Wire.Kind.weight]
    show _ < Wire.Kind.weight 1 (.message Packet.shape) m.packet + _
    omega
  | openInit | openTry | openAck | openConfirm | closeInit | closeConfirm => cases h

end IbcChannel

/-! ### Wrapped messages that are asked for -/

namespace Message

variable {settings : Settings} {message : Message}

/-- What is carried is no longer than the message that carries it. -/
theorem CarriesTransaction.length_le {kind : Message.Kind} {body : kind.Body} {transaction : Bytes}
    (h : CarriesTransaction settings (.known kind body) transaction) :
    transaction.length ≤ kind.shape.weight 1 body := by
  cases h with
  | @sendTx m data hdata =>
    have hlength := InterchainAccounts.length_data_le_weight data
    show _ ≤ InterchainAccounts.MsgSendTx.shape.weight 1 m
    simp only [InterchainAccounts.MsgSendTx.shape, Wire.Shape.weight, Wire.Fields.weight, hdata,
      Wire.Kind.weight]
    omega
  | @hostPacket kind m packet transaction hpacket _ htransaction =>
    have hlength := InterchainAccounts.length_le_of_transactionIn? htransaction
    have hdata := IbcChannel.length_data_le_weight packet
    have hweight := IbcChannel.weight_packet_lt hpacket
    show _ ≤ kind.shape.weight 1 m
    omega

/-- To read a message, the entry of a wrapped message is asked for. -/
inductive AsksFor (settings : Settings) : Message → Any → Prop
  /-- It is proposed, and no content of the proposal has changes. -/
  | proposed {m : Gov.MsgSubmitProposal} {any : Any} : (Gov.summarize m).changes = none →
      any ∈ m.messages → AsksFor settings (.known (.gov .submitProposal) m) any
  /-- It is in the transaction that is carried for an interchain account. -/
  | carried {message : Message} {transaction : Bytes} {any : Any} :
      CarriesTransaction settings message transaction →
      any ∈ InterchainAccounts.messagesOf transaction → AsksFor settings message any

/-- A wrapped message that is asked for is shorter than the message that wraps it. -/
theorem AsksFor.length_lt {any inner : Any} (h : AsksFor settings message inner)
    (hmessage : ofAny any = .ok message) : inner.value.length < any.value.length := by
  have hany := hmessage ▸ unwraps_ofAny any
  cases hany with
  | unknown _ => cases h with | carried hcarries _ => cases hcarries
  | @known kind body _ hdecode =>
    have hweight := kind.shape.weight_le_of_decode (Nat.le_refl 1) hdecode
    cases h with
    | @proposed m _ _ hmem =>
      have hlt := lt_weight_messages hmem
      have hmessages : Wire.Kind.weight 1 (.messages Any.shape) m.messages ≤
          Gov.MsgSubmitProposal.shape.weight 1 m := by
        simp only [Gov.MsgSubmitProposal.shape, Wire.Shape.weight, Wire.Fields.weight]
        omega
      change Gov.MsgSubmitProposal.shape.weight 1 m ≤ _ at hweight
      omega
    | carried hcarries hmem =>
      have hle := hcarries.length_le
      have hlt := InterchainAccounts.length_value_lt_of_mem_messagesOf hmem
      omega

theorem PacketDiffers.eq {f g : Any → Record.NestedMessage} {packet packet' : Option Record.Packet}
    (h : message.PacketDiffers settings f g packet packet')
    (hfg : ∀ any, message.AsksFor settings any → g any = f any) : packet' = packet := by
  cases h with
  | entries hcarries =>
    rw [List.map_congr_left fun any hany ↦ hfg any (.carried hcarries hany)]
  | same _ => rfl

theorem ProposalDiffers.eq {f g : Any → Record.NestedMessage}
    {proposal proposal' : Option Record.Proposal}
    (h : message.ProposalDiffers f g proposal proposal')
    (hfg : ∀ any, message.AsksFor settings any → g any = f any) : proposal' = proposal := by
  cases h with
  | entries hmessage hchanges _ hproposal hproposal' =>
    subst hmessage
    rw [hproposal', List.map_congr_left fun any hany ↦ by rw [hfg any (.proposed hchanges hany)],
      ← hproposal]
  | same _ => rfl

/-- **Only what is asked for has a say** in what is read of a message. -/
theorem read_congr {scope : Scope} {nested : Any → Record.NestedMessage}
    (h : ∀ any, message.AsksFor scope.settings any → nested any = scope.nested any) :
    message.read { scope with nested } = message.read scope := by
  have halike := message.read_nested scope nested
  generalize message.read { scope with nested } = read' at halike ⊢
  generalize message.read scope = read at halike ⊢
  cases halike with
  | error heq => rw [heq]
  | @ok found found' hdiffer =>
    obtain ⟨hothers, hpacket, hproposal⟩ := hdiffer
    rw [hothers, hpacket.eq h, hproposal.eq h]

theorem recordIn_congr {scope : Scope} {nested : Any → Record.NestedMessage}
    (h : ∀ any, message.AsksFor scope.settings any → nested any = scope.nested any) :
    message.recordIn { scope with nested } = message.recordIn scope := by
  rw [recordIn, read_congr h, recordIn]
  rfl

end Message

/-! ### Levels -/

namespace Reading

/-- A message is so many levels within another one, if each of them asks for the next. -/
inductive IsWithin (settings : Settings) (any : Any) : Nat → Any → Prop
  /-- No level within itself. -/
  | self : IsWithin settings any 0 any
  /-- One level more. -/
  | next {levels : Nat} {middle inner : Any} {message : Message} :
      IsWithin settings any levels middle → Message.ofAny middle = .ok message →
      message.AsksFor settings inner → IsWithin settings any (levels + 1) inner

/-- A message is read within another one, with a counter of the depth that does not reach beyond the
limit. -/
inductive IsReadAt (settings : Settings) (any : Any) : UInt64 → Any → Prop
  /-- The message itself. -/
  | outermost : IsReadAt settings any 0 any
  /-- A wrapped message, if the limit allows for it. -/
  | wrapped {depth : UInt64} {middle inner : Any} {message : Message} :
      IsReadAt settings any depth middle → Message.ofAny middle = .ok message →
      message.AsksFor settings inner → depth < settings.maxNestingDepth →
      IsReadAt settings any (depth + 1) inner

/-- Every level takes a byte. -/
theorem IsWithin.add_length_le {settings : Settings} {any inner : Any} {levels : Nat}
    (h : IsWithin settings any levels inner) : levels + inner.value.length ≤ any.value.length := by
  induction h with
  | self => exact (Nat.zero_add _).le
  | next _ hmessage hasks ih =>
    have hlt := hasks.length_lt hmessage
    omega

theorem toNat_add_one_of_lt {depth limit : UInt64} (h : depth < limit) :
    (depth + 1).toNat = depth.toNat + 1 := by
  have hlt : depth.toNat < limit.toNat := h
  have hlimit := limit.toNat_lt
  have hone : (1 : UInt64).toNat = 1 := rfl
  rw [UInt64.toNat_add, hone]
  exact Nat.mod_eq_of_lt (by omega)

/-- The counter counts the levels, and does not reach beyond the limit. -/
theorem IsReadAt.isWithin {settings : Settings} {any inner : Any} {depth : UInt64}
    (h : IsReadAt settings any depth inner) :
    depth ≤ settings.maxNestingDepth ∧ IsWithin settings any depth.toNat inner := by
  induction h with
  | outermost => exact ⟨UInt64.zero_le, .self⟩
  | wrapped _ hmessage hasks hlimit ih =>
    have hcount := toNat_add_one_of_lt hlimit
    refine ⟨?_, hcount ▸ ih.2.next hmessage hasks⟩
    rw [UInt64.le_iff_toNat_le, hcount]
    exact hlimit

section Entries

variable (d : Decoder) (block : Block) (position : Nat) (status : Status)

/-- The entry of a wrapped message, with a function for the entries of what it wraps in turn. -/
def entryWith (nested : Any → Record.NestedMessage) (any : Any) : Record.NestedMessage :=
  match Message.ofAny any with
  | .error _ => .undecoded any
  | .ok message =>
    match message.recordIn ⟨d, block, position, status, nested⟩ with
    | .error _ => .undecoded any
    | .ok record => ⟨any.typeUrl, record.tag, record.data⟩

theorem nestedAt_succ (levels : Nat) (any : Any) :
    nestedAt d block position status (levels + 1) any =
      entryWith d block position status (nestedAt d block position status levels)
        any := rfl

variable {d block position status}

/-- The entry of a message takes only entries of shorter messages. -/
theorem entryWith_congr {f g : Any → Record.NestedMessage} {any : Any}
    (h : ∀ inner : Any, inner.value.length < any.value.length → f inner = g inner) :
    entryWith d block position status f any =
      entryWith d block position status g any := by
  rw [entryWith, entryWith]
  cases hmessage : Message.ofAny any with
  | error fault => rfl
  | ok message =>
    have hrecord : message.recordIn ⟨d, block, position, status, f⟩ =
        message.recordIn ⟨d, block, position, status, g⟩ :=
      @Message.recordIn_congr message ⟨d, block, position, status, g⟩ f
        fun inner hasks ↦ h inner (hasks.length_lt hmessage)
    dsimp only
    rw [hrecord]

/-- More levels than there are bytes are all alike. -/
theorem nestedAt_eq_nestedAt {levels levels' : Nat} {any : Any} (h : any.value.length < levels)
    (h' : any.value.length < levels') :
    nestedAt d block position status levels any =
      nestedAt d block position status levels' any := by
  induction levels generalizing levels' any with
  | zero => exact absurd h (Nat.not_lt_zero _)
  | succ levels ih =>
    obtain ⟨levels', rfl⟩ := Nat.exists_eq_succ_of_ne_zero (Nat.ne_zero_of_lt h')
    rw [nestedAt_succ, nestedAt_succ]
    exact entryWith_congr fun inner hinner ↦ ih (by omega) (by omega)

/-- More levels than there are bytes are as good as no limit. -/
theorem nestedAt_eq_of_unlimited {nested : Any → Record.NestedMessage}
    (hnested : ∀ any, nested any = entryWith d block position status nested any)
    {levels : Nat} {any : Any} (h : any.value.length < levels) :
    nestedAt d block position status levels any = nested any := by
  induction levels generalizing any with
  | zero => exact absurd h (Nat.not_lt_zero _)
  | succ levels ih =>
    rw [nestedAt_succ, hnested]
    exact entryWith_congr fun inner hinner ↦ ih (by omega)

/-- Without a limit the entries are determined all the same. -/
theorem existsUnique_unlimited :
    ∃! nested : Any → Record.NestedMessage,
      ∀ any, nested any = entryWith d block position status nested any := by
  refine ⟨fun any ↦ nestedAt d block position status (any.value.length + 1) any,
    fun any ↦ entryWith_congr fun inner hinner ↦ ?_, fun nested hnested ↦ ?_⟩
  · exact nestedAt_eq_nestedAt hinner (Nat.lt_succ_self _)
  · funext any
    exact (nestedAt_eq_of_unlimited hnested (Nat.lt_succ_self _)).symm

/-- What is left of the limit counts the levels down while the depth counts them up. -/
theorem nestedAt_eq_of_counter {nested : UInt64 → Any → Record.NestedMessage}
    (hnested : ∀ depth any, nested depth any =
      if d.settings.maxNestingDepth ≤ depth then .undecoded any
      else entryWith d block position status (nested (depth + 1)) any)
    (depth : UInt64) :
    nested depth = nestedAt d block position status
      (d.settings.maxNestingDepth.toNat - depth.toNat) := by
  generalize hleft : d.settings.maxNestingDepth.toNat - depth.toNat = left
  induction left generalizing depth with
  | zero =>
    have hle : d.settings.maxNestingDepth ≤ depth := UInt64.le_iff_toNat_le.2 (by omega)
    funext any
    rw [hnested, if_pos hle, nestedAt]
  | succ left ih =>
    have hlt : depth < d.settings.maxNestingDepth := UInt64.lt_iff_toNat_lt.2 (by omega)
    have hcount := toNat_add_one_of_lt hlt
    funext any
    rw [hnested, if_neg (UInt64.not_le.2 hlt), nestedAt_succ, ih (depth + 1) (by omega)]

/-- Counting the depth up is counting the levels that are left down. The counter has sixty-four bits
and does not overflow, since it is not raised at the limit. -/
theorem counted_iff {nested : UInt64 → Any → Record.NestedMessage} :
    (∀ depth any, nested depth any =
      if d.settings.maxNestingDepth ≤ depth then .undecoded any
      else entryWith d block position status (nested (depth + 1)) any) ↔
    ∀ depth, nested depth = nestedAt d block position status
      (d.settings.maxNestingDepth.toNat - depth.toNat) := by
  refine ⟨nestedAt_eq_of_counter, fun hnested depth any ↦ ?_⟩
  rw [hnested, hnested]
  split
  · rename_i hle
    rw [Nat.sub_eq_zero_of_le (UInt64.le_iff_toNat_le.1 hle), nestedAt]
  · rename_i hnot
    have hlt := UInt64.not_le.1 hnot
    have hcount := toNat_add_one_of_lt hlt
    have hlt' := UInt64.lt_iff_toNat_lt.1 hlt
    rw [← nestedAt_succ]
    congr 1
    omega

end Entries

/-- **Nesting is bounded by the length of the message**, under every limit and without one. A
wrapped message that is asked for is shorter than the message that wraps it, and nothing but what is
asked for has a say in what is read. So a message is at most as many levels within another one as
that has bytes. Even without a limit the entries of wrapped messages are determined, and they are
those of any number of levels that is larger than the number of bytes. Under a limit they are those
that a counter of the depth gives; it does not go beyond the limit, nor beyond the number of bytes,
and whenever it is raised it does not overflow. -/
theorem nesting_bounded_by_length (d : Decoder) (block : Block) (position : Nat) (status : Status) :
    (∀ any message inner, Message.ofAny any = .ok message → message.AsksFor d.settings inner →
      inner.value.length < any.value.length) ∧
    (∀ (message : Message) (scope : Scope) (nested : Any → Record.NestedMessage),
      scope.settings = d.settings →
      (∀ any, message.AsksFor d.settings any → nested any = scope.nested any) →
      message.read { scope with nested } = message.read scope) ∧
    (∀ any levels inner, IsWithin d.settings any levels inner →
      levels + inner.value.length ≤ any.value.length) ∧
    (∃! nested : Any → Record.NestedMessage,
      ∀ any, nested any = entryWith d block position status nested any) ∧
    (∀ nested : Any → Record.NestedMessage,
      (∀ any, nested any = entryWith d block position status nested any) →
      ∀ levels any, any.value.length < levels →
        nestedAt d block position status levels any = nested any) ∧
    (∀ nested : UInt64 → Any → Record.NestedMessage,
      (∀ depth any, nested depth any =
        if d.settings.maxNestingDepth ≤ depth then .undecoded any
        else entryWith d block position status (nested (depth + 1)) any) ↔
      ∀ depth, nested depth = nestedAt d block position status
        (d.settings.maxNestingDepth.toNat - depth.toNat)) ∧
    ∀ any depth inner, IsReadAt d.settings any depth inner →
      depth ≤ d.settings.maxNestingDepth ∧
      depth.toNat + inner.value.length ≤ any.value.length ∧
      (depth < d.settings.maxNestingDepth → (depth + 1).toNat = depth.toNat + 1) := by
  refine ⟨fun any message inner hmessage hasks ↦ hasks.length_lt hmessage,
    fun message scope nested hscope h ↦ Message.read_congr (hscope ▸ h),
    fun any levels inner h ↦ h.add_length_le, existsUnique_unlimited,
    fun nested hnested levels any h ↦ nestedAt_eq_of_unlimited hnested h,
    fun nested ↦ counted_iff, fun any depth inner h ↦ ?_⟩
  obtain ⟨hlimit, hwithin⟩ := h.isWithin
  exact ⟨hlimit, hwithin.add_length_le, toNat_add_one_of_lt⟩

/-- A transfer. -/
def wrappedTransfer : Any :=
  ⟨"/cosmos.bank.v1beta1.MsgSend", Bank.MsgSend.shape.encode ⟨"a", "b", []⟩⟩

/-- A transaction that is sent, with the transfer in it. -/
def sending : InterchainAccounts.MsgSendTx :=
  ⟨"owner", "connection-3",
    some ⟨1, InterchainAccounts.CosmosTx.shape.encode ⟨[wrappedTransfer]⟩, "memo"⟩, 0⟩

/-- The message that sends the transaction, in its wrapping. -/
def wrappedSending : Any :=
  ⟨Message.Kind.typeUrl (.interchainAccounts .sendTx),
    InterchainAccounts.MsgSendTx.shape.encode sending⟩

/-- The transfer is one level within the message that sends it, and a byte shorter at least. -/
theorem nesting_bounded_by_length_sending :
    IsReadAt {} wrappedSending 1 wrappedTransfer ∧
    wrappedTransfer.value.length < wrappedSending.value.length ∧
    (1 : UInt64).toNat + wrappedTransfer.value.length ≤ wrappedSending.value.length := by
  have hmessage : Message.ofAny wrappedSending =
      .ok (.known (.interchainAccounts .sendTx) sending) := by
    rw [@Message.ofAny_of_typeUrl_eq (.interchainAccounts .sendTx) wrappedSending rfl]
    have hdecode : InterchainAccounts.MsgSendTx.shape.decode wrappedSending.value = .ok sending :=
      Wire.Shape.decode_encode _ rfl _ (by decide +kernel)
    show (InterchainAccounts.MsgSendTx.shape.decode wrappedSending.value).map _ = _
    rw [hdecode]
    rfl
  have htransaction : InterchainAccounts.CosmosTx.shape.decode
      (InterchainAccounts.CosmosTx.shape.encode ⟨[wrappedTransfer]⟩) = .ok ⟨[wrappedTransfer]⟩ :=
    Wire.Shape.decode_encode _ rfl _ (by decide +kernel)
  have hasks :
      Message.AsksFor {} (.known (.interchainAccounts .sendTx) sending) wrappedTransfer := by
    refine .carried (.sendTx rfl) ?_
    rw [InterchainAccounts.messagesOf, htransaction]
    exact List.mem_singleton_self _
  have hread := IsReadAt.outermost.wrapped hmessage hasks (by decide)
  obtain ⟨hshorter, -, -, -, -, -, hdepth⟩ :=
    nesting_bounded_by_length {} ⟨100, ⟨1700000000, 0⟩⟩ 0 .success
  exact ⟨hread, hshorter _ _ _ hmessage hasks, (hdepth _ _ _ hread).2.1⟩

end Reading

end ChainRecord
