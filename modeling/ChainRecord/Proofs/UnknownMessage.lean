import ChainRecord.Proofs.AllOrNothing
import ChainRecord.Proofs.PlainTransaction
import ChainRecord.Proofs.Stamp

/-!
# Messages of unknown types

A message of a type that is not in the table changes nothing but the places of the messages behind
it. A transaction with such a message inserted is read where it is read without it; it pays the same
fee and has the same signers, and beside the records of the other messages it has one that says that
there was a message (`Record.BlockTransaction.ofBytes_insertIdx`). Where it is refused, it is
refused for the same reason.

Messages are read one after the other by their places, when they are unwrapped and again when they
are recorded. Both loops are one (`readFrom`), and what an inserted item does to it is proved once
(`alike_readFrom_insertIdx`).

What is the form of envelopes and that of addresses is of no importance here, so the result holds
for every decoder: of an unknown message nobody is known to sign, and in its record no text is taken
for an address.
-/

namespace ChainRecord

open Reading

/-! ### Insertions -/

/-- The place of a message when another one is inserted at a place. -/
def placeAfterInsert (inserted position : Nat) : Nat :=
  if position < inserted then position else position + 1

theorem placeAfterInsert_of_lt {inserted position : Nat} (h : position < inserted) :
    placeAfterInsert inserted position = position := if_pos h

theorem placeAfterInsert_of_le {inserted position : Nat} (h : inserted ≤ position) :
    placeAfterInsert inserted position = position + 1 := if_neg (by omega)

/-- One list is the other with an item inserted at a place, behind which items are moved. -/
def IsInsertion {β : Type} (k : Nat) (item : β) (move : β → β) (items items' : List β) : Prop :=
  ∃ front back, front.length = k ∧ items = front ++ back ∧ items' = front ++ item :: back.map move

theorem IsInsertion.eq_insertIdx {β : Type} {k : Nat} {item : β} {items items' : List β}
    (h : IsInsertion k item id items items') :
    k ≤ items.length ∧ items' = items.insertIdx k item := by
  obtain ⟨front, back, rfl, rfl, rfl⟩ := h
  refine ⟨by simp, ?_⟩
  induction front with
  | nil => simp
  | cons a front ih => simpa using ih

theorem IsInsertion.cons {β : Type} {k : Nat} {item : β} {move : β → β} {items items' : List β}
    (h : IsInsertion k item move items items') (b : β) :
    IsInsertion (k + 1) item move (b :: items) (b :: items') := by
  obtain ⟨front, back, rfl, rfl, rfl⟩ := h
  exact ⟨b :: front, back, rfl, rfl, rfl⟩

/-- The same error when a message is inserted. -/
def TransactionError.afterInsert (inserted : Nat) : TransactionError → TransactionError
  | .malformedMessage position typeUrl fault =>
    .malformedMessage (placeAfterInsert inserted position) typeUrl fault
  | .envelope e => .envelope e
  | .fee e => .fee e

/-- The same error when a message is inserted. -/
def MessageError.afterInsert (inserted : Nat) (e : MessageError) : MessageError :=
  { e with position := placeAfterInsert inserted e.position }

/-- The same error when a message is inserted. -/
def BlockError.afterInsert (inserted : Nat) : BlockError → BlockError
  | .transaction index e => .transaction index (e.afterInsert inserted)
  | .inconsistent index e => .inconsistent index (e.afterInsert inserted)

/-! ### Reading by place -/

section ReadFrom

variable {ε α β : Type} {read : Nat → α → Except ε β} {E : ε → ε → Prop} {move : β → β}

/-- Items that are read alike one place further on are so all together. -/
theorem alike_readFrom_succ {start : Nat}
    (hread : ∀ position a, start ≤ position →
      Alike E (fun b b' ↦ b' = move b) (read position a) (read (position + 1) a))
    {position : Nat} (hposition : start ≤ position) (items : List α) :
    Alike E (fun bs bs' ↦ bs' = bs.map move) (readFrom read position items)
      (readFrom read (position + 1) items) := by
  induction items generalizing position with
  | nil => exact .ok rfl
  | cons a items ih =>
    refine (hread position a hposition).bind fun b b' hb ↦ ?_
    refine (ih (Nat.le_succ_of_le hposition)).bind fun bs bs' hbs ↦ .ok ?_
    rw [hb, hbs, List.map_cons]

/-- An item that can be read at its place leaves the items in front of it as they are, and moves
those behind it by one place. -/
theorem alike_readFrom_insertIdx {inserted : Nat} {item : α} {new : β}
    (hnew : read inserted item = .ok new)
    (hfront : ∀ position a e, position < inserted → read position a = .error e → E e e)
    (hback : ∀ position a, inserted ≤ position →
      Alike E (fun b b' ↦ b' = move b) (read position a) (read (position + 1) a))
    {position k : Nat} (hposition : position + k = inserted) {items : List α}
    (hk : k ≤ items.length) :
    Alike E (IsInsertion k new move) (readFrom read position items)
      (readFrom read position (items.insertIdx k item)) := by
  induction k generalizing position items with
  | zero =>
    obtain rfl : position = inserted := hposition
    -- the item is read at its place, and all others stand one place further on
    have hitems := alike_readFrom_succ hback (Nat.le_refl position) items
    rw [List.insertIdx_zero, readFrom, hnew]
    show Alike E _ (readFrom read position items)
      (readFrom read (position + 1) items >>= fun bs ↦ .ok (new :: bs))
    generalize readFrom read position items = run at hitems ⊢
    generalize readFrom read (position + 1) items = run' at hitems ⊢
    cases hitems with
    | error he => exact .error he
    | ok h => exact .ok ⟨[], _, rfl, rfl, congrArg (new :: ·) h⟩
  | succ k ih =>
    cases items with
    | nil => exact absurd hk (by simp)
    | cons a items =>
      rw [List.insertIdx_succ_cons, readFrom, readFrom]
      -- an item in front is read at the same place in both runs
      cases ha : read position a with
      | error e => exact .error (hfront position a e (by omega) ha)
      | ok b =>
        have htail := ih (by omega : position + 1 + k = inserted) (Nat.le_of_succ_le_succ hk)
        exact htail.bind fun bs bs' h ↦ .ok (h.cons b)

end ReadFrom

/-! ### Unwrapping -/

/-- Two records of transactions are the same but for a message of an unknown type that is inserted
at a place. -/
structure Record.Transaction.GainsUnknown (k : Nat) (any : Any) (t t' : Record.Transaction) :
    Prop where
  timeoutHeight : t'.timeoutHeight = t.timeoutHeight
  memo : t'.memo = t.memo
  authInfo : t'.authInfo = t.authInfo
  fee : t'.fee = t.fee
  gasWanted : t'.gasWanted = t.gasWanted
  signers : t'.signers = t.signers
  messages : IsInsertion k (.unknown any) id t.messages t'.messages

namespace Transaction

/-- A message of an unknown type is unwrapped to itself, and the others are unwrapped as they are
without it. -/
theorem alike_unwrapMessages_insertIdx {k : Nat} {anys : List Any} (hk : k ≤ anys.length)
    {any : Any} (hany : ∀ kind : Message.Kind, kind.typeUrl ≠ any.typeUrl) :
    Alike (fun e e' ↦ e' = e.afterInsert k) (IsInsertion k (.unknown any) id)
      (unwrapMessages 0 anys) (unwrapMessages 0 (anys.insertIdx k any)) := by
  rw [unwrapMessages_eq_readFrom, unwrapMessages_eq_readFrom]
  refine alike_readFrom_insertIdx ?_ ?_ ?_ (Nat.zero_add k) hk
  · rw [unwrapMessage, Message.ofAny_of_typeUrl_ne hany]
    rfl
  · intro position a e hposition he
    obtain ⟨fault, -, rfl⟩ := unwrapMessage_eq_error_iff.1 he
    rw [TransactionError.afterInsert, placeAfterInsert_of_lt hposition]
  · intro position a hposition
    rw [unwrapMessage, unwrapMessage]
    cases Message.ofAny a with
    | error fault =>
      refine .error ?_
      rw [TransactionError.afterInsert, placeAfterInsert_of_le hposition]
    | ok message => exact .ok rfl

theorem alike_ofEnvelope_insertIdx (d : Decoder) (envelope : Envelope) {k : Nat}
    (hk : k ≤ envelope.messages.length) {any : Any}
    (hany : ∀ kind : Message.Kind, kind.typeUrl ≠ any.typeUrl) :
    Alike (fun e e' ↦ e' = e.afterInsert k) (Record.Transaction.GainsUnknown k any)
      (ofEnvelope d envelope)
      (ofEnvelope d { envelope with messages := envelope.messages.insertIdx k any }) := by
  refine (alike_unwrapMessages_insertIdx hk hany).bind fun messages messages' hmessages ↦ ?_
  have hsigners : messages'.flatMap Message.signers = messages.flatMap Message.signers := by
    obtain ⟨front, back, -, rfl, rfl⟩ := hmessages
    rw [List.map_id, List.flatMap_append, List.flatMap_append, List.flatMap_cons]
    rfl
  rw [hsigners]
  dsimp only
  cases feeAmount d.settings (feeCoins envelope.authInfo) with
  | error e => exact .error rfl
  | ok fee => exact .ok ⟨rfl, rfl, rfl, rfl, rfl, rfl, hmessages⟩

end Transaction

/-! ### Recording -/

/-- In one block a message is read alike at all places, executed or not. -/
theorem Message.read_moved_sameBlock (message : Message) (scope : Scope) (position : Nat)
    (status : Status) :
    message.read (scope.moved scope.block position status) = message.read scope := by
  cases message with
  | unknown any => rfl
  | known kind m => cases kind <;> rename_i kind <;> cases kind <;> rfl

/-- The same record at the next place. -/
def Record.Message.moved (r : Record.Message) : Record.Message :=
  { r with position := r.position + 1 }

@[simp] theorem Reading.outermost_position (d : Decoder) (block : Block) (position : Nat)
    (status : Status) : (outermost d block position status).position = position := rfl

/-- The record of a message of an unknown type: nothing is found in it, and its size is not
known. -/
def Record.Message.unknownAt (block : Block) (position : Nat) (any : Any) : Record.Message where
  tag := .unknown
  typeUrl := any.typeUrl
  height := block.height
  time := block.time
  position
  data := (ChainRecord.Message.unknown any).fields
  size := none
  blobsSize := 0
  addresses := []
  internalMessages := []
  packet := none
  entities := .empty

variable (d : Decoder) (block : Block) (status : Status)

theorem Message.record_unknown (any : Any) (position : Nat) :
    (Message.unknown any).record d block position status = .ok (.unknownAt block position any) := by
  cases status <;> rfl

/-- A message is refused at its own place. -/
theorem Message.position_of_record_error {message : Message} {position : Nat} {e : MessageError}
    (h : message.record d block position status = .error e) : e.position = position := by
  obtain ⟨-, hposition, -⟩ := Message.recordIn_eq_error_iff.1 h
  exact hposition

/-- At the next place a message has the same record, or is refused for the same reason. -/
theorem Message.alike_record_succ (message : Message) {k position : Nat} (h : k ≤ position) :
    Alike (fun e e' ↦ e' = e.afterInsert k) (fun r r' ↦ r' = r.moved)
      (message.record d block position status) (message.record d block (position + 1) status) := by
  have hread : message.read (outermost d block (position + 1) status) =
      message.read (outermost d block position status) := by
    rw [outermost_moved d block block position (position + 1) status status]
    exact message.read_moved_sameBlock _ _ _
  rw [Message.record, Message.record, Message.recordIn, Message.recordIn, hread]
  cases message.read (outermost d block position status) with
  | error cause =>
    refine .error ?_
    simp only [MessageError.afterInsert, outermost_position, placeAfterInsert_of_le h]
  | ok found => exact .ok rfl

namespace Record

/-- A message of an unknown type has a record of its own, and the others are recorded as they are
without it. -/
theorem alike_messagesFrom_insert {k : Nat} {any : Any}
    {messages messages' : List ChainRecord.Message}
    (h : IsInsertion k (.unknown any) id messages messages') :
    Alike (fun e e' ↦ e' = e.afterInsert k) (IsInsertion k (.unknownAt block k any) Message.moved)
      (messagesFrom d block status 0 messages) (messagesFrom d block status 0 messages') := by
  obtain ⟨hk, rfl⟩ := h.eq_insertIdx
  rw [messagesFrom_eq_readFrom, messagesFrom_eq_readFrom]
  refine alike_readFrom_insertIdx ?_ ?_ ?_ (Nat.zero_add k) hk
  · exact Message.record_unknown d block status any k
  · intro position message e hposition he
    have hplace := Message.position_of_record_error d block status he
    rw [MessageError.afterInsert, hplace, placeAfterInsert_of_lt hposition, ← hplace]
  · exact fun position message hposition ↦ message.alike_record_succ d block status hposition

namespace BlockTransaction

open ChainRecord.Transaction (Envelope TxBody)

/-- Two records of transactions of a block are the same but for a message of an unknown type that is
inserted at a place. -/
structure GainsUnknown (block : Block) (k : Nat) (any : Any) (t t' : BlockTransaction) : Prop where
  index : t'.index = t.index
  transaction : t.transaction.GainsUnknown k any t'.transaction
  blobsSize : t'.blobsSize = t.blobsSize
  messages : IsInsertion k (.unknownAt block k any) Message.moved t.messages t'.messages

/-- A record of an unknown message counts no blobs, and a place has no say in the blobs. -/
theorem blobsSize_of_isInsertion {k : Nat} {any : Any} {t t' : BlockTransaction}
    (h : IsInsertion k (.unknownAt block k any) Message.moved t.messages t'.messages) :
    t'.blobsSize = t.blobsSize := by
  obtain ⟨front, back, -, hmessages, hmessages'⟩ := h
  have hback : (back.map Message.moved).map (·.blobsSize) = back.map (·.blobsSize) := by
    rw [List.map_map]
    rfl
  have hnone (size : UInt64) : size + (Message.unknownAt block k any).blobsSize = size :=
    UInt64.add_zero size
  rw [blobsSize, blobsSize, hmessages, hmessages', List.map_append, List.map_append, List.map_cons,
    hback, List.foldl_append, List.foldl_append, List.foldl_cons, hnone]

/-- **Unknown messages are inert.** Whatever the decoder is, of two transactions, one of which has
in addition a message of an unknown type, both are refused or both are recorded. Refused, they are
so for one reason, and the place of the message that is to blame is the same up to the insertion.
Recorded, they differ in the record of that message and in the places of the messages behind it,
and in nothing else. -/
theorem ofBytes_insertIdx (index : Nat) {raw raw' : Bytes} {envelope : Envelope} {k : Nat}
    {any : Any} (hraw : d.readEnvelope raw = .ok envelope) (hk : k ≤ envelope.messages.length)
    (hraw' : d.readEnvelope raw' =
      .ok { envelope with messages := envelope.messages.insertIdx k any })
    (hany : ∀ kind : ChainRecord.Message.Kind, kind.typeUrl ≠ any.typeUrl) :
    Alike (fun e e' ↦ e' = e.afterInsert k) (GainsUnknown block k any)
      (ofBytes d block index raw status) (ofBytes d block index raw' status) := by
  have htransaction : Alike (fun e e' ↦ e' = e.afterInsert k)
      (Record.Transaction.GainsUnknown k any) (ChainRecord.Transaction.ofBytes d raw)
      (ChainRecord.Transaction.ofBytes d raw') := by
    rw [ChainRecord.Transaction.ofBytes, ChainRecord.Transaction.ofBytes, hraw, hraw']
    exact ChainRecord.Transaction.alike_ofEnvelope_insertIdx d envelope hk hany
  refine (htransaction.mapError fun e e' h ↦ ?_).bind fun t t' ht ↦ ?_
  · rw [h, BlockError.afterInsert]
  have hmessages := alike_messagesFrom_insert d block status ht.messages
  refine (hmessages.mapError fun e e' h ↦ ?_).bind fun records records' h ↦ .ok ?_
  · rw [h, BlockError.afterInsert]
  exact ⟨rfl, ht, blobsSize_of_isInsertion block h, h⟩

/-- A body with messages and nothing else. -/
def bodyOf (messages : List Any) : TxBody where
  messages
  memo := ""
  timeoutHeight := 0
  extensionOptions := []
  nonCriticalExtensionOptions := []

/-- The canonical form of a transaction with messages and nothing else. -/
def rawOf (messages : List Any) : Bytes :=
  ChainRecord.Transaction.Tx.shape.encode ⟨some (bodyOf messages), some ⟨[], none, none⟩, []⟩

/-- A form of addresses in which every text is one, as its own human readable part and without
bytes. -/
def bareCodec : AddressCodec where
  decode text := some ⟨text, []⟩
  encode humanPart _ := .ok humanPart

/-- A message of an unknown type, whose bytes are no message, stands in front of a release of a
validator that gives no address. Addresses are bare human readable parts. -/
theorem ofBytes_insertIdx_unjail :
    Alike (fun e e' ↦ e' = e.afterInsert 0)
      (GainsUnknown ⟨7, ⟨0, 0⟩⟩ 0 ⟨"/strange.Msg", [255]⟩)
      (ofBytes { addressCodec := bareCodec } ⟨7, ⟨0, 0⟩⟩ 3
        (rawOf [⟨"/cosmos.slashing.v1beta1.MsgUnjail", []⟩]) .success)
      (ofBytes { addressCodec := bareCodec } ⟨7, ⟨0, 0⟩⟩ 3
        (rawOf [⟨"/strange.Msg", [255]⟩, ⟨"/cosmos.slashing.v1beta1.MsgUnjail", []⟩])
        .success) := by
  have henvelope (messages : List Any) (hsize : (rawOf messages).length < 2 ^ 64)
      (hunwrap : ChainRecord.Transaction.unwrap (rawOf messages) = rawOf messages) :
      ChainRecord.Transaction.readEnvelope (rawOf messages) =
        .ok ⟨messages, some "", some 0, ⟨[], none, none⟩⟩ := by
    rw [ChainRecord.Transaction.readEnvelope, rawOf,
      ChainRecord.Transaction.envelope_of_unwrap_eq hsize hunwrap]
    rfl
  refine ofBytes_insertIdx { addressCodec := bareCodec } ⟨7, ⟨0, 0⟩⟩ .success 3
    (henvelope _ (by decide +kernel) (by decide +kernel)) (Nat.zero_le _)
    (henvelope _ (by decide +kernel) (by decide +kernel)) fun kind ↦ ?_
  have hall : ∀ kind ∈ ChainRecord.Message.Kind.all, kind.typeUrl ≠ "/strange.Msg" := by
    decide +kernel
  exact hall kind kind.mem_all

end BlockTransaction

end Record

end ChainRecord
