import ChainRecord.Proofs.ReadFrom
import ChainRecord.Proofs.Registry
import ChainRecord.Reading.Transaction

/-!
# Transactions are read all or nothing

Three things can be wrong with a transaction before its messages are recorded, and a fourth with
what is recorded of a message. They are looked for one after the other, and each of them only where
none of those before it is found. So the error that is reported is that of the first thing that is
wrong, and of the least place where it is wrong in a message (`Decoder.Refuses`). Where nothing is
wrong there is one record for each message, made of that message alone at its own place
(`Decoder.Records`).

Nothing is assumed of the parts of the decoder: not of what reads envelopes, which may find anything
in the bytes, and not of the form of addresses, which has a say in the accounts that sign and in
what is recorded of a message, but in neither of the orders.
-/

namespace ChainRecord

/-! ### Malformed messages -/

namespace Message

/-- A message is of a known type, and its bytes are not of the layout of that type. -/
def IsMalformed (any : Any) (fault : Wire.Fault) : Prop :=
  ∃ kind : Kind, kind.typeUrl = any.typeUrl ∧ kind.shape.decode any.value = .error fault

/-- Only malformed messages cannot be unwrapped, so none of an unknown type. -/
theorem ofAny_eq_error_iff {any : Any} {fault : Wire.Fault} :
    ofAny any = .error fault ↔ IsMalformed any fault := by
  by_cases hknown : ∃ kind : Kind, kind.typeUrl = any.typeUrl
  · obtain ⟨kind, hurl⟩ := hknown
    rw [ofAny_of_typeUrl_eq hurl, map_eq_error_iff]
    constructor
    · intro h
      exact ⟨kind, hurl, h⟩
    · rintro ⟨kind', hurl', h⟩
      obtain rfl := Kind.typeUrl_injective (hurl'.trans hurl.symm)
      exact h
  · have hunknown : ∀ kind : Kind, kind.typeUrl ≠ any.typeUrl := fun kind hurl ↦
      hknown ⟨kind, hurl⟩
    rw [ofAny_of_typeUrl_ne hunknown]
    refine iff_of_false (fun h ↦ nomatch h) ?_
    rintro ⟨kind, hurl, -⟩
    exact hunknown kind hurl

end Message

/-! ### Unwrapping -/

namespace Transaction

theorem unwrapMessages_eq_readFrom (position : Nat) (anys : List Any) :
    unwrapMessages position anys = readFrom unwrapMessage position anys := by
  induction anys generalizing position with
  | nil => rfl
  | cons any anys ih =>
    rw [unwrapMessages, readFrom]
    simp only [ih]

theorem unwrapMessage_eq_ok_iff (position : Nat) (any : Any) (message : Message) :
    unwrapMessage position any = .ok message ↔ Message.ofAny any = .ok message :=
  mapError_eq_ok_iff

theorem unwrapMessage_eq_error_iff {position : Nat} {any : Any} {e : TransactionError} :
    unwrapMessage position any = .error e ↔
      ∃ fault, Message.IsMalformed any fault ∧
        .malformedMessage position any.typeUrl fault = e := by
  simp only [unwrapMessage, mapError_eq_error_iff, Message.ofAny_eq_error_iff]

theorem fails_unwrapMessage_iff {position : Nat} {any : Any} :
    Fails (unwrapMessage position any) ↔ ∃ fault, Message.IsMalformed any fault := by
  simp only [Fails, unwrapMessage_eq_error_iff]
  constructor
  · rintro ⟨e, fault, hfault, -⟩
    exact ⟨fault, hfault⟩
  · rintro ⟨fault, hfault⟩
    exact ⟨_, fault, hfault, rfl⟩

/-- What the messages of an envelope are, one by one. -/
def AreUnwrapped (anys : List Any) (messages : List Message) : Prop :=
  List.Forall₂ (fun any message ↦ Message.ofAny any = .ok message) anys messages

theorem unwrapMessages_eq_ok_iff {anys : List Any} {messages : List Message} :
    unwrapMessages 0 anys = .ok messages ↔ AreUnwrapped anys messages := by
  rw [unwrapMessages_eq_readFrom]
  exact readFrom_eq_ok_iff_forall₂ unwrapMessage_eq_ok_iff

/-- The message at a place is what is wrapped at that place. -/
theorem AreUnwrapped.getElem?_eq_some_iff {anys : List Any} {messages : List Message}
    (h : AreUnwrapped anys messages) {i : Nat} {message : Message} :
    messages[i]? = some message ↔ ∃ any, anys[i]? = some any ∧ Message.ofAny any = .ok message := by
  induction h generalizing i with
  | nil => simp
  | cons hfirst hrest ih =>
    cases i with
    | zero => simp [hfirst]
    | succ i => simpa using ih

/-- All messages are unwrapped unless one is malformed. -/
theorem exists_areUnwrapped_iff {anys : List Any} :
    (∃ messages, AreUnwrapped anys messages) ↔
      ∀ any ∈ anys, ¬ ∃ fault, Message.IsMalformed any fault := by
  simp only [← unwrapMessages_eq_ok_iff]
  rw [← not_fails_iff, unwrapMessages_eq_readFrom, fails_readFrom_iff]
  simp only [fails_unwrapMessage_iff, List.mem_iff_getElem?]
  constructor
  · rintro h any ⟨i, hi⟩ hfault
    exact h ⟨i, any, hi, hfault⟩
  · rintro h ⟨i, any, hi, hfault⟩
    exact h any ⟨i, hi⟩ hfault

/-- The message that is to blame is the first malformed one. -/
theorem unwrapMessages_eq_error_iff {anys : List Any} {e : TransactionError} :
    unwrapMessages 0 anys = .error e ↔
      ∃ i any fault, anys[i]? = some any ∧ Message.IsMalformed any fault ∧
        .malformedMessage i any.typeUrl fault = e ∧
        ∀ j any', j < i → anys[j]? = some any' → ¬ ∃ fault', Message.IsMalformed any' fault' := by
  rw [unwrapMessages_eq_readFrom, readFrom_eq_error_iff]
  simp only [unwrapMessage_eq_error_iff, fails_unwrapMessage_iff, Nat.zero_add]
  constructor
  · rintro ⟨i, any, hi, ⟨fault, hfault, he⟩, hbefore⟩
    exact ⟨i, any, fault, hi, hfault, he, hbefore⟩
  · rintro ⟨i, any, fault, hi, hfault, he, hbefore⟩
    exact ⟨i, any, hi, ⟨fault, hfault, he⟩, hbefore⟩

/-! ### Envelopes -/

variable {d : Decoder} {raw : Bytes}

/-- An envelope holds a transaction if its messages can be unwrapped and its fee is one. -/
theorem exists_ofEnvelope_iff {envelope : Envelope} {messages : List Message} :
    (∃ t, ofEnvelope d envelope = .ok t ∧ t.messages = messages) ↔
      AreUnwrapped envelope.messages messages ∧
        ∃ fee, feeAmount d.settings (feeCoins envelope.authInfo) = .ok fee := by
  rw [← unwrapMessages_eq_ok_iff]
  constructor
  · rintro ⟨t, ht, rfl⟩
    obtain ⟨messages, hmessages, hrest⟩ := bind_eq_ok_iff.1 ht
    obtain ⟨fee, hfee, hrest⟩ := bind_eq_ok_iff.1 hrest
    obtain rfl := Except.ok.inj hrest
    exact ⟨hmessages, fee, mapError_eq_ok_iff.1 hfee⟩
  · rintro ⟨hmessages, fee, hfee⟩
    refine ⟨_, bind_eq_ok_iff.2 ⟨messages, hmessages,
      bind_eq_ok_iff.2 ⟨fee, mapError_eq_ok_iff.2 hfee, rfl⟩⟩, ?_⟩
    rfl

/-- The fee is looked at where all messages have been unwrapped. -/
theorem ofEnvelope_eq_error_iff {envelope : Envelope} {e : TransactionError} :
    ofEnvelope d envelope = .error e ↔
      unwrapMessages 0 envelope.messages = .error e ∨
        (∃ messages, AreUnwrapped envelope.messages messages) ∧
          ∃ e', feeAmount d.settings (feeCoins envelope.authInfo) = .error e' ∧ .fee e' = e := by
  simp only [← unwrapMessages_eq_ok_iff]
  refine bind_eq_error_iff.trans (or_congr_right ?_)
  simp only [bind_ok_eq_error_iff, mapError_eq_error_iff, exists_and_right]

/-- A transaction has the messages of its envelope. -/
theorem exists_ofBytes_iff {messages : List Message} :
    (∃ t, ofBytes d raw = .ok t ∧ t.messages = messages) ↔
      ∃ envelope, d.readEnvelope raw = .ok envelope ∧ AreUnwrapped envelope.messages messages ∧
        ∃ fee, feeAmount d.settings (feeCoins envelope.authInfo) = .ok fee := by
  simp only [← exists_ofEnvelope_iff, ofBytes, bind_eq_ok_iff]
  constructor
  · rintro ⟨t, ⟨envelope, henvelope, ht⟩, hmessages⟩
    exact ⟨envelope, henvelope, t, ht, hmessages⟩
  · rintro ⟨envelope, henvelope, t, ht, hmessages⟩
    exact ⟨t, ⟨envelope, henvelope, ht⟩, hmessages⟩

end Transaction

/-! ### Records -/

namespace Record

variable {d : Decoder} {block : Block} {status : Status}

theorem messagesFrom_eq_readFrom (d : Decoder) (block : Block) (status : Status) (position : Nat)
    (messages : List ChainRecord.Message) :
    messagesFrom d block status position messages =
      readFrom (fun position message ↦ message.record d block position status) position
        messages := by
  induction messages generalizing position with
  | nil => rfl
  | cons message messages ih =>
    rw [messagesFrom, readFrom]
    simp only [ih]

/-- There is one record for each message, that of the message at its place. -/
theorem messagesFrom_eq_ok_iff {messages : List ChainRecord.Message} {records : List Message} :
    messagesFrom d block status 0 messages = .ok records ↔
      records.length = messages.length ∧ ∀ (i : Nat) message record,
        messages[i]? = some message → records[i]? = some record →
          message.record d block i status = .ok record := by
  rw [messagesFrom_eq_readFrom, readFrom_eq_ok_iff]
  simp only [Nat.zero_add]

/-- Messages are recorded unless one is refused. -/
theorem exists_messagesFrom_iff {messages : List ChainRecord.Message} :
    (∃ records, messagesFrom d block status 0 messages = .ok records) ↔
      ∀ (i : Nat) message, messages[i]? = some message →
        ∃ record, message.record d block i status = .ok record := by
  simp only [messagesFrom_eq_readFrom, ← not_fails_iff, fails_readFrom_iff, Nat.zero_add]
  push Not
  exact Iff.rfl

/-- The message that is to blame is the first one that is refused. -/
theorem messagesFrom_eq_error_iff {messages : List ChainRecord.Message} {e : MessageError} :
    messagesFrom d block status 0 messages = .error e ↔
      ∃ (i : Nat) (message : ChainRecord.Message), messages[i]? = some message ∧
        message.record d block i status = .error e ∧
        ∀ j message', j < i → messages[j]? = some message' →
          ∃ record, message'.record d block j status = .ok record := by
  rw [messagesFrom_eq_readFrom, readFrom_eq_error_iff]
  simp only [Nat.zero_add, not_fails_iff]

end Record

/-! ### What can be wrong -/

namespace Decoder

open Transaction (AreUnwrapped feeAmount feeCoins)

variable (d : Decoder) (block : Block) (index : Nat) (raw : Bytes) (status : Status)

/-- Nothing is wrong with an envelope. -/
structure Accepts (envelope : Transaction.Envelope) : Prop where
  wellFormed : ∀ any ∈ envelope.messages, ¬ ∃ fault, Message.IsMalformed any fault
  fee : ∃ fee, feeAmount d.settings (feeCoins envelope.authInfo) = .ok fee
  recorded : ∀ i any message, envelope.messages[i]? = some any → Message.ofAny any = .ok message →
    ∃ record, message.record d block i status = .ok record

/-- A transaction has the messages of an envelope, one by one, and there is the record of each of
them at its place. -/
structure Records (envelope : Transaction.Envelope) (t : Record.BlockTransaction) : Prop where
  index : t.index = index
  unwrapped : AreUnwrapped envelope.messages t.transaction.messages
  length : t.messages.length = t.transaction.messages.length
  recorded : ∀ (i : Nat) message record, t.transaction.messages[i]? = some message →
    t.messages[i]? = some record → message.record d block i status = .ok record

/-- Why bytes are no transaction. Of several reasons the one that comes first here counts, and of
several malformed messages the one at the least place. -/
inductive RefusesTransaction : TransactionError → Prop
  /-- The bytes are no envelope. -/
  | envelope {e : TransactionError} : d.readEnvelope raw = .error e → RefusesTransaction e
  /-- A message is malformed. -/
  | message {envelope : Transaction.Envelope} {i : Nat} {any : Any} {fault : Wire.Fault} :
      d.readEnvelope raw = .ok envelope → envelope.messages[i]? = some any →
      Message.IsMalformed any fault →
      (∀ j any', j < i → envelope.messages[j]? = some any' →
        ¬ ∃ fault', Message.IsMalformed any' fault') →
      RefusesTransaction (.malformedMessage i any.typeUrl fault)
  /-- The coins of the fee are none. -/
  | fee {envelope : Transaction.Envelope} {e : Transaction.FeeError} :
      d.readEnvelope raw = .ok envelope →
      (∀ any ∈ envelope.messages, ¬ ∃ fault, Message.IsMalformed any fault) →
      feeAmount d.settings (feeCoins envelope.authInfo) = .error e → RefusesTransaction (.fee e)

/-- Why bytes are no transaction of a block. Messages are recorded where there is a transaction, and
of several messages without a record the one at the least place counts. -/
inductive Refuses : BlockError → Prop
  /-- The bytes are no transaction. -/
  | transaction {e : TransactionError} : d.RefusesTransaction raw e →
      Refuses (.transaction index e)
  /-- A message has no record. -/
  | record {envelope : Transaction.Envelope} {messages : List Message} {i : Nat}
      {message : Message} {e : MessageError} :
      d.readEnvelope raw = .ok envelope → AreUnwrapped envelope.messages messages →
      (∃ fee, feeAmount d.settings (feeCoins envelope.authInfo) = .ok fee) →
      messages[i]? = some message → message.record d block i status = .error e →
      (∀ j message', j < i → messages[j]? = some message' →
        ∃ record, message'.record d block j status = .ok record) →
      Refuses (.inconsistent index e)

end Decoder

theorem Transaction.ofBytes_eq_error_iff_refuses {d : Decoder} {raw : Bytes}
    {e : TransactionError} : ofBytes d raw = .error e ↔ d.RefusesTransaction raw e := by
  simp only [ofBytes, bind_eq_error_iff, ofEnvelope_eq_error_iff, unwrapMessages_eq_error_iff]
  constructor
  · rintro (h | ⟨envelope, henvelope, ⟨i, any, fault, hi, hfault, rfl, hbefore⟩ |
      ⟨hunwrapped, e', hfee, rfl⟩⟩)
    · exact .envelope h
    · exact .message henvelope hi hfault hbefore
    · exact .fee henvelope (exists_areUnwrapped_iff.1 hunwrapped) hfee
  · intro h
    cases h with
    | envelope h => exact Or.inl h
    | message henvelope hi hfault hbefore =>
      exact Or.inr ⟨_, henvelope, Or.inl ⟨_, _, _, hi, hfault, rfl, hbefore⟩⟩
    | fee henvelope hwellFormed hfee =>
      exact Or.inr ⟨_, henvelope, Or.inr ⟨exists_areUnwrapped_iff.2 hwellFormed, _, hfee, rfl⟩⟩

/-! ### Transactions of a block -/

namespace Record.BlockTransaction

open ChainRecord.Transaction (exists_ofBytes_iff exists_areUnwrapped_iff)

variable {d : Decoder} {block : Block} {index : Nat} {raw : Bytes} {status : Status}

/-- What is read is a transaction with the records of its messages. -/
theorem ofBytes_eq_ok_iff {t : BlockTransaction} :
    ofBytes d block index raw status = .ok t ↔
      t.index = index ∧ ChainRecord.Transaction.ofBytes d raw = .ok t.transaction ∧
        messagesFrom d block status 0 t.transaction.messages = .ok t.messages := by
  constructor
  · intro h
    obtain ⟨transaction, htransaction, hrest⟩ := bind_eq_ok_iff.1 h
    obtain ⟨messages, hmessages, hrest⟩ := bind_eq_ok_iff.1 hrest
    obtain rfl := Except.ok.inj hrest
    exact ⟨rfl, mapError_eq_ok_iff.1 htransaction, mapError_eq_ok_iff.1 hmessages⟩
  · rintro ⟨rfl, htransaction, hmessages⟩
    exact bind_eq_ok_iff.2 ⟨_, mapError_eq_ok_iff.2 htransaction,
      bind_eq_ok_iff.2 ⟨_, mapError_eq_ok_iff.2 hmessages, rfl⟩⟩

theorem ofBytes_eq_error_iff {e : BlockError} :
    ofBytes d block index raw status = .error e ↔
      (∃ e', ChainRecord.Transaction.ofBytes d raw = .error e' ∧ .transaction index e' = e) ∨
        ∃ t, ChainRecord.Transaction.ofBytes d raw = .ok t ∧
          ∃ e', messagesFrom d block status 0 t.messages = .error e' ∧
            .inconsistent index e' = e := by
  refine bind_eq_error_iff.trans ?_
  simp only [mapError_eq_error_iff, mapError_eq_ok_iff, bind_ok_eq_error_iff]

theorem exists_ofBytes_iff_accepts :
    (∃ t, ofBytes d block index raw status = .ok t) ↔
      ∃ envelope, d.readEnvelope raw = .ok envelope ∧ d.Accepts block status envelope := by
  constructor
  · rintro ⟨t, ht⟩
    obtain ⟨-, htransaction, hrecords⟩ := ofBytes_eq_ok_iff.1 ht
    obtain ⟨envelope, henvelope, hunwrapped, hfee⟩ :=
      exists_ofBytes_iff.1 ⟨t.transaction, htransaction, rfl⟩
    refine ⟨envelope, henvelope, exists_areUnwrapped_iff.1 ⟨_, hunwrapped⟩, hfee,
      fun i any message hany hmessage ↦ ?_⟩
    have hi := hunwrapped.getElem?_eq_some_iff.2 ⟨any, hany, hmessage⟩
    exact exists_messagesFrom_iff.1 ⟨_, hrecords⟩ i message hi
  · rintro ⟨envelope, henvelope, haccepts⟩
    obtain ⟨messages, hunwrapped⟩ := exists_areUnwrapped_iff.2 haccepts.wellFormed
    obtain ⟨transaction, htransaction, rfl⟩ :=
      exists_ofBytes_iff.2 ⟨envelope, henvelope, hunwrapped, haccepts.fee⟩
    obtain ⟨records, hrecords⟩ := exists_messagesFrom_iff.2 fun i message hi ↦ by
      obtain ⟨any, hany, hmessage⟩ := hunwrapped.getElem?_eq_some_iff.1 hi
      exact haccepts.recorded i any message hany hmessage
    exact ⟨⟨index, transaction, records⟩, ofBytes_eq_ok_iff.2 ⟨rfl, htransaction, hrecords⟩⟩

theorem records_of_ofBytes {t : BlockTransaction} (h : ofBytes d block index raw status = .ok t) :
    ∃ envelope, d.readEnvelope raw = .ok envelope ∧ d.Records block index status envelope t := by
  obtain ⟨hindex, htransaction, hrecords⟩ := ofBytes_eq_ok_iff.1 h
  obtain ⟨envelope, henvelope, hunwrapped, -⟩ :=
    exists_ofBytes_iff.1 ⟨t.transaction, htransaction, rfl⟩
  obtain ⟨hlength, hitems⟩ := messagesFrom_eq_ok_iff.1 hrecords
  exact ⟨envelope, henvelope, hindex, hunwrapped, hlength, hitems⟩

theorem ofBytes_eq_error_iff_refuses {e : BlockError} :
    ofBytes d block index raw status = .error e ↔ d.Refuses block index raw status e := by
  rw [ofBytes_eq_error_iff]
  simp only [ChainRecord.Transaction.ofBytes_eq_error_iff_refuses, messagesFrom_eq_error_iff]
  constructor
  · rintro (⟨e', h, rfl⟩ | ⟨t, ht, e', ⟨i, message, hi, hrecord, hbefore⟩, rfl⟩)
    · exact .transaction h
    · obtain ⟨envelope, henvelope, hunwrapped, hfee⟩ := exists_ofBytes_iff.1 ⟨t, ht, rfl⟩
      exact .record henvelope hunwrapped hfee hi hrecord hbefore
  · intro h
    cases h with
    | transaction h => exact Or.inl ⟨_, h, rfl⟩
    | record henvelope hunwrapped hfee hi hrecord hbefore =>
      obtain ⟨t, ht, rfl⟩ := exists_ofBytes_iff.2 ⟨_, henvelope, hunwrapped, hfee⟩
      exact Or.inr ⟨t, ht, _, ⟨_, _, hi, hrecord, hbefore⟩, rfl⟩

/-- **All or nothing.** Whatever the decoder is, a transaction of a block is read if nothing is
wrong with its envelope, and then each of its messages is recorded as it is by itself at its place.
Otherwise what is reported is the first thing that is wrong, with the index of the transaction: the
envelope, the first malformed message, the fee, and last the first message that has no record. -/
theorem ofBytes_allOrNothing (d : Decoder) (block : Block) (index : Nat) (raw : Bytes)
    (status : Status) :
    ((∃ t, ofBytes d block index raw status = .ok t) ↔
      ∃ envelope, d.readEnvelope raw = .ok envelope ∧ d.Accepts block status envelope) ∧
    (∀ t, ofBytes d block index raw status = .ok t →
      ∃ envelope, d.readEnvelope raw = .ok envelope ∧ d.Records block index status envelope t) ∧
    ∀ e, ofBytes d block index raw status = .error e ↔ d.Refuses block index raw status e :=
  ⟨exists_ofBytes_iff_accepts, fun _ ↦ records_of_ofBytes, fun _ ↦ ofBytes_eq_error_iff_refuses⟩

/-- A decoder that finds one envelope in all bytes. -/
def finding (messages : List Any) (coins : List Coin) : Decoder where
  readEnvelope _ := .ok ⟨messages, none, none, ⟨[], some ⟨coins, 0, "", ""⟩, none⟩⟩

/-- It finds a message of an unknown type and a release of a validator. -/
def findingRelease : Decoder :=
  finding [⟨"/strange.Msg", [255]⟩, ⟨"/cosmos.slashing.v1beta1.MsgUnjail", []⟩] [⟨"utia", "7"⟩]

/-- It finds two malformed releases behind a message of an unknown type, and a fee that is none. -/
def findingMalformed : Decoder :=
  finding
    [⟨"/strange.Msg", [255]⟩, ⟨"/cosmos.slashing.v1beta1.MsgUnjail", [255]⟩,
      ⟨"/cosmos.slashing.v1beta1.MsgUnjail", [7]⟩]
    [⟨"strange", "7"⟩]

/-- The release is recorded behind the unknown message. Where it is malformed, the transaction is
refused for it, and neither for what is behind it nor for the fee. -/
theorem ofBytes_allOrNothing_release :
    (∃ t envelope, ofBytes findingRelease ⟨7, ⟨0, 0⟩⟩ 3 [] .success = .ok t ∧
      findingRelease.Records ⟨7, ⟨0, 0⟩⟩ 3 .success envelope t) ∧
    ∃ fault, ofBytes findingMalformed ⟨7, ⟨0, 0⟩⟩ 3 [] .success =
      .error (.transaction 3 (.malformedMessage 1 "/cosmos.slashing.v1beta1.MsgUnjail" fault)) := by
  constructor
  · obtain ⟨-, hrecords, -⟩ := ofBytes_allOrNothing findingRelease ⟨7, ⟨0, 0⟩⟩ 3 [] .success
    have hread : ¬ Fails (ofBytes findingRelease ⟨7, ⟨0, 0⟩⟩ 3 [] .success) := by decide +kernel
    obtain ⟨t, ht⟩ := not_fails_iff.1 hread
    obtain ⟨envelope, -, henvelope⟩ := hrecords t ht
    exact ⟨t, envelope, ht, henvelope⟩
  · obtain ⟨-, -, hrefuses⟩ := ofBytes_allOrNothing findingMalformed ⟨7, ⟨0, 0⟩⟩ 3 [] .success
    have hdecode : Fails (Slashing.MsgUnjail.shape.decode [255]) := by decide +kernel
    obtain ⟨fault, hfault⟩ := hdecode
    have hmalformed : ChainRecord.Message.IsMalformed
        ⟨"/cosmos.slashing.v1beta1.MsgUnjail", [255]⟩ fault :=
      ⟨.slashing .unjail, rfl, hfault⟩
    have hunknown :
        ¬ ∃ fault', ChainRecord.Message.IsMalformed ⟨"/strange.Msg", [255]⟩ fault' := by
      simp only [← ChainRecord.Message.ofAny_eq_error_iff]
      exact (by decide +kernel : ¬ Fails (ChainRecord.Message.ofAny ⟨"/strange.Msg", [255]⟩))
    refine ⟨fault, (hrefuses _).2 (.transaction (.message rfl ?_ hmalformed ?_))⟩
    · rfl
    · intro j any hj hany
      obtain rfl : j = 0 := by omega
      obtain rfl := Option.some.inj hany
      exact hunknown

end Record.BlockTransaction

end ChainRecord
