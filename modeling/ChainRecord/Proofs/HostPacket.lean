import ChainRecord.Proofs.Base64
import ChainRecord.Proofs.Json.Exactness
import ChainRecord.Proofs.Wire.Varint
import ChainRecord.Proofs.WrappedMessages

/-!
# Packets to interchain accounts in their three forms

Packet data reaches an archive in three forms: in the wire form, as a JSON object, and in a message
that sends it. All three are recorded as the same packet (`packet_of_each_form`).

The two forms of a payload are told apart by trying JSON first, so a payload in wire form must not
be a JSON object. It is none, because of how it begins: the keys of the three fields are neither
blanks nor a brace (`head_encode`), and a JSON object begins with one of these. The order of the
fields matters for this, since the key of bytes in the first field would be a line end.

In JSON the transaction is in base 64, which is read back for all bytes, and the memo is any string,
with its characters written in whichever way. The type is a number, or a name where the number has
one; the wire form has only the number. All of them are recorded by name or else by number.
-/

namespace ChainRecord.Wire

/-- A field is left out, or it begins with its key. -/
theorem Kind.write_number_cases {β : Type} (numeric : Numeric β) (number : Nat) (value : β) :
    (Kind.number numeric).write number value = [] ∨
      ∃ rest, (Kind.number numeric).write number value = writeKey number .varint ++ rest := by
  rw [Kind.write]
  split
  · exact Or.inl rfl
  · exact Or.inr ⟨_, rfl⟩

theorem Kind.write_text_cases {β : Type} (textual : Textual β) (number : Nat) (value : β) :
    (Kind.text textual).write number value = [] ∨
      ∃ rest, (Kind.text textual).write number value =
        writeKey number .lengthDelimited ++ rest := by
  rw [Kind.write]
  split
  · exact Or.inl rfl
  · exact Or.inr ⟨_, rfl⟩

end ChainRecord.Wire

namespace ChainRecord.InterchainAccounts

open Reading

/-! ### Packet data in JSON -/

/-- A JSON value stands for the type of a packet. -/
inductive PacketTypeForm (packetType : Int32) : Json → Prop
  /-- By number, whether or not that has a name. -/
  | number : PacketTypeForm packetType (.ofInt packetType.toInt)
  /-- By the name of zero. -/
  | unspecified : packetType = 0 → PacketTypeForm packetType (.string "TYPE_UNSPECIFIED")
  /-- By the name of one. -/
  | executeTx : packetType = 1 → PacketTypeForm packetType (.string "TYPE_EXECUTE_TX")

/-- The members of a JSON object say packet data. There may be other members, and the order does not
matter. -/
structure SaysPacketData (members : Json.Members) (data : InterchainAccountPacketData) : Prop where
  transaction : Json.Binds members "data" (.string (Base64.encode data.data))
  memo : Json.Binds members "memo" (.string data.memo)
  packetType : ∃ value, Json.Binds members "type" value ∧ PacketTypeForm data.packetType value

/-- Whichever way a type is written, it is recorded like its number. -/
theorem PacketTypeForm.packetTypeOf_eq {packetType : Int32} {value : Json}
    (h : PacketTypeForm packetType value) :
    packetTypeOf (some value) = packetTypeName packetType.toInt := by
  cases h with
  | number => rfl
  | unspecified h => rw [h]; rfl
  | executeTx h => rw [h]; rfl

variable {data : InterchainAccountPacketData}

theorem SaysPacketData.packetOfMembers?_eq {members : Json.Members}
    (h : SaysPacketData members data) (scope : Scope) :
    packetOfMembers? scope members = some (packetOf scope data) := by
  obtain ⟨value, hvalue, hform⟩ := h.packetType
  rw [packetOfMembers?, h.transaction.text_eq, Base64.decode?_encode, Option.map_some,
    h.memo.text_eq, hvalue.lookup?_eq_some, hform.packetTypeOf_eq, packetOf]

/-! ### Packet data in wire form -/

/-- Packet data begins with the key of one of its fields, if it is not empty. -/
theorem head_encode (data : InterchainAccountPacketData) :
    ∀ b ∈ (InterchainAccountPacketData.shape.encode data).head?, b ∈ [8, 18, 26] := by
  have hkeys : Wire.writeKey 1 .varint = [8] ∧ Wire.writeKey 2 .lengthDelimited = [18] ∧
      Wire.writeKey 3 .lengthDelimited = [26] :=
    ⟨Wire.writeVarint_of_lt (by decide), Wire.writeVarint_of_lt (by decide),
      Wire.writeVarint_of_lt (by decide)⟩
  have hencode : InterchainAccountPacketData.shape.encode data =
      Wire.Kind.int32.write 1 data.packetType ++
        (Wire.Kind.bytes.write 2 data.data ++ (Wire.Kind.string.write 3 data.memo ++ [])) := rfl
  rw [hencode]
  rcases Wire.Kind.write_number_cases .int32 1 data.packetType with htype | ⟨rest, htype⟩
  · rw [htype, List.nil_append]
    rcases Wire.Kind.write_text_cases .bytes 2 data.data with hdata | ⟨rest, hdata⟩
    · rw [hdata, List.nil_append]
      rcases Wire.Kind.write_text_cases .string 3 data.memo with hmemo | ⟨rest, hmemo⟩
      · rw [hmemo]
        exact nofun
      · rw [hmemo, hkeys.2.2]
        rintro b ⟨⟩
        decide
    · rw [hdata, hkeys.2.1]
      rintro b ⟨⟩
      decide
  · rw [htype, hkeys.1]
    rintro b ⟨⟩
    decide

/-- Packet data in wire form is no JSON object. -/
theorem membersOfBytes?_encode (data : InterchainAccountPacketData) :
    Json.membersOfBytes? (InterchainAccountPacketData.shape.encode data) = none := by
  rw [Option.eq_none_iff_forall_ne_some]
  intro members h
  obtain ⟨b, rest, hbytes, hb⟩ := Json.exists_head_of_membersOfBytes? h
  have hkey : b ∈ [8, 18, 26] := head_encode data b (by rw [hbytes]; rfl)
  have hnone : ∀ b ∈ ([8, 18, 26] : Bytes), b ∉ ([0x20, 0x09, 0x0d, 0x0a, 0x7b] : Bytes) := by
    simp
  exact hnone b hkey hb

theorem packetOfPayload?_encode (scope : Scope)
    (hsize : (InterchainAccountPacketData.shape.encode data).length < 2 ^ 31) :
    packetOfPayload? scope (InterchainAccountPacketData.shape.encode data) =
      some (packetOf scope data) := by
  have hdecode := Wire.Shape.decode_encode InterchainAccountPacketData.shape rfl data
    (hsize.trans (by decide))
  rw [packetOfPayload?, membersOfBytes?_encode, hdecode]
  rfl

/-! ### The three forms -/

/-- **The three forms of packet data are recorded as one packet.** It has the name of the type,
which is its number where it has none, the memo, and an entry for each message of the transaction.
This is what becomes of the canonical wire form, of every text of a JSON object that says the packet
data, and of a message that sends them. -/
theorem packet_of_each_form (scope : Scope) (data : InterchainAccountPacketData)
    (hsize : (InterchainAccountPacketData.shape.encode data).length < 2 ^ 31) :
    ∃ packet,
      packet = .interchainAccount (packetTypeName data.packetType.toInt) data.memo
        ((messagesOf data.data).map scope.nested) ∧
      packetOfPayload? scope (InterchainAccountPacketData.shape.encode data) = some packet ∧
      (∀ members text, Json.TextForm (.object members) text → SaysPacketData members data →
        packetOfPayload? scope (Wire.Textual.toBytes .string text) = some packet) ∧
      ∀ m : MsgSendTx, m.packetData = some data → (read scope .sendTx m).packet = some packet := by
  refine ⟨packetOf scope data, ?_, packetOfPayload?_encode scope hsize, ?_, ?_⟩
  · rw [packetOf, nestedMessages_eq]
  · intro members text htext hsays
    rw [packetOfPayload?, Json.membersOfBytes?_eq_some htext]
    exact hsays.packetOfMembers?_eq scope
  · intro m hm
    show m.packetData.map (packetOf scope) = _
    rw [hm, Option.map_some]

/-- A transaction of one empty message, with a memo that needs most of the ways in which characters
can be written. -/
def greeting : InterchainAccountPacketData :=
  ⟨1, [10, 0], "ü😀\n\"/"⟩

/-- The same in JSON, with the type by name. -/
def greetingText : String :=
  "\x7b \"type\": \"TYPE_EXECUTE_TX\", \"memo\": \"\\u00fc\\ud83D\\uDE00\\n\\\"/\"" ++
    ", \"data\": \"CgA=\" \x7d"

/-- The members of the text. -/
def greetingMembers : Json.Members :=
  [("type", .string "TYPE_EXECUTE_TX"), ("memo", .string greeting.memo), ("data", .string "CgA=")]

theorem textForm_greetingText : Json.TextForm (.object greetingMembers) greetingText := by
  have hstrings : (Json.ofText? greetingText).bind Json.stringsOf? =
      some [("type", "TYPE_EXECUTE_TX"), ("memo", greeting.memo), ("data", "CgA=")] := by
    decide +kernel
  exact Json.textForm_of_stringsOf? hstrings

theorem saysPacketData_greeting : SaysPacketData greetingMembers greeting where
  transaction := by
    have hencode : Base64.encode greeting.data = "CgA=" := by decide +kernel
    rw [hencode]
    exact ⟨greetingMembers.take 2, [], rfl, by simp⟩
  memo := ⟨greetingMembers.take 1, greetingMembers.drop 2, rfl, by simp [greetingMembers]⟩
  packetType := ⟨_, ⟨[], greetingMembers.drop 1, rfl, by simp [greetingMembers]⟩, .executeTx rfl⟩

/-- The three forms of the transaction are recorded as one packet with its memo. -/
theorem packet_of_each_form_greeting :
    (InterchainAccountPacketData.shape.encode greeting).length < 2 ^ 31 ∧
    ∃ packet,
      packet = .interchainAccount "TYPE_EXECUTE_TX" "ü😀\n\"/"
        [(outermost {} ⟨100, ⟨1700000000, 0⟩⟩ 0 .success).nested ⟨"", []⟩] ∧
      packetOfPayload? (outermost {} ⟨100, ⟨1700000000, 0⟩⟩ 0 .success)
        (InterchainAccountPacketData.shape.encode greeting) = some packet ∧
      packetOfPayload? (outermost {} ⟨100, ⟨1700000000, 0⟩⟩ 0 .success)
        (Wire.Textual.toBytes .string greetingText) = some packet ∧
      (read (outermost {} ⟨100, ⟨1700000000, 0⟩⟩ 0 .success) .sendTx
        ⟨"owner", "connection-3", some greeting, 0⟩).packet = some packet := by
  have hsize : (InterchainAccountPacketData.shape.encode greeting).length < 2 ^ 31 := by
    decide +kernel
  obtain ⟨packet, hpacket, hwire, hjson, hsend⟩ :=
    packet_of_each_form (outermost {} ⟨100, ⟨1700000000, 0⟩⟩ 0 .success) greeting hsize
  exact ⟨hsize, packet, hpacket, hwire, hjson _ _ textForm_greetingText saysPacketData_greeting,
    hsend _ rfl⟩

end ChainRecord.InterchainAccounts
