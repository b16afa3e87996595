import ChainRecord.Record.Namespace
import Mathlib.Logic.Function.Basic
import Mathlib.Tactic.Common

/-!
# Namespaces are kept as they came

The record of a namespace is the namespace: its version and its identifier are the bytes again, and
its hash is their hexadecimal form, which is read back (`Hex.decode?_encode`). So two namespaces
never share a hash, whether or not they are namespaces by the rules of their version.

Who knows these rules reads the bytes first, and only bytes that are refused are split without them.
Both ways lead to the same split, so nothing depends on who reads, as long as the rules are followed
(`FollowsRules`, `ofBytesBy?_eq`).

The reserved namespaces are said by their order, as an initial and a final part of all namespaces.
Said by their bytes they are those of the full length in which only the last byte is free, and all
others are zeros or all others are ones (`isReserved_iff`). For this the rules of versions do not
matter, since each of these namespaces follows them.
-/

namespace ChainRecord

/-! ### Hexadecimal digits -/

namespace Hex

/-- A digit is read as its number. -/
theorem value?_digit {n : Nat} (h : n < 16) : value? (digit n) = some n := by
  have hall : ∀ n : Fin 16, value? (digit n) = some n.val := by decide +kernel
  exact hall ⟨n, h⟩

theorem ofDigits?_digits (bytes : Bytes) : ofDigits? (digits bytes) = some bytes := by
  induction bytes with
  | nil => rfl
  | cons byte bytes ih =>
    have hbyte := byte.toNat_lt
    have hdigits : digits (byte :: bytes) =
        digit (byte.toNat / 16) :: digit (byte.toNat % 16) :: digits bytes := rfl
    have hhalves : 16 * (byte.toNat / 16) + byte.toNat % 16 = byte.toNat := by omega
    rw [hdigits, ofDigits?, value?_digit (by omega), value?_digit (by omega), ih]
    dsimp only
    rw [hhalves, UInt8.ofNat_toNat]

/-- **What is written of a byte string is read back as it.** -/
theorem decode?_encode (bytes : Bytes) : decode? (encode bytes) = some bytes := by
  rw [decode?, encode, String.toList_ofList, ofDigits?_digits]

theorem encode_injective : Function.Injective encode := fun bytes bytes' h ↦ by
  have hread := congrArg decode? h
  rw [decode?_encode, decode?_encode] at hread
  exact Option.some.inj hread

end Hex

namespace Record.Namespace

/-! ### Byte order -/

/-- A byte string is the bound, or stands before it in byte order. -/
def IsUpTo (bytes bound : Bytes) : Prop :=
  bytes = bound ∨ List.Lex (· < ·) bytes bound

theorem isUpTo_cons_iff {a b : UInt8} {as bs : Bytes} :
    IsUpTo (a :: as) (b :: bs) ↔ a < b ∨ a = b ∧ IsUpTo as bs := by
  have hlex : List.Lex (· < ·) (a :: as) (b :: bs) ↔ a < b ∨ a = b ∧ List.Lex (· < ·) as bs :=
    List.cons_lt_cons_iff
  rw [IsUpTo, IsUpTo, List.cons.injEq, hlex]
  tauto

theorem isAtMost_iff {bytes bound : Bytes} : isAtMost bytes bound = true ↔ IsUpTo bytes bound := by
  induction bytes generalizing bound with
  | nil =>
    cases bound with
    | nil => exact iff_of_true rfl (Or.inl rfl)
    | cons b bs => exact iff_of_true rfl (Or.inr .nil)
  | cons a as ih =>
    cases bound with
    | nil => exact iff_of_false nofun (by rintro (h | h) <;> cases h)
    | cons b bs =>
      rw [isUpTo_cons_iff, ← ih, isAtMost]
      simp only [Bool.or_eq_true, Bool.and_eq_true, decide_eq_true_eq]

/-- Up to zeros with one more byte, which is the greatest, are the zeros with one more byte. -/
theorem isUpTo_zeros_iff {n : Nat} {bytes : Bytes} (h : bytes.length = n + 1) :
    IsUpTo bytes (List.replicate n 0 ++ [255]) ↔ ∀ b ∈ bytes.take n, b = 0 := by
  induction n generalizing bytes with
  | zero =>
    obtain ⟨b, rfl⟩ := List.length_eq_one_iff.1 h
    refine iff_of_true ?_ (by simp)
    have hlast : b ≤ 255 := UInt8.le_iff_toNat_le.2 (Nat.le_of_lt_succ b.toNat_lt)
    rw [List.replicate_zero, List.nil_append, isUpTo_cons_iff]
    exact (UInt8.lt_or_eq_of_le hlast).imp_right fun heq ↦ ⟨heq, Or.inl rfl⟩
  | succ n ih =>
    obtain ⟨b, bytes, rfl⟩ := List.exists_cons_of_length_eq_add_one h
    rw [List.replicate_succ, List.cons_append, isUpTo_cons_iff, ih (Nat.succ.inj h),
      List.take_succ_cons, List.forall_mem_cons]
    exact or_iff_right UInt8.not_lt_zero

/-- From ones with one more byte on, which is the least, there are the ones with one more byte. -/
theorem isUpTo_ones_iff {n : Nat} {bytes : Bytes} (h : bytes.length = n + 1) :
    IsUpTo (List.replicate n 255 ++ [0]) bytes ↔ ∀ b ∈ bytes.take n, b = 255 := by
  induction n generalizing bytes with
  | zero =>
    obtain ⟨b, rfl⟩ := List.length_eq_one_iff.1 h
    refine iff_of_true ?_ (by simp)
    have hlast : 0 ≤ b := UInt8.zero_le
    rw [List.replicate_zero, List.nil_append, isUpTo_cons_iff]
    exact (UInt8.lt_or_eq_of_le hlast).imp_right fun heq ↦ ⟨heq, Or.inl rfl⟩
  | succ n ih =>
    obtain ⟨b, bytes, rfl⟩ := List.exists_cons_of_length_eq_add_one h
    have hgreatest : ¬ 255 < b := fun hlt ↦ by
      have hnat := UInt8.lt_iff_toNat_lt.1 hlt
      have hb := b.toNat_lt
      have h255 : (255 : UInt8).toNat = 255 := rfl
      omega
    rw [List.replicate_succ, List.cons_append, isUpTo_cons_iff, ih (Nat.succ.inj h),
      List.take_succ_cons, List.forall_mem_cons, eq_comm]
    exact or_iff_right hgreatest

/-! ### Reserved namespaces -/

/-- Bytes of the length of a namespace, all of which are the same but for the last one. -/
structure IsAllBut (byte : UInt8) (raw : Bytes) : Prop where
  length_eq : raw.length = 29
  eq_of_mem : ∀ b ∈ raw.take 28, b = byte

theorem isAllBut_cons_iff {byte version : UInt8} {identifier : Bytes} :
    IsAllBut byte (version :: identifier) ↔
      identifier.length = 28 ∧ version = byte ∧ ∀ b ∈ identifier.take 27, b = byte := by
  constructor
  · rintro ⟨hlength, hmem⟩
    rw [List.take_succ_cons, List.forall_mem_cons] at hmem
    exact ⟨Nat.succ.inj hlength, hmem⟩
  · rintro ⟨hlength, hmem⟩
    exact ⟨congrArg Nat.succ hlength, by rwa [List.take_succ_cons, List.forall_mem_cons]⟩

theorem isWellFormed_iff {version : UInt8} {identifier : Bytes} :
    isWellFormed version identifier = true ↔ identifier.length = 28 ∧
      (version = 0 ∧ (∀ b ∈ identifier.take 18, b = 0) ∨
        version = 255 ∧ ∀ b ∈ identifier.take 27, b = 255) := by
  simp [isWellFormed, length]

/-- The reserved namespaces are those of zeros and those of ones, but for the last byte. -/
theorem isReserved_iff {version : UInt8} {identifier : Bytes} :
    isReserved version identifier = true ↔
      IsAllBut 0 (version :: identifier) ∨ IsAllBut 255 (version :: identifier) := by
  rw [isReserved, Bool.and_eq_true, Bool.or_eq_true, isWellFormed_iff, isAllBut_cons_iff,
    isAllBut_cons_iff]
  by_cases hlength : identifier.length = 28
  · have hraw : (version :: identifier).length = 28 + 1 := congrArg Nat.succ hlength
    have hlow : isAtMost (version :: identifier) maxPrimaryReserved = true ↔
        version = 0 ∧ ∀ b ∈ identifier.take 27, b = 0 := by
      rw [isAtMost_iff, maxPrimaryReserved, isUpTo_zeros_iff hraw, List.take_succ_cons,
        List.forall_mem_cons]
    have hhigh : isAtMost minSecondaryReserved (version :: identifier) = true ↔
        version = 255 ∧ ∀ b ∈ identifier.take 27, b = 255 := by
      rw [isAtMost_iff, minSecondaryReserved, isUpTo_ones_iff hraw, List.take_succ_cons,
        List.forall_mem_cons]
    -- twenty-eight zeros begin with the zeros that version 0 asks for
    have hzeros : (∀ b ∈ identifier.take 27, b = 0) → ∀ b ∈ identifier.take 18, b = 0 :=
      fun h b hb ↦ h b (List.take_subset_take_left identifier (by decide) hb)
    rw [hlow, hhigh]
    tauto
  · simp only [hlength, false_and, or_self]

/-! ### The rules of the versions -/

/-- Bytes are a namespace by the rules of their version. -/
structure IsNamespace (raw : Bytes) : Prop where
  length_eq : raw.length = 29
  follows : raw.head? = some 0 ∧ (∀ b ∈ (raw.drop 1).take 18, b = 0) ∨
    raw.head? = some 255 ∧ ∀ b ∈ (raw.drop 1).take 27, b = 255

/-- A reader follows the rules: it reads exactly the bytes that are a namespace, splits them behind
the first one, and tells which of them are reserved by their place in byte order. -/
structure FollowsRules (parse : Bytes → Option (UInt8 × Bytes × Bool)) : Prop where
  isSome_iff : ∀ raw, (parse raw).isSome = true ↔ IsNamespace raw
  split_eq : ∀ raw version identifier reserved,
    parse raw = some (version, identifier, reserved) → raw = version :: identifier
  reserved_iff : ∀ raw version identifier reserved,
    parse raw = some (version, identifier, reserved) → (reserved = true ↔
      IsUpTo raw (List.replicate 28 0 ++ [255]) ∨ IsUpTo (List.replicate 28 255 ++ [0]) raw)

/-- The parts of bytes, and whether they are a reserved namespace, as a reader has it. What it
refuses is split behind the first byte and not reserved. -/
def partsBy (parse : Bytes → Option (UInt8 × Bytes × Bool)) (raw : Bytes) :
    Option (UInt8 × Bytes × Bool) :=
  match parse raw with
  | some parts => some parts
  | none =>
    match raw with
    | [] => none
    | version :: identifier => some (version, identifier, false)

/-- The record of a namespace, as a reader has it. -/
def ofBytesBy? (parse : Bytes → Option (UInt8 × Bytes × Bool)) (block : Block) (size : UInt64)
    (raw : Bytes) : Option Namespace :=
  (partsBy parse raw).map fun (version, identifier, reserved) ↦
    { version
      namespaceId := identifier
      size
      pfbCount := 1
      blobsCount := 1
      reserved
      lastHeight := block.height
      lastMessageTime := block.time }

theorem isNamespace_cons_iff {version : UInt8} {identifier : Bytes} :
    IsNamespace (version :: identifier) ↔ isWellFormed version identifier = true := by
  rw [isWellFormed_iff]
  constructor
  · rintro ⟨hlength, hfollows⟩
    refine ⟨Nat.succ.inj hlength, ?_⟩
    simpa using hfollows
  · rintro ⟨hlength, hfollows⟩
    refine ⟨congrArg Nat.succ hlength, ?_⟩
    simpa using hfollows

theorem FollowsRules.partsBy_cons {parse : Bytes → Option (UInt8 × Bytes × Bool)}
    (h : FollowsRules parse) (version : UInt8) (identifier : Bytes) :
    partsBy parse (version :: identifier) =
      some (version, identifier, isReserved version identifier) := by
  have hsome := h.isSome_iff (version :: identifier)
  rw [isNamespace_cons_iff] at hsome
  cases hparse : parse (version :: identifier) with
  | none =>
    have hformed : isWellFormed version identifier = false := by
      rw [hparse] at hsome
      exact Bool.eq_false_iff.2 fun hformed ↦ nomatch hsome.2 hformed
    rw [partsBy, hparse, isReserved, hformed]
    rfl
  | some parts =>
    obtain ⟨version', identifier', reserved⟩ := parts
    have hformed : isWellFormed version identifier = true := hsome.1 (by rw [hparse]; rfl)
    obtain ⟨rfl, rfl⟩ := List.cons.inj (h.split_eq _ _ _ _ hparse)
    have hreserved : reserved = isReserved version identifier := by
      rw [Bool.eq_iff_iff, h.reserved_iff _ _ _ _ hparse, isReserved, hformed, Bool.true_and,
        Bool.or_eq_true, isAtMost_iff, isAtMost_iff, maxPrimaryReserved, minSecondaryReserved]
    rw [partsBy, hparse, hreserved]

/-- **It does not matter who reads.** -/
theorem FollowsRules.ofBytesBy?_eq {parse : Bytes → Option (UInt8 × Bytes × Bool)}
    (h : FollowsRules parse) (block : Block) (size : UInt64) (raw : Bytes) :
    ofBytesBy? parse block size raw = ofBytes? block size raw := by
  cases raw with
  | nil =>
    have hnone : parse [] = none := by
      rw [← Option.not_isSome_iff_eq_none, h.isSome_iff]
      exact fun hempty ↦ nomatch hempty.length_eq
    rw [ofBytesBy?, partsBy, hnone]
    rfl
  | cons version identifier =>
    rw [ofBytesBy?, h.partsBy_cons]
    rfl

/-- A reader that follows the rules. -/
def parseByRules (raw : Bytes) : Option (UInt8 × Bytes × Bool) :=
  match raw with
  | [] => none
  | version :: identifier =>
    if isWellFormed version identifier then
      some (version, identifier,
        isAtMost raw maxPrimaryReserved || isAtMost minSecondaryReserved raw)
    else none

theorem followsRules_parseByRules : FollowsRules parseByRules where
  isSome_iff raw := by
    cases raw with
    | nil => exact iff_of_false nofun fun h ↦ nomatch h.length_eq
    | cons version identifier =>
      rw [isNamespace_cons_iff, parseByRules]
      cases isWellFormed version identifier <;> simp
  split_eq raw version identifier reserved h := by
    cases raw with
    | nil => cases h
    | cons v i =>
      obtain ⟨-, hparts⟩ := Option.ite_none_right_eq_some.1 h
      cases hparts
      rfl
  reserved_iff raw version identifier reserved h := by
    cases raw with
    | nil => cases h
    | cons v i =>
      obtain ⟨-, hparts⟩ := Option.ite_none_right_eq_some.1 h
      cases hparts
      rw [Bool.or_eq_true, isAtMost_iff, isAtMost_iff, maxPrimaryReserved, minSecondaryReserved]

/-! ### Records -/

/-- **Namespaces are recorded without loss.** Whoever reads them by the rules of the versions, any
bytes but none have a record, whose version and identifier are the bytes again. Its hash is their
hexadecimal form, from which they are read back, so no other bytes have it. It is reserved exactly
if there are twenty-nine bytes of which the first twenty-eight are zeros, or are all ones. -/
theorem lossless_of_followsRules (parse : Bytes → Option (UInt8 × Bytes × Bool))
    (hparse : FollowsRules parse) (block : Block) (size : UInt64) (raw : Bytes) (hraw : raw ≠ []) :
    ∃ record, ofBytesBy? parse block size raw = some record ∧
      ofBytes? block size raw = some record ∧
      record.version :: record.namespaceId = raw ∧
      record.hash = Hex.encode raw ∧ Hex.decode? record.hash = some raw ∧
      (∀ block' size' raw' record', ofBytesBy? parse block' size' raw' = some record' →
        record'.hash = record.hash → raw' = raw) ∧
      (record.reserved = true ↔ raw.length = 29 ∧
        ((∀ b ∈ raw.take 28, b = 0) ∨ ∀ b ∈ raw.take 28, b = 255)) := by
  obtain ⟨version, identifier, rfl⟩ := List.exists_cons_of_ne_nil hraw
  refine ⟨_, hparse.ofBytesBy?_eq block size _, rfl, rfl, rfl, Hex.decode?_encode _, ?_, ?_⟩
  · intro block' size' raw' record' hrecord' hhash
    rw [hparse.ofBytesBy?_eq] at hrecord'
    cases raw' with
    | nil => cases hrecord'
    | cons version' identifier' =>
      obtain rfl := Option.some.inj hrecord'
      exact Hex.encode_injective hhash
  · show isReserved version identifier = true ↔ _
    rw [isReserved_iff, and_or_left]
    exact or_congr ⟨fun h ↦ ⟨h.1, h.2⟩, fun h ↦ ⟨h.1, h.2⟩⟩
      ⟨fun h ↦ ⟨h.1, h.2⟩, fun h ↦ ⟨h.1, h.2⟩⟩

/-- The namespace of shares that fill up the last square of a block, the second greatest of all. -/
def tailPadding : Bytes :=
  List.replicate 28 255 ++ [254]

/-- It is kept, and it is reserved. -/
theorem lossless_of_followsRules_tailPadding :
    FollowsRules parseByRules ∧ tailPadding ≠ [] ∧
    ∃ record, ofBytesBy? parseByRules ⟨100, ⟨1700000000, 0⟩⟩ 512 tailPadding = some record ∧
      record.version :: record.namespaceId = tailPadding ∧
      record.hash = Hex.encode tailPadding ∧ record.reserved = true := by
  have hraw : tailPadding ≠ [] := by decide
  obtain ⟨record, hrecord, -, hsplit, hhash, -, -, hreserved⟩ :=
    lossless_of_followsRules parseByRules followsRules_parseByRules ⟨100, ⟨1700000000, 0⟩⟩ 512
      tailPadding hraw
  exact ⟨followsRules_parseByRules, hraw, record, hrecord, hsplit, hhash,
    hreserved.2 ⟨by decide, Or.inr (by decide +kernel)⟩⟩

end Record.Namespace

end ChainRecord
