import ChainRecord.Proofs.Wire.Varint
import ChainRecord.Wire.Writer
import Mathlib.Order.Nat

/-!
# Runs of readers

A message is read by a loop over its fields, and a packed field by a loop over its numbers. A `Run`
says what such a loop does with bytes that it takes as a whole: which state it starts from, which
one it ends in, and that nothing depends on what follows. Runs compose, and a run is all that the
loop needs to get through its bytes (`readUntil_of_run`).

A `FieldRun` is a run over fields, which in addition says which fields occur. That is what a reader
of several fields has to know to hand each of them to the right place.
-/

namespace ChainRecord.Wire

variable {σ τ : Type}

/-! ### Loops -/

/-- A reader takes bytes as a whole, in rounds of at least one byte, whatever follows them. -/
inductive Run (read : σ → Bytes → Except Fault (σ × Bytes)) : σ → Bytes → σ → Prop
  /-- Nothing is left to take. -/
  | nil (state : σ) : Run read state [] state
  /-- One round, and what follows it. -/
  | cons {state middle final : σ} {front back : Bytes} (hne : front ≠ [])
      (hread : ∀ rest, read state (front ++ rest) = .ok (middle, rest))
      (hback : Run read middle back final) : Run read state (front ++ back) final

variable {read : σ → Bytes → Except Fault (σ × Bytes)}

/-- A loop that still has to read begins with one round. -/
theorem readUntil_succ {stop fuel : Nat} {state : σ} {bytes : Bytes} (h : stop < bytes.length) :
    readUntil stop read (fuel + 1) state bytes =
      (read state bytes).bind fun (state, rest) ↦ readUntil stop read fuel state rest := by
  rw [readUntil, if_neg (by omega)]
  rfl

/-- A loop that has reached its end stays there. -/
theorem readUntil_of_length_le {stop : Nat} {bytes : Bytes} (h : bytes.length ≤ stop) (fuel : Nat)
    (state : σ) : readUntil stop read fuel state bytes = .ok (state, bytes) := by
  cases fuel with
  | zero => rfl
  | succ fuel => rw [readUntil, if_pos h]

/-- A loop gets through the bytes of a run and goes on behind them. -/
theorem readUntil_run_append {state final : σ} {bytes : Bytes} (h : Run read state bytes final)
    {stop : Nat} {rest : Bytes} (hstop : stop ≤ rest.length) {fuel : Nat}
    (hfuel : bytes.length ≤ fuel) :
    ∃ left, fuel ≤ left + bytes.length ∧
      readUntil stop read fuel state (bytes ++ rest) = readUntil stop read left final rest := by
  induction h generalizing fuel with
  | nil state => exact ⟨fuel, by simp, rfl⟩
  | @cons state middle final front back hne hread hback ih =>
    -- the round takes a byte, so the bytes that are left bound the rounds that are left
    have hfront : 0 < front.length := List.length_pos_iff.2 hne
    rw [List.length_append] at hfuel
    obtain ⟨fuel, rfl⟩ : ∃ k, fuel = k + 1 := ⟨fuel - 1, by omega⟩
    obtain ⟨left, hleft, heq⟩ := @ih fuel (by omega)
    refine ⟨left, by rw [List.length_append]; omega, ?_⟩
    rw [readUntil_succ (by simp only [List.length_append]; omega), List.append_assoc, hread]
    exact heq

/-- A loop that ends behind a run ends in the state of the run. -/
theorem readUntil_of_run {state final : σ} {bytes rest : Bytes} (h : Run read state bytes final)
    {fuel : Nat} (hfuel : bytes.length ≤ fuel) :
    readUntil rest.length read fuel state (bytes ++ rest) = .ok (final, rest) := by
  obtain ⟨left, -, heq⟩ := readUntil_run_append h (le_refl rest.length) hfuel
  rw [heq, readUntil_of_length_le (le_refl _)]

/-- A loop fails where the round behind a run fails. -/
theorem readUntil_error_of_run {state middle : σ} {bytes rest : Bytes} {fault : Fault}
    (h : Run read state bytes middle) {stop : Nat} (hstop : stop < rest.length)
    (hread : read middle rest = .error fault) {fuel : Nat} (hfuel : bytes.length < fuel) :
    readUntil stop read fuel state (bytes ++ rest) = .error fault := by
  obtain ⟨left, hleft, heq⟩ := readUntil_run_append h hstop.le hfuel.le
  obtain ⟨left, rfl⟩ : ∃ k, left = k + 1 := ⟨left - 1, by omega⟩
  rw [heq, readUntil_succ hstop, hread]
  rfl

/-- A run behind a run. -/
theorem Run.append {state middle final : σ} {front back : Bytes} (h : Run read state front middle)
    (hback : Run read middle back final) : Run read state (front ++ back) final := by
  induction h with
  | nil => exact hback
  | cons hne hread _ ih =>
    rw [List.append_assoc]
    exact .cons hne hread (ih hback)

/-- One round is a run. -/
theorem Run.single {state final : σ} {bytes : Bytes} (hne : bytes ≠ [])
    (hread : ∀ rest, read state (bytes ++ rest) = .ok (final, rest)) :
    Run read state bytes final := by
  have h := Run.cons hne hread (Run.nil final)
  rwa [List.append_nil] at h

/-- Rounds that collect items, each of which takes the bytes of one item. -/
theorem Run.collect {α : Type} {read : List α → Bytes → Except Fault (List α × Bytes)}
    {write : α → Bytes} (hne : ∀ a, write a ≠ []) (items : List α)
    (hread : ∀ state, ∀ a ∈ items, ∀ rest, read state (write a ++ rest) = .ok (state ++ [a], rest))
    (state : List α) : Run read state (items.flatMap write) (state ++ items) := by
  induction items generalizing state with
  | nil => simpa using Run.nil state
  | cons a items ih =>
    have hback := ih (fun s b hb ↦ hread s b (List.mem_cons_of_mem a hb)) (state ++ [a])
    rw [List.append_assoc, List.singleton_append] at hback
    exact .cons (hne a) (hread state a (by simp)) hback

/-! ### Keys and lengths -/

theorem WireType.ofCode?_code (wireType : WireType) : ofCode? wireType.code = some wireType := by
  cases wireType <;> rfl

theorem WireType.code_lt (wireType : WireType) : wireType.code < 8 := by
  cases wireType <;> decide

/-- Whether a number is that of a field: it is not zero and has at most twenty-nine bits. -/
def isFieldNumber (number : Nat) : Bool :=
  0 < number && number < 0x20000000

theorem writeKey_ne_nil (number : Nat) (wireType : WireType) : writeKey number wireType ≠ [] :=
  writeVarint_ne_nil _

/-- A key is read back. -/
theorem readKey_writeKey {number : Nat} (h : isFieldNumber number = true) (wireType : WireType)
    (rest : Bytes) :
    readKey (writeKey number wireType ++ rest) = .ok (⟨number, wireType⟩, rest) := by
  simp only [isFieldNumber, Bool.and_eq_true, decide_eq_true_eq] at h
  have hcode := wireType.code_lt
  have hmod : (8 * number + wireType.code) % 8 = wireType.code := by omega
  have hdiv : (8 * number + wireType.code) / 8 = number := by omega
  have hkey : Key.code ⟨number, wireType⟩ = 8 * number + wireType.code := rfl
  rw [readKey, writeKey, hkey, readVarint_writeVarint (by omega)]
  show (if _ then _ else _) = _
  rw [if_neg (by omega), hmod, WireType.ofCode?_code]
  show (if _ then _ else _) = _
  rw [hdiv, if_neg (by omega)]

/-- A field whose key was written is read behind its key. -/
theorem readKeyed_writeKey (readField : Key → σ → Bytes → Except Fault (σ × Bytes)) {number : Nat}
    (h : isFieldNumber number = true) (wireType : WireType) (state : σ) (rest : Bytes) :
    readKeyed readField state (writeKey number wireType ++ rest) =
      readField ⟨number, wireType⟩ state rest := by
  rw [readKeyed, readKey_writeKey h]
  rfl

theorem length_le_writeSized (content : Bytes) : content.length ≤ (writeSized content).length := by
  rw [writeSized, List.length_append]
  omega

/-- A length and bytes are read back. -/
theorem readSized_writeSized {content : Bytes} (h : content.length < 2 ^ 64) (rest : Bytes) :
    readSized (writeSized content ++ rest) = .ok (content, rest) := by
  rw [readSized, writeSized, List.append_assoc, readVarint_writeVarint h]
  show readBytes content.length (content ++ rest) = _
  rw [readBytes, if_neg (by rw [List.length_append]; omega), List.take_left, List.drop_left]

/-- A run of known length is read back. -/
theorem readSpan_writeSized {state final : σ} {content : Bytes} (h : Run read state content final)
    (hsize : content.length < 2 ^ 64) (rest : Bytes) :
    readSpan read state (writeSized content ++ rest) = .ok (final, rest) := by
  rw [readSpan, writeSized, List.append_assoc, readVarint_writeVarint hsize]
  show (if _ then _ else _) = _
  have hstop : (content ++ rest).length - content.length = rest.length := by
    rw [List.length_append]
    omega
  rw [if_neg (by rw [List.length_append]; omega), hstop,
    readUntil_of_run h (by rw [List.length_append]; omega)]
  show (if _ then _ else _) = _
  rw [if_pos rfl]

/-- A run of known length cannot be read if what stands behind its front cannot be read. -/
theorem readSpan_error_of_run {state middle : σ} {front back rest : Bytes} {fault : Fault}
    (h : Run read state front middle) (hback : back ≠ [])
    (hread : read middle (back ++ rest) = .error fault) (hsize : (front ++ back).length < 2 ^ 64) :
    readSpan read state (writeSized (front ++ back) ++ rest) = .error fault := by
  have hpos : 0 < back.length := List.length_pos_iff.2 hback
  have hlength : (front ++ back ++ rest).length = front.length + back.length + rest.length := by
    simp only [List.length_append]
  rw [readSpan, writeSized, List.append_assoc, readVarint_writeVarint hsize]
  show (if _ then _ else _) = _
  rw [if_neg (by rw [List.length_append]; omega)]
  have hloop : readUntil ((front ++ back ++ rest).length - (front ++ back).length) read
      (front ++ back ++ rest).length state (front ++ (back ++ rest)) = .error fault := by
    refine readUntil_error_of_run h ?_ hread (by omega)
    simp only [List.length_append]
    omega
  rw [← List.append_assoc] at hloop
  rw [hloop]
  rfl

/-! ### Fields -/

/-- A reader of fields takes bytes as a whole, field by field, whatever follows them; all fields in
them have numbers of one kind. -/
inductive FieldRun (readField : Key → σ → Bytes → Except Fault (σ × Bytes)) (own : Nat → Prop) :
    σ → Bytes → σ → Prop
  /-- No field is left. -/
  | nil (state : σ) : FieldRun readField own state [] state
  /-- One field, and what follows it. -/
  | cons {number : Nat} {wireType : WireType} {state middle final : σ} {content back : Bytes}
      (hown : own number) (hnumber : isFieldNumber number = true)
      (hread : ∀ rest, readField ⟨number, wireType⟩ state (content ++ rest) = .ok (middle, rest))
      (hback : FieldRun readField own middle back final) :
      FieldRun readField own state (writeKey number wireType ++ content ++ back) final

variable {readField : Key → σ → Bytes → Except Fault (σ × Bytes)} {own : Nat → Prop}

/-- A run over fields is a run of the loop over fields. -/
theorem FieldRun.run {state final : σ} {bytes : Bytes}
    (h : FieldRun readField own state bytes final) :
    Run (readKeyed readField) state bytes final := by
  induction h with
  | nil state => exact .nil state
  | cons _ hnumber hread _ ih =>
    refine .cons (List.append_ne_nil_of_left_ne_nil (writeKey_ne_nil _ _) _) (fun rest ↦ ?_) ih
    rw [List.append_assoc, readKeyed_writeKey readField hnumber]
    exact hread rest

theorem FieldRun.append {state middle final : σ} {front back : Bytes}
    (h : FieldRun readField own state front middle)
    (hback : FieldRun readField own middle back final) :
    FieldRun readField own state (front ++ back) final := by
  induction h with
  | nil => exact hback
  | cons hown hnumber hread _ ih =>
    rw [List.append_assoc]
    exact .cons hown hnumber hread (ih hback)

/-- One field is a run. -/
theorem FieldRun.single {number : Nat} {wireType : WireType} {state final : σ} {content : Bytes}
    (hown : own number) (hnumber : isFieldNumber number = true)
    (hread : ∀ rest, readField ⟨number, wireType⟩ state (content ++ rest) = .ok (final, rest)) :
    FieldRun readField own state (writeKey number wireType ++ content) final := by
  have h := FieldRun.cons hown hnumber hread (FieldRun.nil final)
  rwa [List.append_nil] at h

/-- Fields of one number that collect items, one field for each item. -/
theorem FieldRun.collect {α : Type}
    {readField : Key → List α → Bytes → Except Fault (List α × Bytes)} {number : Nat}
    {wireType : WireType} {write : α → Bytes} (hnumber : isFieldNumber number = true)
    (items : List α)
    (hread : ∀ state, ∀ a ∈ items, ∀ rest,
      readField ⟨number, wireType⟩ state (write a ++ rest) = .ok (state ++ [a], rest))
    (state : List α) :
    FieldRun readField (· = number) state
      (items.flatMap fun a ↦ writeKey number wireType ++ write a) (state ++ items) := by
  induction items generalizing state with
  | nil => simpa using FieldRun.nil state
  | cons a items ih =>
    have hback := ih (fun s b hb ↦ hread s b (List.mem_cons_of_mem a hb)) (state ++ [a])
    rw [List.append_assoc, List.singleton_append] at hback
    exact .cons rfl hnumber (hread state a (by simp)) hback

/-- A run is one of any reader that treats its fields in the same way, on states that stand for the
states of the run. -/
theorem FieldRun.map {readField' : Key → τ → Bytes → Except Fault (τ × Bytes)} {own' : Nat → Prop}
    (f : σ → τ) (hown : ∀ number, own number → own' number)
    (hread : ∀ key state middle bytes rest, own key.number →
      readField key state bytes = .ok (middle, rest) →
        readField' key (f state) bytes = .ok (f middle, rest))
    {state final : σ} {bytes : Bytes} (h : FieldRun readField own state bytes final) :
    FieldRun readField' own' (f state) bytes (f final) := by
  induction h with
  | nil state => exact .nil (f state)
  | cons hmem hnumber hstep _ ih =>
    exact .cons (hown _ hmem) hnumber (fun rest ↦ hread _ _ _ _ _ hmem (hstep rest)) ih

end ChainRecord.Wire
