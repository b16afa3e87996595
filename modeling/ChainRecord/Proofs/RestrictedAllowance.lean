import ChainRecord.Proofs.Refusal
import ChainRecord.Proofs.Stamp
import ChainRecord.Proofs.Wire.RoundTrip

/-!
# Restricted allowances

A fee allowance may be restricted to messages of listed types, by wrapping it. A restriction changes
what is recorded of the allowance itself, which is its field map, and nothing else: a grant of the
restricted allowance expires with the one it wraps (`expiration_restricted`), and where that is no
time both grants are refused for the same reason.

Only one level is looked into, so a restriction of a restriction does not expire. Neither do bytes
that are no allowance of their type, whether they are granted or wrapped; they never make the grant
fail (`NeverExpires`).
-/

namespace ChainRecord

open Reading

namespace Feegrant

/-- A message that grants an allowance. -/
def granting (granter grantee : String) (allowance : Any) : Message :=
  .known (.feegrant .grantAllowance) ⟨granter, grantee, some allowance⟩

/-- An allowance, restricted to messages of the listed types, in canonical form. -/
def restricted (allowance : Any) (urls : List String) : Any where
  typeUrl := restrictedUrl
  value := AllowedMsgAllowance.shape.encode ⟨some allowance, urls⟩

/-- The bytes of an allowance are none of the type it is said to be of. -/
inductive IsMalformed (any : Any) : Prop
  /-- No basic allowance. -/
  | basic : any.typeUrl = "/cosmos.feegrant.v1beta1.BasicAllowance" →
      Fails (BasicAllowance.shape.decode any.value) → IsMalformed any
  /-- No periodic allowance. -/
  | periodic : any.typeUrl = "/cosmos.feegrant.v1beta1.PeriodicAllowance" →
      Fails (PeriodicAllowance.shape.decode any.value) → IsMalformed any
  /-- No restricted allowance. -/
  | restricted : any.typeUrl = restrictedUrl →
      Fails (AllowedMsgAllowance.shape.decode any.value) → IsMalformed any

/-- Reasons for which an allowance does not expire, whatever its bytes seem to say. -/
inductive NeverExpires (any : Any) : Prop
  /-- It is malformed. -/
  | malformed : IsMalformed any → NeverExpires any
  /-- It restricts a malformed allowance. -/
  | wrapsMalformed {wrapper : AllowedMsgAllowance} {inner : Any} : any.typeUrl = restrictedUrl →
      AllowedMsgAllowance.shape.decode any.value = .ok wrapper → wrapper.allowance = some inner →
      IsMalformed inner → NeverExpires any
  /-- It restricts an allowance that is restricted already. -/
  | wrapsRestricted {wrapper : AllowedMsgAllowance} {inner : Any} : any.typeUrl = restrictedUrl →
      AllowedMsgAllowance.shape.decode any.value = .ok wrapper → wrapper.allowance = some inner →
      inner.typeUrl = restrictedUrl → NeverExpires any

/-! ### Expiration -/

theorem plainAllowanceOf_eq_empty {any : Any} (h : any.typeUrl = restrictedUrl) :
    plainAllowanceOf any = {} := by
  rw [plainAllowanceOf, if_neg (by rw [h]; decide), if_neg (by rw [h]; decide)]

theorem IsMalformed.plainAllowanceOf_eq_empty {any : Any} (h : IsMalformed any) :
    plainAllowanceOf any = {} := by
  cases h with
  | basic hurl hfails =>
    obtain ⟨fault, hfault⟩ := hfails
    rw [plainAllowanceOf, if_pos hurl, hfault]
  | periodic hurl hfails =>
    obtain ⟨fault, hfault⟩ := hfails
    rw [plainAllowanceOf, if_neg (by rw [hurl]; decide), if_pos hurl, hfault]
  | restricted hurl _ => exact Feegrant.plainAllowanceOf_eq_empty hurl

/-- A restricted allowance expires with the one it wraps, if that is not restricted as well. -/
theorem expiration_of_decode {any inner : Any} {wrapper : AllowedMsgAllowance}
    (hurl : any.typeUrl = restrictedUrl)
    (hdecode : AllowedMsgAllowance.shape.decode any.value = .ok wrapper)
    (hinner : wrapper.allowance = some inner) :
    (allowanceOf any).expiration = (plainAllowanceOf inner).expiration := by
  rw [allowanceOf, if_pos hurl, hdecode]
  dsimp only
  rw [hinner, Option.bind_some]

theorem expiration_restricted {any : Any} (hurl : any.typeUrl ≠ restrictedUrl) (urls : List String)
    (hsize : (restricted any urls).value.length < 2 ^ 31) :
    (allowanceOf (restricted any urls)).expiration = (allowanceOf any).expiration := by
  have hdecode : AllowedMsgAllowance.shape.decode (restricted any urls).value =
      .ok ⟨some any, urls⟩ :=
    Wire.Shape.decode_encode _ rfl _ (hsize.trans (by decide))
  rw [expiration_of_decode rfl hdecode rfl, allowanceOf, if_neg hurl]

theorem NeverExpires.expiration_eq_none {any : Any} (h : NeverExpires any) :
    (allowanceOf any).expiration = none := by
  cases h with
  | malformed hmalformed =>
    by_cases hurl : any.typeUrl = restrictedUrl
    · have hfails : Fails (AllowedMsgAllowance.shape.decode any.value) := by
        cases hmalformed with
        | basic hbasic => exact absurd (hurl.symm.trans hbasic) (by decide)
        | periodic hperiodic => exact absurd (hurl.symm.trans hperiodic) (by decide)
        | restricted _ hfails => exact hfails
      obtain ⟨fault, hfault⟩ := hfails
      rw [allowanceOf, if_pos hurl, hfault]
    · rw [allowanceOf, if_neg hurl, hmalformed.plainAllowanceOf_eq_empty]
  | wrapsMalformed hurl hdecode hinner hmalformed =>
    rw [expiration_of_decode hurl hdecode hinner, hmalformed.plainAllowanceOf_eq_empty]
  | wrapsRestricted hurl hdecode hinner hrestricted =>
    rw [expiration_of_decode hurl hdecode hinner, plainAllowanceOf_eq_empty hrestricted]

/-! ### Grants -/

/-- Two records agree but for the field map of the allowance, in the data of the message and in the
grant, and the size of the message. -/
structure DifferInParams (r r' : Record.Message) : Prop where
  addresses : r'.addresses = r.addresses
  others : r' = { r with
    data := r'.data
    size := r'.size
    entities := { r.entities with grant := r'.entities.grant } }
  grant : ∃ params, r'.entities.grant = r.entities.grant.map ({ · with params })

/-- A grant is recorded, and it does not expire. If the transaction has failed there is no grant. -/
def GrantsForever (scope : Scope) (message : Message) : Prop :=
  ∃ r, message.recordIn scope = .ok r ∧
    (scope.status = .success → ∃ grant, r.entities.grant = some grant ∧ grant.expiration = none)

variable {scope : Scope} {granter grantee : String} {any any' : Any}

/-- An expiration is refused only for a time out of range. -/
theorem mapM_timestamp_eq_error {expiration : Option Timestamp} {e : Inconsistency}
    (h : expiration.mapM timestamp = .error e) :
    ∃ seconds nanos, e = .invalidTimestamp seconds nanos := by
  cases expiration with
  | none => cases h
  | some value =>
    have herror : timestamp value = .error e := map_eq_error_iff.1 h
    unfold timestamp at herror
    dsimp only at herror
    split at herror
    · cases herror
    · exact ⟨_, _, (Except.error.inj herror).symm⟩

/-- The expiration of an allowance decides whether its grant is refused, and all else of it goes
into the field map. -/
theorem given_alike (h : (allowanceOf any').expiration = (allowanceOf any).expiration) :
    Alike (fun e e' ↦ e' = e ∧ ∃ seconds nanos, e = .invalidTimestamp seconds nanos)
      (fun grant grant' ↦ ∃ params, grant' = { grant with params })
      (given scope ⟨granter, grantee, some any⟩) (given scope ⟨granter, grantee, some any'⟩) := by
  have hexpiration : Alike
      (fun e e' ↦ e' = e ∧ ∃ seconds nanos, e = .invalidTimestamp seconds nanos) Eq
      ((allowanceOf any).expiration.mapM timestamp)
      ((allowanceOf any').expiration.mapM timestamp) := by
    rw [h]
    cases hstep : (allowanceOf any).expiration.mapM timestamp with
    | ok expiration => exact .ok rfl
    | error e => exact .error ⟨rfl, mapM_timestamp_eq_error hstep⟩
  refine hexpiration.bind ?_
  rintro expiration _ rfl
  exact .ok ⟨_, rfl⟩

theorem recordIn_alike (h : (allowanceOf any').expiration = (allowanceOf any).expiration) :
    Alike (fun e e' ↦ e' = e ∧ ∃ seconds nanos, e.cause = .invalidTimestamp seconds nanos)
      DifferInParams ((granting granter grantee any).recordIn scope)
      ((granting granter grantee any').recordIn scope) := by
  have hread : Alike (fun e e' ↦ e' = e ∧ ∃ seconds nanos, e = .invalidTimestamp seconds nanos)
      (fun found found' : Findings ↦ ∃ grant params, found.entities = { grant := some grant } ∧
        found' = { found with entities := { grant := some { grant with params } } })
      ((granting granter grantee any).read scope) ((granting granter grantee any').read scope) := by
    refine (given_alike h).bind ?_
    rintro grant _ ⟨params, rfl⟩
    exact .ok ⟨grant, params, rfl, rfl⟩
  rw [Message.recordIn_eq, Message.recordIn_eq]
  refine (hread.map ?_).mapError ?_
  · rintro ⟨addresses, blobsSize, internalMessages, packet, entities⟩ _ ⟨grant, params, rfl, rfl⟩
    unfold Message.stamp
    cases scope.status with
    | success => exact ⟨rfl, rfl, params, rfl⟩
    | failed => exact ⟨rfl, rfl, params, rfl⟩
  · rintro cause _ ⟨rfl, hcause⟩
    exact ⟨rfl, hcause⟩

theorem grantsForever (h : (allowanceOf any).expiration = none) :
    GrantsForever scope (granting granter grantee any) := by
  obtain ⟨grant, hgrant, hnone⟩ :
      ∃ grant, given scope ⟨granter, grantee, some any⟩ = .ok grant ∧ grant.expiration = none := by
    refine ⟨_, bind_eq_ok_iff.2 ⟨none, ?_, rfl⟩, rfl⟩
    rw [Option.map_some, Option.getD_some, h]
    rfl
  obtain ⟨found, hread, hentities⟩ : ∃ found,
      (granting granter grantee any).read scope = .ok found ∧
        found.entities.grant = some grant :=
    ⟨_, bind_eq_ok_iff.2 ⟨grant, hgrant, rfl⟩, rfl⟩
  refine ⟨_, Message.recordIn_eq_ok_iff.2 ⟨found, hread, rfl⟩, fun hstatus ↦ ⟨grant, ?_, hnone⟩⟩
  rw [← hentities, Message.stamp, hstatus]

/-- **A restriction keeps the expiration.** Wherever it stands, a grant of an allowance that is not
restricted, whatever its type and its bytes, and the grant of the same allowance with a restriction
to any list of types are refused together, for the same time that is none, or recorded together,
alike but for the field map of the allowance. An allowance that wraps a restricted one does not
expire, nor do bytes that are no allowance, granted or wrapped; such a grant is always recorded. -/
theorem restriction_keeps_expiration (scope : Scope) (granter grantee : String) :
    (∀ (any : Any) (urls : List String), any.typeUrl ≠ restrictedUrl →
      (restricted any urls).value.length < 2 ^ 31 →
      Alike (fun e e' ↦ e' = e ∧ ∃ seconds nanos, e.cause = .invalidTimestamp seconds nanos)
        DifferInParams ((granting granter grantee any).recordIn scope)
        ((granting granter grantee (restricted any urls)).recordIn scope)) ∧
    ∀ any : Any, NeverExpires any → GrantsForever scope (granting granter grantee any) :=
  ⟨fun _ urls hurl hsize ↦ recordIn_alike (expiration_restricted hurl urls hsize),
    fun _ h ↦ grantsForever h.expiration_eq_none⟩

/-- A basic allowance that expires. -/
def yearly : Any where
  typeUrl := "/cosmos.feegrant.v1beta1.BasicAllowance"
  value := BasicAllowance.shape.encode ⟨[], some ⟨1800000000, 5⟩⟩

/-- What the reader of the first message of an executed transaction sees. -/
def firstScope : Scope :=
  outermost {} ⟨100, ⟨1700000000, 0⟩⟩ 0 .success

/-- The allowance expires with and without a restriction to blob payments. Restricted twice it does
not expire, nor do bytes that are none. -/
theorem restriction_keeps_expiration_yearly :
    (∃ r grant, (granting "granter" "grantee" yearly).recordIn firstScope = .ok r ∧
      r.entities.grant = some grant ∧ grant.expiration = some ⟨1800000000, 5⟩) ∧
    Alike (fun e e' ↦ e' = e ∧ ∃ seconds nanos, e.cause = .invalidTimestamp seconds nanos)
      DifferInParams ((granting "granter" "grantee" yearly).recordIn firstScope)
      ((granting "granter" "grantee"
        (restricted yearly ["/celestia.blob.v1.MsgPayForBlobs"])).recordIn firstScope) ∧
    GrantsForever firstScope (granting "granter" "grantee" (restricted (restricted yearly []) [])) ∧
    GrantsForever firstScope (granting "granter" "grantee" { yearly with value := [10, 255] }) := by
  obtain ⟨hrestricted, hnever⟩ := restriction_keeps_expiration firstScope "granter" "grantee"
  have hdecode : AllowedMsgAllowance.shape.decode (restricted (restricted yearly []) []).value =
      .ok ⟨some (restricted yearly []), []⟩ :=
    Wire.Shape.decode_encode _ rfl _ (by decide +kernel)
  have hyearly : (((granting "granter" "grantee" yearly).recordIn firstScope).toOption.bind
      (·.entities.grant)).bind (·.expiration) = some ⟨1800000000, 5⟩ := by
    decide +kernel
  obtain ⟨grant, hgrant, hexpiration⟩ := Option.bind_eq_some_iff.1 hyearly
  obtain ⟨r, hr, hgrant⟩ := Option.bind_eq_some_iff.1 hgrant
  exact ⟨⟨r, grant, toOption_eq_some_iff.1 hr, hgrant, hexpiration⟩,
    hrestricted yearly _ (by decide) (by decide +kernel),
    hnever _ (.wrapsRestricted rfl hdecode rfl rfl),
    hnever _ (.malformed (.basic rfl (by decide +kernel)))⟩

end Feegrant

end ChainRecord
