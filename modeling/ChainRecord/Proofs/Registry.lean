import ChainRecord.Message
import ChainRecord.Proofs.Wire.Weight
import Mathlib.Data.List.Nodup

/-!
# The table of messages

The kinds of messages are a table of type URLs and layouts. No URL is listed twice, so the table
finds each kind by its own (`Kind.ofUrl?_eq_some_iff`), and each layout can be read
(`Kind.fits_shape`): the numbers of its fields differ from each other and messages are not nested
too deeply. From these two the table as a whole is right about wire forms
(`ofAny_roundTrip`).
-/

namespace ChainRecord.Message

open Wire

namespace Kind

/-! ### Type URLs -/

theorem mem_all (kind : Kind) : kind ∈ all := by
  cases kind <;> rename_i kind <;> cases kind <;> decide

theorem nodup_typeUrl : (all.map typeUrl).Nodup := by
  decide +kernel

example : all.length = 90 := rfl

/-- A kind is known by its URL. -/
theorem typeUrl_injective : Function.Injective typeUrl := fun kind kind' ↦
  List.inj_on_of_nodup_map nodup_typeUrl kind.mem_all kind'.mem_all

/-- The table finds a kind by its URL, and by no other. -/
theorem ofUrl?_eq_some_iff {url : String} {kind : Kind} :
    ofUrl? url = some kind ↔ kind.typeUrl = url := by
  constructor
  · intro h
    simpa using List.find?_some h
  · rintro rfl
    cases hfound : ofUrl? kind.typeUrl with
    | none => exact absurd (decide_eq_true rfl) (List.find?_eq_none.1 hfound kind kind.mem_all)
    | some kind' =>
      have hurl : kind'.typeUrl = kind.typeUrl := by simpa using List.find?_some hfound
      rw [typeUrl_injective hurl]

theorem ofUrl?_eq_none_iff {url : String} :
    ofUrl? url = none ↔ ∀ kind : Kind, kind.typeUrl ≠ url := by
  simp only [Option.eq_none_iff_forall_ne_some, ne_eq, ofUrl?_eq_some_iff]

/-! ### Layouts -/

theorem fits_shape (kind : Kind) : kind.shape.fits maxDepth = true := by
  cases kind <;> rename_i kind <;> cases kind <;> rfl

end Kind

/-! ### Wire forms -/

/-- Of a known type, what is unwrapped is what the layout of its kind reads. -/
theorem ofAny_of_typeUrl_eq {kind : Kind} {any : Any} (h : kind.typeUrl = any.typeUrl) :
    ofAny any = (kind.shape.decode any.value).map (known kind) := by
  rw [ofAny, Kind.ofUrl?_eq_some_iff.2 h]

theorem ofAny_of_typeUrl_ne {any : Any} (h : ∀ kind : Kind, kind.typeUrl ≠ any.typeUrl) :
    ofAny any = .ok (.unknown any) := by
  rw [ofAny, Kind.ofUrl?_eq_none_iff.2 h]

/-- A message is unwrapped from its canonical form. -/
theorem ofAny_encode {kind : Kind} {body : kind.Body}
    (h : (kind.shape.encode body).length < 2 ^ 64) :
    ofAny ⟨kind.typeUrl, kind.shape.encode body⟩ = .ok (known kind body) := by
  rw [ofAny_of_typeUrl_eq rfl, kind.shape.decode_encode kind.fits_shape body h]
  rfl

/-- The recorded size of a message is the length of its canonical form. -/
theorem size_known_of_ne {kind : Kind} (h : ∀ legacy, kind ≠ .legacyGov legacy) (body : kind.Body) :
    (known kind body).size = some (kind.shape.encode body).length := by
  have hsize : kind.reportsSize = true := by
    cases kind with
    | legacyGov legacy => exact absurd rfl (h legacy)
    | _ => rfl
  rw [size, if_pos hsize, kind.shape.encodedLength_eq]

/-- **The table reads what is written.** A message of any kind is unwrapped from its canonical form,
the length of which is its size except in the first generation of governance. Whatever is wrapped,
it is kept as it is if its type is in no line of the table, and otherwise is refused or becomes a
message of the kind of that type, never an unknown one, which is unwrapped again from its own
canonical form. -/
theorem ofAny_roundTrip :
    (∀ (kind : Kind) (body : kind.Body), (kind.shape.encode body).length < 2 ^ 64 →
      ofAny ⟨kind.typeUrl, kind.shape.encode body⟩ = .ok (known kind body) ∧
      (∀ legacy, kind = .legacyGov legacy → (known kind body).size = none) ∧
      ((∀ legacy, kind ≠ .legacyGov legacy) →
        (known kind body).size = some (kind.shape.encode body).length)) ∧
    ∀ any : Any, any.value.length < 2 ^ 59 →
      ((∀ kind : Kind, kind.typeUrl ≠ any.typeUrl) → ofAny any = .ok (.unknown any)) ∧
      ∀ kind : Kind, kind.typeUrl = any.typeUrl →
        (∃ fault, ofAny any = .error fault) ∨
          ∃ body, ofAny any = .ok (known kind body) ∧
            ofAny ⟨kind.typeUrl, kind.shape.encode body⟩ = .ok (known kind body) := by
  refine ⟨fun kind body hsize ↦ ⟨ofAny_encode hsize, ?_, fun h ↦ size_known_of_ne h body⟩,
    fun any hsize ↦ ⟨ofAny_of_typeUrl_ne, fun kind hurl ↦ ?_⟩⟩
  · rintro legacy rfl
    rfl
  · rw [ofAny_of_typeUrl_eq hurl]
    cases hbody : kind.shape.decode any.value with
    | error fault => exact Or.inl ⟨fault, rfl⟩
    | ok body =>
      -- what is read is at most twenty-five times as long in canonical form
      have hlength := Shape.length_encode_le_of_decode kind.fits_shape hbody (by omega)
      exact Or.inr ⟨body, rfl, ofAny_encode (by omega)⟩

/-- A vote for a choice that does not exist is read from a short form of its number. Its canonical
form is longer. -/
theorem ofAny_roundTrip_vote :
    ofAny ⟨"/cosmos.gov.v1beta1.MsgVote", LegacyGov.MsgVote.shape.encode ⟨7, "voter", -1⟩⟩ =
      .ok (known (.legacyGov .vote) ⟨7, "voter", -1⟩) ∧
    (known (.legacyGov .vote) ⟨7, "voter", -1⟩).size = none ∧
    (known (.gov .vote) ⟨7, "voter", -1, ""⟩).size =
      some (Gov.MsgVote.shape.encode ⟨7, "voter", -1, ""⟩).length ∧
    ofAny ⟨"/cosmos.gov.v1.msgvote", [255]⟩ = .ok (.unknown ⟨"/cosmos.gov.v1.msgvote", [255]⟩) ∧
    ∃ body, ofAny ⟨"/cosmos.gov.v1.MsgVote", [24, 255, 255, 255, 255, 15]⟩ =
        .ok (known (.gov .vote) body) ∧
      ofAny ⟨"/cosmos.gov.v1.MsgVote", Gov.MsgVote.shape.encode body⟩ =
        .ok (known (.gov .vote) body) := by
  obtain ⟨hencode, hdecode⟩ := ofAny_roundTrip
  obtain ⟨hread, hnone, -⟩ := hencode (.legacyGov .vote) ⟨7, "voter", -1⟩ (by decide +kernel)
  obtain ⟨-, -, hsize⟩ := hencode (.gov .vote) ⟨7, "voter", -1, ""⟩ (by decide +kernel)
  refine ⟨hread, hnone .vote rfl, hsize (by simp),
    (hdecode ⟨"/cosmos.gov.v1.msgvote", [255]⟩ (by decide)).1 ?_, ?_⟩
  · intro kind
    have hall : ∀ kind ∈ Kind.all, kind.typeUrl ≠ "/cosmos.gov.v1.msgvote" := by decide +kernel
    exact hall kind kind.mem_all
  · refine ((hdecode ⟨"/cosmos.gov.v1.MsgVote", [24, 255, 255, 255, 255, 15]⟩
      (by decide)).2 (.gov .vote) rfl).resolve_left ?_
    rintro ⟨fault, hfault⟩
    have hok : (ofAny ⟨"/cosmos.gov.v1.MsgVote", [24, 255, 255, 255, 255, 15]⟩).isOk = true := by
      decide +kernel
    rw [hfault] at hok
    exact Bool.false_ne_true hok

end ChainRecord.Message
