import ChainRecord.Proofs.Address.RoundTrip

/-!
# Canonical texts of addresses

Reading forgets three things about a text: the case of its letters, the generation of its checksum,
and the bits behind the last whole byte. So one address has several texts. A text is canonical if
none of the three is as writing would not have it (`IsCanonical`): it is in lower case, its checksum
is of the first generation, and its symbols are those of whole bytes.

These are all the freedom there is. Canonical is exactly the text that is written for what a text
denotes (`isCanonical_iff_toText`), because the check symbols of a generation are decided by the
text in front of them. Hence an address has at most one canonical text
(`IsCanonical.eq_of_ofText?`).
-/

namespace ChainRecord.Address

/-! ### What is read -/

/-- The character of a symbol that was read is the one it was read from, in lower case. -/
theorem symbolChar_of_charSymbol? {c : Char} {s : Symbol} (h : charSymbol? c = some s) :
    symbolChar s = c.toLower := by
  obtain ⟨i, hfound, rfl⟩ := Option.map_eq_some_iff.1 h
  obtain ⟨hlength, hi, -⟩ := List.findIdx?_eq_some_iff_getElem.1 hfound
  have hmod : (BitVec.ofNat 5 i).toNat = i := by
    rw [BitVec.toNat_ofNat]
    exact Nat.mod_eq_of_lt hlength
  rw [symbolChar, hmod, List.getD_eq_getElem?_getD, List.getElem?_eq_getElem hlength,
    Option.getD_some]
  exact of_decide_eq_true hi

theorem map_symbolChar_of_mapM {cs : List Char} {symbols : List Symbol}
    (h : cs.mapM charSymbol? = some symbols) : symbols.map symbolChar = lowerChars cs := by
  induction cs generalizing symbols with
  | nil =>
    obtain rfl := Option.some.inj h
    rfl
  | cons c cs ih =>
    rw [List.mapM_cons] at h
    obtain ⟨s, hs, h⟩ := Option.bind_eq_some_iff.1 h
    obtain ⟨rest, hrest, h⟩ := Option.bind_eq_some_iff.1 h
    obtain rfl := Option.some.inj h
    rw [List.map_cons, symbolChar_of_charSymbol? hs, ih hrest]
    rfl

theorem eq_of_splitAtSeparator? {cs humanPart data : List Char}
    (h : splitAtSeparator? cs = some (humanPart, data)) : cs = humanPart ++ '1' :: data := by
  rw [splitAtSeparator?, List.span_eq_takeWhile_dropWhile] at h
  split at h
  · cases h
  · rename_i back c front hspan
    obtain ⟨hback, hfront⟩ := Prod.mk.inj hspan
    obtain ⟨rfl, rfl⟩ := Prod.mk.inj (Option.some.inj h)
    have hc : c = '1' := by
      have hdrop := List.head?_dropWhile_not (fun c ↦ decide (c ≠ '1')) cs.reverse
      rw [hfront] at hdrop
      simpa using hdrop
    have hcs : cs.reverse = back ++ c :: front := by
      rw [← hback, ← hfront, List.takeWhile_append_dropWhile]
    rw [← cs.reverse_reverse, hcs, hc]
    simp

/-- A text is read as an address, from a human readable part, symbols that stand for bytes, and
check symbols. -/
structure IsReading (text : String) (humanPart : List Char) (payload check : List Symbol) :
    Prop where
  split : ∃ dataChars, splitAtSeparator? text.toList = some (humanPart, dataChars) ∧
    dataChars.mapM charSymbol? = some (payload ++ check)
  check_length : check.length = checkLength
  one_case : hasMixedCase text.toList = false
  length_le : text.toList.length ≤ maxLength
  human_part : checkHumanPart (String.ofList humanPart) = .ok ()
  intact : isIntact (lowerChars humanPart) (payload ++ check) = true

theorem ofText?_eq_some_iff {text : String} {a : Address} :
    ofText? text = some a ↔ ∃ humanPart payload check,
      IsReading text humanPart payload check ∧
        a = ⟨String.ofList (lowerChars humanPart), bytesOfSymbols payload⟩ := by
  constructor
  · intro h
    obtain ⟨⟨humanPart, dataChars⟩, hsplit, h⟩ := Option.bind_eq_some_iff.1 h
    obtain ⟨data, hdata, h⟩ := Option.bind_eq_some_iff.1 h
    split at h
    · cases h
    · rename_i hlimits
      simp only [not_or, Bool.not_eq_true, not_lt] at hlimits
      obtain ⟨hcase, hlong, hshort⟩ := hlimits
      split at h
      · cases h
      · rename_i hhuman
        split at h
        · rename_i hintact
          obtain rfl := Option.some.inj h
          have happend := data.take_append_drop (data.length - checkLength)
          refine ⟨humanPart, _, data.drop (data.length - checkLength), ?_, rfl⟩
          refine ⟨⟨dataChars, hsplit, by rw [happend, hdata]⟩, ?_, hcase, hlong, hhuman, ?_⟩
          · rw [List.length_drop, Nat.sub_sub_self hshort]
          · rwa [happend]
        · cases h
  · rintro ⟨humanPart, payload, check, hread, rfl⟩
    obtain ⟨dataChars, hsplit, hdata⟩ := hread.split
    have hlength : (payload ++ check).length = payload.length + checkLength := by
      rw [List.length_append, hread.check_length]
    have h := ofText?_of_isIntact hsplit hdata hread.one_case hread.length_le (by omega)
      hread.human_part hread.intact
    rwa [hlength, Nat.add_sub_cancel, List.take_left, String.ofList_toList] at h

/-- A text is read in one way. -/
theorem IsReading.unique {text : String} {humanPart humanPart' : List Char}
    {payload payload' check check' : List Symbol} (h : IsReading text humanPart payload check)
    (h' : IsReading text humanPart' payload' check') :
    humanPart = humanPart' ∧ payload = payload' ∧ check = check' := by
  obtain ⟨dataChars, hsplit, hdata⟩ := h.split
  obtain ⟨dataChars', hsplit', hdata'⟩ := h'.split
  obtain ⟨rfl, rfl⟩ := Prod.mk.inj (Option.some.inj (hsplit.symm.trans hsplit'))
  have hsymbols : payload ++ check = payload' ++ check' :=
    Option.some.inj (hdata.symm.trans hdata')
  exact ⟨rfl, List.append_inj' hsymbols (h.check_length.trans h'.check_length.symm)⟩

/-- The characters of a text, in lower case, are decided by how it is read. -/
theorem IsReading.lowerChars_eq {text : String} {humanPart : List Char}
    {payload check : List Symbol} (h : IsReading text humanPart payload check) :
    lowerChars text.toList =
      lowerChars humanPart ++ '1' :: (payload ++ check).map symbolChar := by
  obtain ⟨dataChars, hsplit, hdata⟩ := h.split
  rw [eq_of_splitAtSeparator? hsplit, map_symbolChar_of_mapM hdata]
  simp [lowerChars]

/-! ### Canonical texts -/

/-- A text is in lower case, with a checksum of the first generation behind the symbols of whole
bytes. -/
def IsCanonical (text : String) : Prop :=
  lowerChars text.toList = text.toList ∧ ∃ humanPart payload check,
    IsReading text humanPart payload check ∧
      residueOf humanPart (payload ++ check) = writtenConstant ∧
      ∃ bytes, payload = symbolsOfBytes bytes

/-- What is written is in lower case. -/
theorem lowerChars_textChars {humanPart : List Char}
    (h : lowerChars humanPart = humanPart) (bytes : Bytes) :
    lowerChars (textChars humanPart bytes) = textChars humanPart bytes := by
  have hsymbol : ∀ s : Symbol, (symbolChar s).toLower = symbolChar s := by decide
  have hseparator : '1'.toLower = '1' := by decide
  simp only [textChars, lowerChars, List.map_append, List.map_cons, List.map_map,
    Function.comp_def, hsymbol, hseparator]
  rw [← lowerChars, h]

theorem IsReading.lowerChars_humanPart {text : String} {humanPart : List Char}
    {payload check : List Symbol} (h : IsReading text humanPart payload check) :
    lowerChars (lowerChars humanPart) = lowerChars humanPart := by
  have hchars := (checkHumanPart_eq_ok_iff.1 h.human_part).2.2
  rw [String.toList_ofList] at hchars
  exact lowerChars_lowerChars (isVisible_of_checkHumanChars hchars)

/-- **Canonical is what is written.** Of a text that is an address, the three conditions say that
it is the text that is written for what it denotes. -/
theorem isCanonical_iff_toText {text : String} {a : Address} (h : ofText? text = some a) :
    IsCanonical text ↔ toText a.humanPart a.bytes = .ok text := by
  obtain ⟨humanPart, payload, check, hread, rfl⟩ := ofText?_eq_some_iff.1 h
  have hhuman := checkHumanPart_lowerChars hread.human_part
  rw [String.toList_ofList] at hhuman
  rw [toText_eq_ok_iff, String.toList_ofList, hread.lowerChars_humanPart]
  constructor
  · rintro ⟨hlower, humanPart', payload', check', hread', hresidue, bytes, hbytes⟩
    obtain ⟨rfl, rfl, rfl⟩ := hread.unique hread'
    have hchars := hread.lowerChars_eq
    -- in lower case, the human readable part of the text is its own lower case
    obtain ⟨dataChars, hsplit, -⟩ := hread.split
    have htext := eq_of_splitAtSeparator? hsplit
    have hpart : lowerChars humanPart = humanPart := by
      rw [htext, lowerChars, List.map_append] at hlower
      exact (List.append_inj hlower (List.length_map _)).1
    have hcheck := eq_checkSymbols_of_residueOf hread.check_length hresidue
    have hwritten : textChars (lowerChars humanPart) (bytesOfSymbols payload) = text.toList := by
      rw [← hlower, hchars, hpart, hbytes, bytesOfSymbols_symbolsOfBytes, hcheck, hbytes]
      rfl
    refine ⟨hhuman, ?_, ?_⟩
    · rw [hwritten]
      exact hread.length_le
    · rw [hwritten, String.ofList_toList]
  · rintro ⟨-, -, rfl⟩
    have hlower := lowerChars_textChars hread.lowerChars_humanPart (bytesOfSymbols payload)
    refine ⟨by rw [String.toList_ofList, hlower], humanPart, payload, check, hread, ?_⟩
    -- the text is read as it was written
    obtain ⟨dataChars, hsplit, hdata⟩ := hread.split
    rw [String.toList_ofList, textChars, splitAtSeparator?_append _ (separator_not_mem_map _)]
      at hsplit
    obtain ⟨hpart, rfl⟩ := Prod.mk.inj (Option.some.inj hsplit)
    rw [mapM_charSymbol?_map_symbolChar] at hdata
    obtain ⟨hpayload, hcheck⟩ := List.append_inj' (Option.some.inj hdata)
      (Eq.symm hread.check_length)
    have hresidue := residueOf_append_checkSymbols (lowerChars humanPart)
      (symbolsOfBytes (bytesOfSymbols payload))
    rw [hcheck, hpayload, hpart] at hresidue
    exact ⟨hresidue, _, hpayload.symm⟩

/-- An address has no two canonical texts. -/
theorem IsCanonical.eq_of_ofText? {text text' : String} {a : Address} (h : IsCanonical text)
    (h' : IsCanonical text') (hread : ofText? text = some a) (hread' : ofText? text' = some a) :
    text = text' :=
  Except.ok.inj (((isCanonical_iff_toText hread).1 h).symm.trans
    ((isCanonical_iff_toText hread').1 h'))

/-- What is written is canonical, also if the human readable part has letters of upper case. -/
theorem isCanonical_of_toText {humanPart text : String} {bytes : Bytes}
    (h : toText humanPart bytes = .ok text) : IsCanonical text := by
  obtain ⟨hhuman, hlong, htext⟩ := toText_eq_ok_iff.1 h
  have hlower := lowerChars_lowerChars
    (isVisible_of_checkHumanChars (checkHumanPart_eq_ok_iff.1 hhuman).2.2)
  refine (isCanonical_iff_toText (ofText?_of_toText h)).2 (toText_eq_ok_iff.2 ?_)
  rw [String.toList_ofList, hlower]
  exact ⟨checkHumanPart_lowerChars hhuman, hlong, htext⟩

end ChainRecord.Address
