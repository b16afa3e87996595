import ChainRecord.Proofs.AttributeAmounts

/-!
# Lists of coins

A list of coins is its places with a comma between every two of them, and a place holds a coin or
nothing, with any blanks around it. A list is read if and only if it is written so, and then the
coins of its places are read, in order and with all their digits (`listOfText_exact`).

Two lists with a comma between them are one list, also where they cannot be read. Splitting at
commas takes texts with commas between them to lists behind one another, and reading goes through a
list from the front, so the error is that of the first part that has one.
-/

namespace ChainRecord.CoinAmount

open Numeral Text

/-! ### The grammar -/

/-- A denomination can be told from the amount in front of it and from what follows in a list. -/
structure IsDenom (denom : List Char) : Prop where
  ne_nil : denom ≠ []
  comma_not_mem : ',' ∉ denom
  front : ∀ c ∈ denom.head?, ¬ IsAmountChar c
  back : ∀ c ∈ denom.getLast?, isBlank c = false

/-- A text is written for a coin. -/
inductive IsCoin : List Char → CoinAmount → Prop
  /-- The amount is a decimal with a minus or no sign, and the denomination is behind it. -/
  | mk {amount denom : List Char} {n : Int} {places : Nat} : IsWrittenAt amount n places →
      '+' ∉ amount → IsDenom denom → IsCoin (amount ++ denom) ⟨⟨n, places⟩, String.ofList denom⟩

/-- Places of a list hold coins. -/
inductive AreCoins : List (List Char) → List CoinAmount → Prop
  /-- There are no places. -/
  | nil : AreCoins [] []
  /-- A place may hold nothing. -/
  | blank {place : List Char} {places : List (List Char)} {coins : List CoinAmount} :
      IsBlanks place → AreCoins places coins → AreCoins (place :: places) coins
  /-- A place may hold a coin with blanks around it. -/
  | coin {front cs back : List Char} {places : List (List Char)} {coin : CoinAmount}
      {coins : List CoinAmount} : IsBlanks front → IsCoin cs coin → IsBlanks back →
      AreCoins places coins → AreCoins ((front ++ cs ++ back) :: places) (coin :: coins)

/-- A text is the places of some coins with commas between them. -/
def IsCoinList (cs : List Char) (coins : List CoinAmount) : Prop :=
  ∃ places, [','].intercalate places = cs ∧ AreCoins places coins

variable {cs place : List Char} {places : List (List Char)} {coin : CoinAmount}
  {coins : List CoinAmount}

/-! ### Coins -/

theorem comma_not_mem_of_isBlanks (h : IsBlanks cs) : ',' ∉ cs :=
  fun hcomma ↦ absurd (h ',' hcomma) (by decide)

theorem IsCoin.comma_not_mem (h : IsCoin cs coin) : ',' ∉ cs := by
  obtain ⟨hwritten, hplus, hdenom⟩ := h
  obtain ⟨q, hamount⟩ := hwritten.exists_isSignedAmount hplus
  rw [List.mem_append, not_or]
  exact ⟨fun hcomma ↦ absurd (hamount.isAmountChar ',' hcomma) (by decide), hdenom.comma_not_mem⟩

/-- A coin begins with a character of an amount and ends with one of a denomination. -/
theorem IsCoin.isTrimmed (h : IsCoin cs coin) : IsTrimmed cs := by
  obtain ⟨hwritten, hplus, hdenom⟩ := h
  obtain ⟨q, hamount⟩ := hwritten.exists_isSignedAmount hplus
  constructor
  · intro c hc
    rw [List.head?_append_of_ne_nil _ hamount.ne_nil] at hc
    exact Attributes.isBlank_eq_false (hamount.isAmountChar c (List.mem_of_mem_head? hc))
  · intro c hc
    rw [List.getLast?_append_of_ne_nil _ hdenom.ne_nil] at hc
    exact hdenom.back c hc

theorem IsCoin.ne_nil (h : IsCoin cs coin) : cs ≠ [] := by
  obtain ⟨-, -, hdenom⟩ := h
  simp [hdenom.ne_nil]

/-- Without a comma and blanks at its ends, a text is read as the coin that it is written for. -/
theorem ofChars?_eq_some_iff_isCoin (htrimmed : IsTrimmed cs) (hcomma : ',' ∉ cs) :
    ofChars? cs = some coin ↔ IsCoin cs coin := by
  rw [ofChars?_eq_some_iff]
  constructor
  · rintro ⟨amount, denom, x, rfl, hamount, hne, hfront, hx, rfl⟩
    obtain ⟨n, count, hwritten, rfl⟩ := decimalOfChars?_eq_some_iff.1 hx
    have hplus : '+' ∉ amount := fun hmem ↦ absurd (hamount '+' hmem) (by decide)
    refine .mk hwritten hplus ⟨hne, fun hmem ↦ hcomma (by simp [hmem]), hfront, fun c hc ↦ ?_⟩
    rw [← List.getLast?_append_of_ne_nil amount hne] at hc
    exact htrimmed.back c hc
  · rintro ⟨hwritten, hplus, hdenom⟩
    obtain ⟨q, hamount⟩ := hwritten.exists_isSignedAmount hplus
    exact ⟨_, _, _, rfl, hamount.isAmountChar, hdenom.ne_nil, hdenom.front,
      decimalOfChars?_eq_some_iff.2 ⟨_, _, hwritten, rfl⟩, rfl⟩

/-! ### Places -/

/-- Places are what splitting at commas gives. -/
theorem placesOf_eq_splitOn (cs : List Char) : placesOf cs = cs.splitOn ',' := by
  induction cs with
  | nil => rfl
  | cons c cs ih =>
    rw [placesOf, ih, List.splitOn_cons_eq_if_modifyHead]
    simp only [beq_iff_eq]
    split
    · rfl
    · cases h : cs.splitOn ',' with
      | nil => exact absurd h (List.splitOn_ne_nil _ _)
      | cons place places => rfl

/-- There is always a first place, in front of the first comma. -/
theorem placesOf_ne_nil (cs : List Char) : placesOf cs ≠ [] := by
  rw [placesOf_eq_splitOn]
  exact List.splitOn_ne_nil _ _

theorem comma_not_mem_of_mem_placesOf (h : place ∈ placesOf cs) : ',' ∉ place := by
  induction cs generalizing place with
  | nil =>
    obtain rfl := List.mem_singleton.1 h
    exact List.not_mem_nil
  | cons c cs ih =>
    obtain ⟨first, rest, heq⟩ := List.exists_cons_of_ne_nil (placesOf_ne_nil cs)
    rw [heq] at ih
    rw [placesOf, heq] at h
    split at h
    · rcases List.mem_cons.1 h with rfl | hmem
      · exact List.not_mem_nil
      · exact ih hmem
    · rename_i hne
      rcases List.mem_cons.1 h with rfl | hmem
      · -- a character that is no comma goes to the first place
        have hfirst : ',' ∉ first := ih List.mem_cons_self
        simpa [hfirst, eq_comm] using hne
      · exact ih (List.mem_cons_of_mem _ hmem)

theorem AreCoins.comma_not_mem (h : AreCoins places coins) : ∀ place ∈ places, ',' ∉ place := by
  induction h with
  | nil => simp
  | blank hblank _ ih => exact List.forall_mem_cons.2 ⟨comma_not_mem_of_isBlanks hblank, ih⟩
  | coin hfront hcoin hback _ ih =>
    refine List.forall_mem_cons.2 ⟨?_, ih⟩
    simp [comma_not_mem_of_isBlanks hfront, hcoin.comma_not_mem, comma_not_mem_of_isBlanks hback]

/-! ### Items -/

/-- The texts of the places that hold something. -/
def itemsOfPlaces (places : List (List Char)) : List String :=
  ((places.map trimChars).filter (!·.isEmpty)).map String.ofList

theorem itemsOf_eq (text : String) : itemsOf text = itemsOfPlaces (placesOf text.toList) :=
  rfl

theorem itemsOfPlaces_append (places places' : List (List Char)) :
    itemsOfPlaces (places ++ places') = itemsOfPlaces places ++ itemsOfPlaces places' := by
  simp only [itemsOfPlaces, List.map_append, List.filter_append]

theorem itemsOfPlaces_cons_of_isBlanks (h : IsBlanks place) (places : List (List Char)) :
    itemsOfPlaces (place :: places) = itemsOfPlaces places := by
  simp [itemsOfPlaces, trimChars_eq_nil_iff.2 h]

theorem itemsOfPlaces_cons (h : ¬ IsBlanks place) (places : List (List Char)) :
    itemsOfPlaces (place :: places) = String.ofList (trimChars place) :: itemsOfPlaces places := by
  have hne : trimChars place ≠ [] := fun hnil ↦ h (trimChars_eq_nil_iff.1 hnil)
  simp [itemsOfPlaces, hne]

/-- What is written with commas between places has their items. -/
theorem itemsOfPlaces_placesOf (h : ∀ place ∈ places, ',' ∉ place) :
    itemsOfPlaces (placesOf ([','].intercalate places)) = itemsOfPlaces places := by
  by_cases hne : places = []
  · -- no places and one empty place are written alike
    subst hne
    rfl
  · rw [placesOf_eq_splitOn, List.splitOn_intercalate ',' h hne]

/-- The items of two lists with a comma between them are the items of both. -/
theorem itemsOf_append (text text' : String) :
    itemsOf (text ++ "," ++ text') = itemsOf text ++ itemsOf text' := by
  have hcs : (text ++ "," ++ text').toList = text.toList ++ ',' :: text'.toList := by
    simp [String.toList_append]
  rw [itemsOf_eq, hcs, placesOf_eq_splitOn, List.splitOn_append_cons_self, itemsOfPlaces_append,
    ← placesOf_eq_splitOn, ← placesOf_eq_splitOn, itemsOf_eq, itemsOf_eq]

/-! ### Lists -/

theorem ofText_trimChars_eq_ok_iff (h : ',' ∉ place) :
    ofText (String.ofList (trimChars place)) = .ok coin ↔ IsCoin (trimChars place) coin := by
  obtain ⟨front, back, -, -, heq⟩ := exists_eq_append_trimChars place
  have hcomma : ',' ∉ trimChars place := fun hmem ↦ h (heq ▸ by simp [hmem])
  rw [ofText_eq_ok_iff, String.toList_ofList, trimChars_trimChars,
    ofChars?_eq_some_iff_isCoin (isTrimmed_trimChars place) hcomma]

/-- The items of places are read as the coins that the places hold. -/
theorem areCoins_iff (h : ∀ place ∈ places, ',' ∉ place) :
    (itemsOfPlaces places).mapM ofText = .ok coins ↔ AreCoins places coins := by
  constructor
  · intro hread
    induction places generalizing coins with
    | nil =>
      obtain rfl := Except.ok.inj hread
      exact .nil
    | cons place places ih =>
      obtain ⟨hplace, hplaces⟩ := List.forall_mem_cons.1 h
      by_cases hblank : IsBlanks place
      · rw [itemsOfPlaces_cons_of_isBlanks hblank] at hread
        exact .blank hblank (ih hplaces hread)
      · rw [itemsOfPlaces_cons hblank, List.mapM_cons] at hread
        obtain ⟨coin, hcoin, hrest⟩ := bind_eq_ok_iff.1 hread
        obtain ⟨coins', hcoins, hall⟩ := bind_eq_ok_iff.1 hrest
        obtain rfl := Except.ok.inj hall
        -- the coin is what is left of its place by trimming
        obtain ⟨front, back, hfront, hback, heq⟩ := exists_eq_append_trimChars place
        rw [heq]
        exact .coin hfront ((ofText_trimChars_eq_ok_iff hplace).1 hcoin) hback (ih hplaces hcoins)
  · intro hcoins
    induction hcoins with
    | nil => rfl
    | blank hblank _ ih =>
      rw [itemsOfPlaces_cons_of_isBlanks hblank]
      exact ih (List.forall_mem_cons.1 h).2
    | @coin front cs back places coin coins hfront hcoin hback _ ih =>
      obtain ⟨hplace, hplaces⟩ := List.forall_mem_cons.1 h
      have htrim : trimChars (front ++ cs ++ back) = cs :=
        trimChars_eq_iff.2 ⟨hcoin.isTrimmed, front, back, hfront, hback, rfl⟩
      have hheld : ¬ IsBlanks (front ++ cs ++ back) := by
        rw [← trimChars_eq_nil_iff, htrim]
        exact hcoin.ne_nil
      have hfirst : ofText (String.ofList (trimChars (front ++ cs ++ back))) = .ok coin :=
        (ofText_trimChars_eq_ok_iff hplace).2 (htrim.symm ▸ hcoin)
      rw [itemsOfPlaces_cons hheld, List.mapM_cons]
      exact bind_eq_ok_iff.2 ⟨coin, hfirst, bind_eq_ok_iff.2 ⟨coins, ih hplaces, rfl⟩⟩

theorem listOfText_eq_ok_iff {text : String} :
    listOfText text = .ok coins ↔ IsCoinList text.toList coins := by
  rw [listOfText]
  constructor
  · intro h
    refine ⟨placesOf text.toList, ?_, (areCoins_iff fun _ ↦ comma_not_mem_of_mem_placesOf).1 h⟩
    rw [placesOf_eq_splitOn, List.intercalate_splitOn]
  · rintro ⟨places, htext, hcoins⟩
    rw [itemsOf_eq, ← htext, itemsOfPlaces_placesOf hcoins.comma_not_mem]
    exact (areCoins_iff hcoins.comma_not_mem).2 hcoins

/-- **Lists of coins are read exactly, and part by part.** A text is read as some coins if and only
if it is the places of these coins with commas between them, where a coin may have blanks around it
and a place may hold nothing. Two texts with a comma between them, whatever they are, are read one
after the other: the coins of both, or the error of the first, or else that of the second. -/
theorem listOfText_exact (text text' : String) :
    (∀ coins, listOfText text = .ok coins ↔ IsCoinList text.toList coins) ∧
    listOfText (text ++ "," ++ text') = (do
      let coins ← listOfText text
      let coins' ← listOfText text'
      .ok (coins ++ coins')) := by
  refine ⟨fun coins ↦ listOfText_eq_ok_iff, ?_⟩
  rw [listOfText, itemsOf_append, List.mapM_append]
  rfl

/-- Blanks and empty places do not count, and an amount has all its digits. -/
example : listOfText " 10utia,, -0.50ibc/2 ," =
    .ok [⟨⟨10, 0⟩, "utia"⟩, ⟨⟨-50, 2⟩, "ibc/2"⟩] := by
  decide

end ChainRecord.CoinAmount
