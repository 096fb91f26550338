import TradingPlatform.Domain.ClientOrderId

/-!
# The leg of a client order id

A minted id opens with the letters of its leg, so ids of different legs are different and every one of them is recognised as
the engine's own.
-/

namespace TradingPlatform

/-- The leg is read back from an id that opens with its letters and a hyphen. -/
theorem legKindOf_opening (leg : OrderLegKind) (rest : String) : legKindOf (leg.opening ++ "-" ++ rest) = some leg := by
  have hword : (leg.opening ++ "-" ++ rest).toList.takeWhile (· ≠ '-') = leg.opening.toList := by
    cases leg <;> simp [OrderLegKind.opening]
  unfold legKindOf
  simp only [hword, String.ofList_toList]
  cases leg <;> simp [OrderLegKind.opening]

/-- A validated id is the id itself. -/
theorem validateClientOrderId_ok {id c : String} (h : validateClientOrderId id = .ok c) : c = id := by
  unfold validateClientOrderId at h
  split at h
  · nomatch h
  · split at h
    · nomatch h
    · exact (Except.ok.inj h).symm

theorem legKindOf_entryClientOrderId {intentId c : String} {leg : ℕ} (h : entryClientOrderId intentId leg = .ok c) :
    legKindOf c = some .entry := by
  unfold entryClientOrderId at h
  split at h
  · nomatch h
  · split at h
    · nomatch h
    · rw [validateClientOrderId_ok h, String.append_assoc, String.append_assoc]
      exact legKindOf_opening .entry _

theorem legKindOf_protectionClientOrderId {leg : OrderLegKind} {word positionId c : String} {revision : ℕ}
    (h : protectionClientOrderId leg word positionId revision = .ok c) : legKindOf c = some leg := by
  unfold protectionClientOrderId at h
  split at h
  · nomatch h
  · split at h
    · nomatch h
    · rw [validateClientOrderId_ok h]
      exact legKindOf_opening leg _

theorem legKindOf_stopClientOrderId {positionId c : String} {revision : ℕ} (h : stopClientOrderId positionId revision = .ok c) :
    legKindOf c = some .stop := legKindOf_protectionClientOrderId h

theorem legKindOf_targetClientOrderId {positionId c : String} {revision : ℕ}
    (h : targetClientOrderId positionId revision = .ok c) : legKindOf c = some .target := legKindOf_protectionClientOrderId h

/-- An id with a leg is the engine's own. -/
theorem isV2ClientOrderId_of_legKindOf {c : String} {leg : OrderLegKind} (h : legKindOf c = some leg) :
    isV2ClientOrderId c = true := by
  unfold isV2ClientOrderId
  rw [h]
  rfl

/-- An id with a leg is not empty. -/
theorem ne_empty_of_legKindOf {c : String} {leg : OrderLegKind} (h : legKindOf c = some leg) : c ≠ "" := by
  rintro rfl
  have hnone : legKindOf "" = none := by simp [legKindOf, OrderLegKind.opening]
  rw [hnone] at h
  nomatch h

/-! ## Ids that can be minted -/

theorem hexDigit_isAlphanum (n : ℕ) : (Digest.hexDigit n).isAlphanum = true := by
  unfold Digest.hexDigit
  by_cases hn : n < 16
  · have hdigits : "0123456789abcdef".toList =
        ['0', '1', '2', '3', '4', '5', '6', '7', '8', '9', 'a', 'b', 'c', 'd', 'e', 'f'] := rfl
    rw [hdigits]
    revert n
    decide
  · have hlength : "0123456789abcdef".toList.length = 16 := by decide
    rw [List.getD_eq_getElem?_getD, List.getElem?_eq_none (by omega)]
    decide

/-- A hash of parts is a text of letters and digits, at most as long as it was asked for. -/
theorem hashParts_spec (parts : List String) (length : ℕ) :
    (hashParts parts length).toList.length ≤ length ∧ ∀ c ∈ (hashParts parts length).toList, clientOrderIdChar c = true := by
  unfold hashParts Digest.sha256Digits
  simp only [String.toList_ofList]
  refine ⟨List.length_take_le _ _, fun c hc => ?_⟩
  obtain ⟨word, -, hdigit⟩ := List.mem_flatMap.mp (List.mem_of_mem_take hc)
  unfold Digest.hexWord at hdigit
  obtain ⟨i, -, rfl⟩ := List.mem_map.mp hdigit
  unfold clientOrderIdChar
  rw [hexDigit_isAlphanum, Bool.true_or]

/-- The letters of a leg are three characters of a client id. -/
theorem opening_spec (leg : OrderLegKind) : leg.opening.toList.length = 3 ∧ leg.opening.toList ≠ [] ∧
    leg.opening.toList.all clientOrderIdChar = true := by
  cases leg <;> decide

/-- A position with an id has protection ids under every revision. -/
theorem protectionClientOrderId_isOk {positionId : String} {revision : ℕ} (hid : positionId ≠ "") (hrevision : 1 ≤ revision)
    (leg : OrderLegKind) (word : String) : ∃ c, protectionClientOrderId leg word positionId revision = .ok c := by
  obtain ⟨hlength, hchars⟩ := hashParts_spec [positionId, word, toString revision] 18
  unfold protectionClientOrderId
  rw [if_neg hid, if_neg (Nat.not_lt.mpr hrevision)]
  have hopening := opening_spec leg
  unfold validateClientOrderId
  rw [if_neg, if_neg]
  · exact ⟨_, rfl⟩
  · rintro (hempty | hbad)
    · simp only [String.toList_append, List.append_eq_nil_iff] at hempty
      exact hopening.2.1 hempty.1.1
    · refine hbad ?_
      rw [String.toList_append, String.toList_append, List.all_append, List.all_append, hopening.2.2, Bool.true_and,
        List.all_eq_true.mpr hchars]
      decide
  · rw [← String.length_toList, String.toList_append, String.toList_append, List.length_append, List.length_append, hopening.1]
    unfold maxClientOrderIdLength
    have hhyphen : "-".toList.length = 1 := by decide
    omega

/-- A number is written with characters of a client id. -/
theorem toString_chars (n : ℕ) : (toString n).toList.all clientOrderIdChar = true := by
  rw [Nat.toString_eq_repr, Nat.toList_repr, List.all_eq_true]
  intro c hc
  have hdigit : c.isDigit = true := Nat.isDigit_of_mem_toDigits (by decide) (by decide) hc
  unfold clientOrderIdChar Char.isAlphanum
  rw [hdigit, Bool.or_true, Bool.true_or]

/-- A position with an id has exit ids, as long as the number of the attempt fits. -/
theorem exitClientOrderId_isOk {positionId : String} {attempt : ℕ} (hid : positionId ≠ "") (hattempt : 1 ≤ attempt)
    (hfits : attempt < 10 ^ 11) : ∃ c, exitClientOrderId positionId attempt = .ok c := by
  obtain ⟨hlength, hchars⟩ := hashParts_spec [positionId, toString attempt] 20
  have hnumber : (toString attempt).toList.length ≤ 11 := by
    rw [Nat.toString_eq_repr, Nat.toList_repr]
    exact (Nat.length_toDigits_le_iff (by decide) (by decide)).mpr hfits
  have hopening := opening_spec .exit
  have hhyphen : "-".toList.length = 1 ∧ "-".toList.all clientOrderIdChar := by decide
  unfold exitClientOrderId
  rw [if_neg hid, if_neg (Nat.not_lt.mpr hattempt)]
  unfold validateClientOrderId
  rw [if_neg, if_neg]
  · exact ⟨_, rfl⟩
  · rintro (hempty | hbad)
    · simp only [String.toList_append, List.append_eq_nil_iff] at hempty
      exact hopening.2.1 hempty.1.1.1.1
    · refine hbad ?_
      simp only [String.toList_append, List.all_append, hopening.2.2, hhyphen.2, toString_chars, List.all_eq_true.mpr hchars,
        Bool.and_self]
  · rw [← String.length_toList]
    simp only [String.toList_append, List.length_append, hopening.1, hhyphen.1]
    unfold maxClientOrderIdLength
    omega

/-- A protection id is minted for a position with an id. -/
theorem positionId_ne_empty_of_stop {positionId c : String} {revision : ℕ} (h : stopClientOrderId positionId revision = .ok c) :
    positionId ≠ "" := by
  rintro rfl
  unfold stopClientOrderId protectionClientOrderId at h
  rw [if_pos rfl] at h
  nomatch h

/-- A protection id is minted under a revision that is not zero. -/
theorem revision_pos_of_stop {positionId c : String} {revision : ℕ} (h : stopClientOrderId positionId revision = .ok c) :
    1 ≤ revision := by
  unfold stopClientOrderId protectionClientOrderId at h
  split at h
  · nomatch h
  · split at h
    · nomatch h
    · rename_i hrevision
      omega

end TradingPlatform
