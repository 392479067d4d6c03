import ValueTypes.Json.Number

namespace ValueTypes

namespace Text

/-- Whatever the base, numbers are written in digits. -/
theorem exists_digit_of_mem_toDigits {b : Nat} (low : 1 < b) (n : Nat) :
    ∀ c ∈ Nat.toDigits b n, ∃ d < b, c = Nat.digitChar d := by
  induction n using Nat.strongRecOn with
  | ind n ih =>
    by_cases small : n < b
    · rw [Nat.toDigits_of_lt_base small, List.forall_mem_singleton]
      exact ⟨n, small, rfl⟩
    · have last : n % b < b := Nat.mod_lt n (by omega)
      rw [Nat.toDigits_of_base_le low (Nat.not_lt.mp small), List.forall_mem_append,
        List.forall_mem_singleton]
      exact ⟨ih (n / b) (Nat.div_lt_self (by omega) low), n % b, last, rfl⟩

/-- No digits before the first that counts. -/
theorem head_toDigits_ne_zero {n : Nat} (pos : 0 < n) : (Nat.toDigits 10 n).head? ≠ some '0' := by
  induction n using Nat.strongRecOn with
  | ind n ih =>
    by_cases small : n < 10
    · have single : ∀ d, d < 10 → 0 < d → Nat.digitChar d ≠ '0' := by decide
      rw [Nat.toDigits_of_lt_base small]
      intro zero
      exact single n small pos (Option.some.inj zero)
    · have split := Nat.toDigits_of_base_le (b := 10) (n := n) (by decide) (by omega)
      have first := ih (n / 10) (by omega) (by omega)
      rw [split, List.head?_append]
      cases ds : Nat.toDigits 10 (n / 10) with
      | nil => exact absurd ds Nat.toDigits_ne_nil
      | cons c cs =>
        rw [ds] at first
        exact first

end Text

namespace Json.Number

theorem whole?_toDigits (n : Nat) : whole? (Nat.toDigits 10 n) = true := by
  by_cases zero : n = 0
  · subst zero
    rfl
  · have first := Text.head_toDigits_ne_zero (Nat.pos_of_ne_zero zero)
    unfold whole?
    split
    · rename_i empty
      exact absurd empty Nat.toDigits_ne_nil
    · rfl
    · rename_i c ds _ digits
      rw [digits] at first
      simpa using first

/- The significand never outgrows the whole number, so if that fits no digit is dropped. -/

theorem le_ofDigitChars (ds : List Char) (s : Nat) : s ≤ Nat.ofDigitChars 10 ds s := by
  induction ds generalizing s with
  | nil => exact Nat.le_refl s
  | cons c ds ih =>
    have rest := ih (10 * s + (c.toNat - '0'.toNat))
    rw [Nat.ofDigitChars_cons]
    omega

theorem gather_eq {ds : List Char} {s : Nat}
    (fits : Nat.ofDigitChars 10 ds s < 0x10000000000000000) :
    gather s ds = (Nat.ofDigitChars 10 ds s, []) := by
  induction ds generalizing s with
  | nil => rfl
  | cons c ds ih =>
    rw [Nat.ofDigitChars_cons] at fits ⊢
    have grows := le_ofDigitChars ds (10 * s + (c.toNat - '0'.toNat))
    have next : s * 10 + (c.toNat - '0'.toNat) = 10 * s + (c.toNat - '0'.toNat) := by omega
    have room : 10 * s + (c.toNat - '0'.toNat) < 0x10000000000000000 := by omega
    simp only [gather, next, if_pos room, ih fits]

theorem span_append {p : Char → Bool} {cs rest : List Char} (within : ∀ c ∈ cs, p c = true)
    (stop : ∀ c ∈ rest.head?, p c = false) :
    (cs ++ rest).takeWhile p = cs ∧ (cs ++ rest).dropWhile p = rest := by
  rw [List.takeWhile_append_of_pos within, List.dropWhile_append_of_pos within]
  cases rest with
  | nil => exact ⟨List.append_nil cs, rfl⟩
  | cons c rest =>
    have last := stop c rfl
    simp [last]

/-- Digits alone, after a minus sign or without one. -/
theorem parts?_digits {ds : List Char} (digits : ∀ c ∈ ds, c.isDigit = true)
    (whole : whole? ds = true) :
    parts? ds = some ⟨false, ds, none, none⟩ ∧ parts? ('-' :: ds) = some ⟨true, ds, none, none⟩ := by
  have stop : ∀ c ∈ ([] : List Char).head?, c.isDigit = false := nofun
  obtain ⟨taken, dropped⟩ := span_append digits stop
  rw [List.append_nil] at taken dropped
  constructor
  · unfold parts?
    split
    rename_i c cs h
    split at h
    · exact absurd (digits '-' (by simp)) (by decide)
    · simp at h
      obtain ⟨rfl, rfl⟩ := h
      simp [taken, dropped, whole, tail?]
  · simp [parts?, taken, dropped, whole, tail?]

theorem ofParts_whole (negative : Bool) {ds : List Char}
    (fits : Nat.ofDigitChars 10 ds 0 < 0x10000000000000000) :
    ofParts ⟨negative, ds, none, none⟩ = ofWhole negative (Nat.ofDigitChars 10 ds 0) := by
  simp [ofParts, gather_eq fits]

theorem ofWhole_natAbs (n : Int) (low : -0x8000000000000000 ≤ n) (high : n < 0x10000000000000000) :
    ofWhole (decide (n < 0)) n.natAbs = some (.int n low high) := by
  have back : (if decide (n < 0) = true then -(n.natAbs : Int) else n.natAbs) = n := by
    by_cases neg : n < 0
    · simp only [decide_eq_true neg, if_true]
      omega
    · simp only [neg, decide_false, Bool.false_eq_true, if_false]
      omega
  have signed : ¬(decide (n < 0) = true ∧ n.natAbs = 0) := by
    intro h
    have neg := of_decide_eq_true h.1
    omega
  unfold ofWhole
  simp only [back]
  rw [dif_pos ⟨⟨low, high⟩, signed⟩]

theorem read_numeral (n : Int) (low : -0x8000000000000000 ≤ n) (high : n < 0x10000000000000000) :
    read (Text.numeral n).toList = some (.int n low high) := by
  have digits : ∀ c ∈ Nat.toDigits 10 n.natAbs, c.isDigit = true := fun c hc =>
    Nat.isDigit_of_mem_toDigits (by decide) (by decide) hc
  obtain ⟨plain, minus⟩ := parts?_digits digits (whole?_toDigits n.natAbs)
  have value : Nat.ofDigitChars 10 (Nat.toDigits 10 n.natAbs) 0 = n.natAbs :=
    Nat.ofDigitChars_ten_toDigits
  have fits : Nat.ofDigitChars 10 (Nat.toDigits 10 n.natAbs) 0 < 0x10000000000000000 := by
    rw [value]
    omega
  have whole := ofWhole_natAbs n low high
  unfold read Text.numeral
  rw [String.toList_ofList]
  by_cases neg : n < 0
  · rw [if_pos neg, minus, Option.bind_some, ofParts_whole true fits, value]
    simpa [neg] using whole
  · rw [if_neg neg, plain, Option.bind_some, ofParts_whole false fits, value]
    simpa [neg] using whole

end Json.Number
end ValueTypes
