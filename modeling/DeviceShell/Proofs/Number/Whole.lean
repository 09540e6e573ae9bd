import DeviceShell.Number.Whole

/-!
# The decimal text of a word reads back

The digits of a number are what core's printer writes, and core knows that its
reader takes them back. What is left is the sign, which no digit can be taken
for, and the range, which every word is in.
-/

namespace DeviceShell.Number

theorem all_isDigit_toDigits (k : Nat) :
    ∀ c ∈ Nat.toDigits 10 k, c.isDigit = true :=
  fun _ hc => Nat.isDigit_of_mem_toDigits (by decide) (by decide) hc

theorem digits?_toDigits (k : Nat) : digits? (Nat.toDigits 10 k) = some k := by
  have hall : (Nat.toDigits 10 k).all Char.isDigit = true :=
    List.all_eq_true.mpr (all_isDigit_toDigits k)
  have hne : (Nat.toDigits 10 k).isEmpty = false :=
    List.isEmpty_eq_false_iff.mpr Nat.toDigits_ne_nil
  rw [digits?, hall, hne]
  simp [Nat.ofDigitChars_ten_toDigits]

theorem word?_toInt (n : Int64) : word? n.toInt = some n := by
  have hlo := Int64.le_toInt n
  have hhi := Int64.toInt_lt n
  rw [word?, if_pos ⟨by rw [wordBound]; omega, by rw [wordBound]; omega⟩,
    Int64.ofInt_toInt]

/-- A text that does not start with a minus sign is read as digits alone. -/
theorem plainWord?_of_head {cs : List Char} (h : cs.head? ≠ some '-') :
    plainWord? cs = (digits? cs).bind fun n => word? n := by
  rw [plainWord?.eq_def]
  split
  · exact absurd rfl h
  · rfl

theorem head?_toDigits_ne (k : Nat) : (Nat.toDigits 10 k).head? ≠ some '-' := by
  intro h
  exact absurd (all_isDigit_toDigits k '-' (List.mem_of_head? h)) (by decide)

/-- A word reads back from its decimal text. -/
theorem plainWord?_wordText (n : Int64) : plainWord? (wordText n) = some n := by
  have hw := word?_toInt n
  rw [wordText]
  split
  · next k hk =>
      rw [plainWord?_of_head (head?_toDigits_ne k), digits?_toDigits,
        Option.bind_some, ← hw, hk]
      rfl
  · next k hk =>
      rw [plainWord?, digits?_toDigits, Option.bind_some, ← hw, hk]
      rfl

/-! ## Counts -/

theorem toInt_ofNat {n : Nat} (hn : n < wordBound) :
    (Int64.ofNat n).toInt = n :=
  Int64.toInt_ofNat_of_lt (by rw [wordBound] at hn; omega)

theorem wordText_ofNat {n : Nat} (hn : n < wordBound) :
    wordText (Int64.ofNat n) = Nat.toDigits 10 n := by
  rw [wordText, toInt_ofNat hn]

end DeviceShell.Number
