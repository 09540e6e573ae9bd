import Mathlib.Tactic.Ring
import DeviceShell.Proofs.Number.Whole

/-!
# What the text of a word says

The reader goes through the digits from the front and multiplies by ten at each.
What a run of digits means is said the other way: every digit counts as often as
its place says. `digits?_eq_some_iff` is the agreement of the two, for runs of
any length and with any number of zeros in front. On top of it
`plainWord?_eq_some_iff` says which texts are read as a word and as which: a
text means one integer at most, and it is read if that is in the range of the
words, both ends included.
-/

namespace DeviceShell.Number

/-- The value of a run of digits. The last one counts once, and each of the
others ten times as much as the one behind it. -/
def placeValue : List Char → Nat
  | [] => 0
  | c :: rest => (c.toNat - '0'.toNat) * 10 ^ rest.length + placeValue rest

/-- One or more ASCII digits. -/
def IsDigits (cs : List Char) : Prop :=
  cs ≠ [] ∧ ∀ c ∈ cs, c.isDigit = true

/-- The decimal texts of an integer: digits of its value, and a minus sign in
front of them for the opposite. -/
inductive DecimalText : List Char → Int → Prop where
  | digits {ds} (hds : IsDigits ds) : DecimalText ds (placeValue ds)
  | minus {ds} (hds : IsDigits ds) : DecimalText ('-' :: ds) (-placeValue ds)

theorem ofDigitChars_eq_placeValue (ds : List Char) :
    Nat.ofDigitChars 10 ds 0 = placeValue ds := by
  induction ds with
  | nil => rfl
  | cons c rest ih =>
      rw [Nat.ofDigitChars_cons, Nat.ofDigitChars_eq_ofDigitChars_zero,
        ih, placeValue]
      ring

theorem digits?_eq_some_iff {cs : List Char} {k : Nat} :
    digits? cs = some k ↔ IsDigits cs ∧ placeValue cs = k := by
  have hdigits : (!cs.isEmpty && cs.all Char.isDigit) = true ↔ IsDigits cs := by
    rw [Bool.and_eq_true, Bool.not_eq_true', List.isEmpty_eq_false_iff,
      List.all_eq_true, IsDigits]
  rw [digits?, ofDigitChars_eq_placeValue]
  split
  · next h => simp only [hdigits.mp h, true_and, Option.some.injEq]
  · next h =>
      rw [hdigits] at h
      simp only [h, false_and, reduceCtorEq]

theorem word?_eq_some_iff {z : Int} {n : Int64} :
    word? z = some n ↔ n.toInt = z := by
  constructor
  · intro h
    rw [word?] at h
    split at h
    · next hrange =>
        cases h
        exact Int64.toInt_ofInt_of_le (by rw [wordBound] at hrange; omega)
          (by rw [wordBound] at hrange; omega)
    · cases h
  · rintro rfl
    exact word?_toInt n

theorem IsDigits.head?_ne {ds : List Char} (h : IsDigits ds) :
    ds.head? ≠ some '-' := by
  intro hminus
  exact absurd (h.2 '-' (List.mem_of_head? hminus)) (by decide)

/-- A character that can stand in the text of a number. -/
def IsNumeral (c : Char) : Prop := c.isDigit = true ∨ c = '-'

instance (c : Char) : Decidable (IsNumeral c) :=
  inferInstanceAs (Decidable (_ ∨ _))

theorem DecimalText.isNumeral {cs : List Char} {z : Int}
    (h : DecimalText cs z) :
    ∀ c ∈ cs, IsNumeral c := by
  cases h with
  | digits hds => exact fun c hc => .inl (hds.2 c hc)
  | minus hds =>
      exact List.forall_mem_cons.mpr ⟨.inr rfl, fun c hc => .inl (hds.2 c hc)⟩

/-- A text means one integer at most. -/
theorem DecimalText.unique {cs : List Char} {y z : Int} (hy : DecimalText cs y)
    (hz : DecimalText cs z) : y = z := by
  cases hy with
  | digits hds =>
      cases hz with
      | digits => rfl
      | minus => exact absurd rfl hds.head?_ne
  | minus =>
      generalize hcs : '-' :: _ = cs at hz
      cases hz with
      | digits hds => exact absurd (hcs ▸ rfl) hds.head?_ne
      | minus =>
          cases hcs
          rfl

/-- The texts that are read as a word are the decimal texts of that word. -/
theorem plainWord?_eq_some_iff {cs : List Char} {n : Int64} :
    plainWord? cs = some n ↔ DecimalText cs n.toInt := by
  constructor
  · intro h
    rw [plainWord?.eq_def] at h
    split at h
    · obtain ⟨k, hk, hn⟩ := Option.bind_eq_some_iff.mp h
      obtain ⟨hds, rfl⟩ := digits?_eq_some_iff.mp hk
      rw [word?_eq_some_iff.mp hn]
      exact .minus hds
    · obtain ⟨k, hk, hn⟩ := Option.bind_eq_some_iff.mp h
      obtain ⟨hds, rfl⟩ := digits?_eq_some_iff.mp hk
      rw [word?_eq_some_iff.mp hn]
      exact .digits hds
  · generalize hz : n.toInt = z
    rintro (hds | hds)
    · rw [plainWord?_of_head hds.head?_ne, digits?_eq_some_iff.mpr ⟨hds, rfl⟩,
        Option.bind_some]
      exact word?_eq_some_iff.mpr hz
    · rw [plainWord?, digits?_eq_some_iff.mpr ⟨hds, rfl⟩, Option.bind_some]
      exact word?_eq_some_iff.mpr hz

/-- A text that is read as a word holds digits and signs only. -/
theorem of_plainWord?_eq_some {cs : List Char} {n : Int64}
    (h : plainWord? cs = some n) :
    ∀ c ∈ cs, IsNumeral c :=
  (plainWord?_eq_some_iff.mp h).isNumeral

theorem mem_wordText (n : Int64) : ∀ c ∈ wordText n, IsNumeral c :=
  of_plainWord?_eq_some (plainWord?_wordText n)

theorem signedWord?_of_plainWord? {cs : List Char} {n : Int64}
    (h : plainWord? cs = some n) :
    signedWord? cs = some n := by
  rw [signedWord?.eq_def]
  split
  · have hplus := of_plainWord?_eq_some h '+' List.mem_cons_self
    exact absurd hplus (by decide)
  · exact h

/-- A decimal text that is too large or too small for a word is not read. -/
theorem plainWord?_eq_none_of_out {cs : List Char} {z : Int}
    (h : DecimalText cs z) (hout : z < -wordBound ∨ wordBound ≤ z) :
    plainWord? cs = none := by
  cases hread : plainWord? cs with
  | none => rfl
  | some n =>
      have hz := h.unique (plainWord?_eq_some_iff.mp hread)
      have hlo := Int64.le_toInt n
      have hhi := Int64.toInt_lt n
      rw [wordBound] at hout
      omega

end DeviceShell.Number
