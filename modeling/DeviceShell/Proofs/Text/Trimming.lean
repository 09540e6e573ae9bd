import DeviceShell.Text.Blank
import Mathlib.Data.List.DropRight

/-!
# Trimming finds the one text between the blanks

`trim` is written as two sweeps, one from each end. What every reader wants to
know about it is not the sweeps but the decomposition behind them: a text is
some blanks, a middle that starts and ends with something visible, and some
more blanks, and there is only one way to cut it like that. `trim_eq_iff` is
that statement. Its halves serve two ends, to take a line apart and to show
that a line with blanks put into it is read as if they were not there.
-/

namespace DeviceShell.Text

/-- Nothing but blanks. -/
def Blank (w : List Char) : Prop := ∀ c ∈ w, isBlank c = true

/-- Neither starts nor ends with a blank. -/
def Trimmed (t : List Char) : Prop :=
  (∀ c ∈ t.head?, isBlank c = false) ∧ (∀ c ∈ t.getLast?, isBlank c = false)

/-- The text `s` is `t` with blanks around it. -/
def Padded (t s : List Char) : Prop :=
  ∃ before after, Blank before ∧ Blank after ∧ s = before ++ t ++ after

instance (w : List Char) : Decidable (Blank w) :=
  List.decidableBAll (isBlank · = true) w

instance (t : List Char) : Decidable (Trimmed t) :=
  @instDecidableAnd _ _ (Option.decidableForallMem _)
    (Option.decidableForallMem _)

theorem blank_nil : Blank [] := List.forall_mem_nil _

theorem blank_append {v w : List Char} : Blank (v ++ w) ↔ Blank v ∧ Blank w :=
  List.forall_mem_append

theorem Blank.not_mem {w : List Char} (hw : Blank w) {c : Char}
    (hc : isBlank c = false) : c ∉ w := by
  intro hmem
  rw [hw c hmem] at hc
  exact Bool.noConfusion hc

theorem padded_self (t : List Char) : Padded t t :=
  ⟨[], [], blank_nil, blank_nil, by simp⟩

/-- What is visible in a padded text is visible in the text inside. -/
theorem Padded.mem_iff {t s : List Char} (h : Padded t s) {c : Char}
    (hc : isBlank c = false) : c ∈ s ↔ c ∈ t := by
  obtain ⟨before, after, hb, ha, rfl⟩ := h
  simp [hb.not_mem hc, ha.not_mem hc]

theorem Padded.blank_iff {t s : List Char} (h : Padded t s) :
    Blank s ↔ Blank t := by
  obtain ⟨before, after, hb, ha, rfl⟩ := h
  rw [blank_append, blank_append]
  exact ⟨fun h => h.1.2, fun h => ⟨⟨hb, h⟩, ha⟩⟩

/-- A trimmed text that is blank is empty. -/
theorem Trimmed.eq_nil {t : List Char} (ht : Trimmed t) (hb : Blank t) :
    t = [] := by
  cases t with
  | nil => rfl
  | cons c t =>
      have h := ht.1 c rfl
      rw [hb c List.mem_cons_self] at h
      exact Bool.noConfusion h

/-! ## The two sweeps -/

theorem trimEnd_eq_rdropWhile (cs : List Char) :
    trimEnd cs = cs.rdropWhile isBlank := rfl

theorem trimStart_eq_self {t : List Char}
    (h : ∀ c ∈ t.head?, isBlank c = false) :
    trimStart t = t := by
  cases t with
  | nil => rfl
  | cons c t => exact List.dropWhile_cons_of_neg (by simp [h c rfl])

theorem trimEnd_eq_self {t : List Char}
    (h : ∀ c ∈ t.getLast?, isBlank c = false) :
    trimEnd t = t := by
  rw [trimEnd_eq_rdropWhile, List.rdropWhile_eq_self_iff]
  intro hne
  rw [h _ (List.getLast?_eq_getLast_of_ne_nil hne)]
  exact Bool.false_ne_true

theorem trimStart_append {before : List Char} (hb : Blank before)
    (s : List Char) :
    trimStart (before ++ s) = trimStart s :=
  List.dropWhile_append_of_pos hb

theorem trimEnd_append {after : List Char} (ha : Blank after) (s : List Char) :
    trimEnd (s ++ after) = trimEnd s := by
  have hr : ∀ c ∈ after.reverse, isBlank c = true :=
    fun c hc => ha c (List.mem_reverse.mp hc)
  rw [trimEnd, trimEnd, List.reverse_append, List.dropWhile_append_of_pos hr]

theorem trimStart_spec (s : List Char) :
    (∃ before, Blank before ∧ s = before ++ trimStart s) ∧
      ∀ c ∈ (trimStart s).head?, isBlank c = false := by
  refine ⟨⟨s.takeWhile isBlank, fun c hc => List.mem_takeWhile_imp hc,
    List.takeWhile_append_dropWhile.symm⟩, fun c hc => ?_⟩
  have h := List.head?_dropWhile_not isBlank s
  rw [show (s.dropWhile isBlank).head? = some c from hc] at h
  simpa using h

theorem trimEnd_spec (s : List Char) :
    (∃ after, Blank after ∧ s = trimEnd s ++ after) ∧
      ∀ c ∈ (trimEnd s).getLast?, isBlank c = false := by
  obtain ⟨⟨before, hb, hs⟩, hhead⟩ := trimStart_spec s.reverse
  refine ⟨⟨before.reverse, fun c hc => hb c (List.mem_reverse.mp hc), ?_⟩,
    fun c hc => ?_⟩
  · rw [trimEnd, ← List.reverse_append]
    exact List.reverse_eq_iff.mp hs
  · rw [trimEnd, List.getLast?_reverse] at hc
    exact hhead c hc

/-! ## The decomposition -/

theorem trim_of_padded {t s : List Char} (ht : Trimmed t) (h : Padded t s) :
    trim s = t := by
  obtain ⟨before, after, hb, ha, rfl⟩ := h
  rw [trim, List.append_assoc, trimStart_append hb]
  by_cases hnil : t = []
  · subst hnil
    have hstart : trimStart after = [] := by
      have h := trimStart_append ha []
      rwa [List.append_nil] at h
    rw [List.nil_append, hstart]
    rfl
  · have hhead : ∀ c ∈ (t ++ after).head?, isBlank c = false := by
      rw [List.head?_append_of_ne_nil _ hnil]
      exact ht.1
    rw [trimStart_eq_self hhead, trimEnd_append ha, trimEnd_eq_self ht.2]

theorem padded_trim (s : List Char) : Padded (trim s) s := by
  obtain ⟨⟨before, hb, hs⟩, _⟩ := trimStart_spec s
  obtain ⟨⟨after, ha, hm⟩, _⟩ := trimEnd_spec (trimStart s)
  refine ⟨before, after, hb, ha, ?_⟩
  rw [trim, List.append_assoc, ← hm]
  exact hs

theorem trimmed_trim (s : List Char) : Trimmed (trim s) := by
  obtain ⟨_, hhead⟩ := trimStart_spec s
  obtain ⟨⟨after, _, hm⟩, hlast⟩ := trimEnd_spec (trimStart s)
  refine ⟨fun c hc => hhead c ?_, hlast⟩
  rw [hm, List.head?_append]
  rw [trim] at hc
  rw [hc]
  rfl

/-- Trimming is the decomposition of a text into blanks, a trimmed text, and
blanks. -/
theorem trim_eq_iff {s t : List Char} :
    trim s = t ↔ Trimmed t ∧ Padded t s := by
  constructor
  · rintro rfl
    exact ⟨trimmed_trim s, padded_trim s⟩
  · rintro ⟨ht, h⟩
    exact trim_of_padded ht h

theorem trim_eq_nil_iff {s : List Char} : trim s = [] ↔ Blank s := by
  constructor
  · intro h
    rw [(padded_trim s).blank_iff, h]
    exact blank_nil
  · intro h
    exact (trimmed_trim s).eq_nil ((padded_trim s).blank_iff.mp h)

theorem trim_ne_nil_iff {s : List Char} : trim s ≠ [] ↔ ¬ Blank s :=
  not_congr trim_eq_nil_iff

theorem padded_append {w : List Char} (hw : Blank w) (t : List Char) :
    Padded t (t ++ w) :=
  ⟨[], w, blank_nil, hw, by simp⟩

theorem padded_of_append {w : List Char} (hw : Blank w) (t : List Char) :
    Padded t (w ++ t) :=
  ⟨w, [], hw, blank_nil, by simp⟩

/-- What is trimmed does not depend on the blanks around it. -/
theorem Padded.trim_eq {t s : List Char} (h : Padded t s) :
    trim s = trim t := by
  obtain ⟨before, after, hb, ha, rfl⟩ := h
  obtain ⟨front, back, hfront, hback, ht⟩ := padded_trim t
  refine trim_of_padded (trimmed_trim t) ⟨before ++ front, back ++ after,
    blank_append.mpr ⟨hb, hfront⟩, blank_append.mpr ⟨hback, ha⟩, ?_⟩
  conv_lhs => rw [ht]
  simp

/-- Trimming takes no visible character away. -/
theorem mem_trim_iff {s : List Char} {c : Char} (hc : isBlank c = false) :
    c ∈ trim s ↔ c ∈ s :=
  ((padded_trim s).mem_iff hc).symm

end DeviceShell.Text
