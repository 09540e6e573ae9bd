import DeviceShell.Command.Reader
import DeviceShell.Proofs.Text.Pieces

/-!
# Which equals signs stand outside the parentheses

`splitAssignment` finds an equals sign while it counts parentheses, and the
count saturates: a parenthesis that closes nothing is ignored. Two readings of
that count are needed. To take a line apart, the one without a counter is the
clearer: a text leaves nothing open when none of its ends opens more
parentheses than it closes (`Closed`). To put a line together, the counter is
the handier, since it composes over `++` and does not see any character but
the two parentheses and the equals sign. `depthAfter_eq_zero_iff` says that the
two readings agree, and the two lemmas on `splitAssignment` say that it stops
at the first equals sign that is free under them.

The invariant behind the agreement is more general than its use: the depth is
at most `n` exactly when every end of the text opens at most `n` more than it
closes, the whole text being charged for what was open before it.
-/

namespace DeviceShell.Command

open Text

/-- The number of open parentheses after one more character. -/
def nesting (depth : Nat) (c : Char) : Nat :=
  if c = '(' then depth + 1 else if c = ')' then depth - 1 else depth

/-- The number of open parentheses after a text, given the number before it. -/
def depthAfter (depth : Nat) (s : List Char) : Nat :=
  s.foldl nesting depth

/-- No parenthesis of the text is left open: no end of it opens more than it
closes. -/
def Closed (s : List Char) : Prop :=
  ∀ t, t <:+ s → t.count '(' ≤ t.count ')'

/-- Every equals sign of the text stands inside a parenthesis, given the number
of those open before it. -/
def Shielded (depth : Nat) (s : List Char) : Prop :=
  ∀ l r, s = l ++ '=' :: r → depthAfter depth l ≠ 0

/-! ## The counter -/

theorem depthAfter_nil (d : Nat) : depthAfter d [] = d := rfl

theorem depthAfter_cons (d : Nat) (c : Char) (s : List Char) :
    depthAfter d (c :: s) = depthAfter (nesting d c) s := rfl

theorem nesting_of_ne {c : Char} (d : Nat) (ho : c ≠ '(') (hc : c ≠ ')') :
    nesting d c = d := by
  rw [nesting, if_neg ho, if_neg hc]

/-- With nothing open, a text that opens nothing leaves nothing open. -/
theorem depthAfter_zero_of_not_mem {s : List Char} (ho : '(' ∉ s) :
    depthAfter 0 s = 0 := by
  induction s with
  | nil => rfl
  | cons c s ih =>
      rw [List.mem_cons, not_or] at ho
      have hstep : nesting 0 c = 0 := by
        rw [nesting, if_neg (Ne.symm ho.1)]
        split <;> rfl
      rw [depthAfter_cons, hstep, ih ho.2]

/-- A parenthesis that closes nothing costs nothing: the rest of the text is one
of its own ends. -/
theorem depthAfter_le_iff (d n : Nat) (s : List Char) :
    depthAfter d s ≤ n ↔ d + s.count '(' ≤ n + s.count ')' ∧
      ∀ t, t <:+ s → t.count '(' ≤ n + t.count ')' := by
  induction s generalizing d with
  | nil =>
      simp only [depthAfter_nil, List.suffix_nil, List.count_nil]
      constructor
      · intro h
        refine ⟨by omega, ?_⟩
        rintro t rfl
        simp
      · rintro ⟨h, -⟩
        omega
  | cons c s ih =>
      have hself := List.suffix_refl s
      have hends : (∀ t, t <:+ c :: s → t.count '(' ≤ n + t.count ')') ↔
          (c :: s).count '(' ≤ n + (c :: s).count ')' ∧
            ∀ t, t <:+ s → t.count '(' ≤ n + t.count ')' := by
        constructor
        · intro h
          exact ⟨h _ (List.suffix_refl _),
            fun t ht => h t (ht.trans (List.suffix_cons c s))⟩
        · rintro ⟨hall, hrest⟩ t ht
          rcases List.suffix_cons_iff.mp ht with rfl | ht
          · exact hall
          · exact hrest t ht
      rw [depthAfter_cons, ih, hends]
      by_cases ho : c = '('
      · subst ho
        rw [nesting, if_pos rfl, List.count_cons_self,
          List.count_cons_of_ne (by decide : '(' ≠ ')')]
        constructor
        · rintro ⟨h, hrest⟩
          exact ⟨by omega, by omega, hrest⟩
        · rintro ⟨h, _, hrest⟩
          exact ⟨by omega, hrest⟩
      · by_cases hc : c = ')'
        · subst hc
          rw [nesting, if_neg ho, if_pos rfl, List.count_cons_self,
            List.count_cons_of_ne (by decide : ')' ≠ '(')]
          constructor
          · rintro ⟨h, hrest⟩
            exact ⟨by omega, by omega, hrest⟩
          · rintro ⟨h, _, hrest⟩
            have hown := hrest s hself
            exact ⟨by omega, hrest⟩
        · rw [nesting_of_ne d ho hc, List.count_cons_of_ne ho,
            List.count_cons_of_ne hc]
          constructor
          · rintro ⟨h, hrest⟩
            exact ⟨h, hrest s hself, hrest⟩
          · rintro ⟨h, _, hrest⟩
            exact ⟨h, hrest⟩

/-- The counter is at zero exactly when nothing is left open. -/
theorem depthAfter_eq_zero_iff (s : List Char) :
    depthAfter 0 s = 0 ↔ Closed s := by
  rw [← Nat.le_zero, depthAfter_le_iff]
  simp only [Nat.zero_add]
  constructor
  · rintro ⟨-, h⟩
    exact h
  · intro h
    exact ⟨h s (List.suffix_refl s), h⟩

/-! ## Shielded texts -/

theorem shielded_nil (d : Nat) : Shielded d [] := by
  intro l r h
  cases l <;> cases h

theorem shielded_cons {d : Nat} {c : Char} {s : List Char} :
    Shielded d (c :: s) ↔ (c = '=' → d ≠ 0) ∧ Shielded (nesting d c) s := by
  constructor
  · intro h
    refine ⟨?_, fun l r hs => ?_⟩
    · rintro rfl
      exact h [] s rfl
    · exact h (c :: l) r (by rw [hs, List.cons_append])
  · rintro ⟨hc, hs⟩ l r heq
    cases l with
    | nil =>
        rw [List.nil_append, List.cons.injEq] at heq
        exact hc heq.1
    | cons c' l =>
        rw [List.cons_append, List.cons.injEq] at heq
        obtain ⟨rfl, heq⟩ := heq
        exact hs l r heq

theorem shielded_append {d : Nat} {s t : List Char} :
    Shielded d (s ++ t) ↔ Shielded d s ∧ Shielded (depthAfter d s) t := by
  induction s generalizing d with
  | nil => simp [shielded_nil, depthAfter_nil]
  | cons c s ih =>
      rw [List.cons_append, shielded_cons, ih, shielded_cons,
        depthAfter_cons, and_assoc]

theorem shielded_of_not_mem {s : List Char} (d : Nat) (h : '=' ∉ s) :
    Shielded d s := by
  intro l r hs
  exact absurd (hs ▸ List.mem_append_right l List.mem_cons_self) h

/-- A shielded text that opens nothing has no equals sign. -/
theorem Shielded.not_mem {s : List Char} (hs : Shielded 0 s) (ho : '(' ∉ s) :
    '=' ∉ s := by
  intro he
  obtain ⟨l, r, rfl⟩ := List.append_of_mem he
  have hl : '(' ∉ l := fun h => ho (List.mem_append_left _ h)
  exact hs l r rfl (depthAfter_zero_of_not_mem hl)

theorem shielded_zero_iff {s : List Char} :
    Shielded 0 s ↔ ∀ l r, s = l ++ '=' :: r → ¬ Closed l := by
  simp only [Shielded, ne_eq, depthAfter_eq_zero_iff]

/-! ## The search -/

theorem splitAssignment_eq_none_iff {d : Nat} {s : List Char} :
    splitAssignment d s = none ↔ Shielded d s := by
  induction s generalizing d with
  | nil => simp [splitAssignment, shielded_nil]
  | cons c s ih =>
      rw [splitAssignment, shielded_cons]
      split
      · next h => simp [h.1, h.2]
      · next h =>
          rw [Option.map_eq_none_iff]
          show splitAssignment (nesting d c) s = none ↔ _
          rw [ih]
          exact ⟨fun hs => ⟨fun hc hd => h ⟨hc, hd⟩, hs⟩, And.right⟩

/-- The split is at an equals sign with nothing open before it, and every
earlier equals sign is inside a parenthesis. -/
theorem splitAssignment_eq_some_iff {d : Nat} {s l r : List Char} :
    splitAssignment d s = some (l, r) ↔
      s = l ++ '=' :: r ∧ Shielded d l ∧ depthAfter d l = 0 := by
  induction s generalizing d l with
  | nil => simp [splitAssignment]
  | cons c s ih =>
      rw [splitAssignment]
      split
      · next h =>
          obtain ⟨rfl, rfl⟩ := h
          constructor
          · intro heq
            rw [Option.some.injEq, Prod.mk.injEq] at heq
            obtain ⟨rfl, rfl⟩ := heq
            exact ⟨rfl, shielded_nil 0, rfl⟩
          · rintro ⟨heq, hl, -⟩
            cases l with
            | nil =>
                rw [List.nil_append, List.cons.injEq] at heq
                rw [heq.2]
            | cons c' l =>
                rw [List.cons_append, List.cons.injEq] at heq
                exact absurd rfl ((shielded_cons.mp hl).1 heq.1.symm)
      · next h =>
          rw [Option.map_eq_some_iff]
          show (∃ p, splitAssignment (nesting d c) s = some p ∧ _) ↔ _
          constructor
          · rintro ⟨⟨left, right⟩, hp, heq⟩
            rw [Prod.mk.injEq] at heq
            obtain ⟨rfl, rfl⟩ := heq
            obtain ⟨rfl, hs, h0⟩ := ih.mp hp
            exact ⟨rfl, shielded_cons.mpr ⟨fun hc hd => h ⟨hc, hd⟩, hs⟩, h0⟩
          · rintro ⟨heq, hl, h0⟩
            cases l with
            | nil =>
                rw [List.nil_append, List.cons.injEq] at heq
                exact absurd ⟨heq.1, h0⟩ h
            | cons c' l =>
                rw [List.cons_append, List.cons.injEq] at heq
                obtain ⟨rfl, rfl⟩ := heq
                exact ⟨(l, r), ih.mpr ⟨rfl, (shielded_cons.mp hl).2, h0⟩, rfl⟩

/-! ## What the counter does not see -/

/-- The characters that matter to the search. -/
def isMark (c : Char) : Bool :=
  c = '(' || c = ')' || c = '='

/-- A text without everything else. -/
def marks (s : List Char) : List Char :=
  s.filter isMark

theorem nesting_of_not_mark {c : Char} (d : Nat) (h : isMark c = false) :
    nesting d c = d ∧ c ≠ '=' := by
  simp only [isMark, Bool.or_eq_false_iff, decide_eq_false_iff_not] at h
  exact ⟨nesting_of_ne d h.1.1 h.1.2, h.2⟩

theorem depthAfter_marks (d : Nat) (s : List Char) :
    depthAfter d (marks s) = depthAfter d s := by
  induction s generalizing d with
  | nil => rfl
  | cons c s ih =>
      by_cases hc : isMark c = true
      · rw [marks, List.filter_cons_of_pos hc]
        exact ih _
      · rw [marks, List.filter_cons_of_neg hc, depthAfter_cons,
          (nesting_of_not_mark d (by simpa using hc)).1]
        exact ih d

theorem shielded_marks {d : Nat} {s : List Char} :
    Shielded d (marks s) ↔ Shielded d s := by
  induction s generalizing d with
  | nil => exact Iff.rfl
  | cons c s ih =>
      by_cases hc : isMark c = true
      · rw [marks, List.filter_cons_of_pos hc, shielded_cons, shielded_cons]
        exact and_congr_right fun _ => ih
      · obtain ⟨hn, hne⟩ := nesting_of_not_mark d (by simpa using hc)
        rw [marks, List.filter_cons_of_neg hc, shielded_cons, hn]
        exact ih.trans ⟨fun h => ⟨fun he => absurd he hne, h⟩, And.right⟩

theorem isMark_of_isBlank {c : Char} (h : isBlank c = true) :
    isMark c = false := by
  cases hm : isMark c with
  | false => rfl
  | true =>
      simp only [isMark, Bool.or_eq_true, decide_eq_true_eq] at hm
      rcases hm with (rfl | rfl) | rfl <;> exact Bool.noConfusion h

theorem marks_of_blank {w : List Char} (hw : Blank w) : marks w = [] :=
  List.filter_eq_nil_iff.mpr fun c hc => by
    rw [isMark_of_isBlank (hw c hc)]; decide

theorem marks_append (s t : List Char) : marks (s ++ t) = marks s ++ marks t :=
  List.filter_append s t

theorem marks_of_padded {t s : List Char} (h : Padded t s) :
    marks s = marks t := by
  obtain ⟨before, after, hb, ha, rfl⟩ := h
  rw [marks_append, marks_append, marks_of_blank hb, marks_of_blank ha]
  simp

theorem marks_intercalate (ls : List (List Char)) :
    marks ([','].intercalate ls) = (ls.map marks).flatten :=
  filter_intercalate rfl ls

/-- The items of a list keep its marks. -/
theorem marks_listItems (s : List Char) :
    ((listItems s).map marks).flatten = marks s :=
  filter_listItems rfl (fun _ h => isMark_of_isBlank h) s

/-- Behind an opening parenthesis only the marks decide what is shielded. -/
theorem shielded_open_congr {s t : List Char} (h : marks s = marks t) :
    Shielded 0 ('(' :: s) ↔ Shielded 0 ('(' :: t) := by
  rw [shielded_cons, shielded_cons, ← shielded_marks (s := s), h,
    shielded_marks]

end DeviceShell.Command
