import DeviceShell.Event

/-!
# Coming and going

The registry and the task monitor are told the same two things: that an
instance comes, and that an id goes. Both know an instance by its id alone,
so what they hold in the end depends, id by id, on the last thing they were
told about it. `StaysSince` says so by the number of that change. For the
registry it is enough that there is such a number; the monitor lists its
tasks in the order of these numbers.

What one more change makes of it is `staysSince_concat`, and the inductions over
the changes need nothing else.
-/

namespace DeviceShell

/-- What a table of instances is told. -/
inductive Change where
  | enter (device : Handle)
  | leave (id : String)
  deriving DecidableEq, Repr

/-- The id that a change is about. -/
def Change.id : Change → String
  | .enter device => device.id
  | .leave id => id

/-- The change with the number `time` enters the instance, and no
later one is about its id. -/
structure StaysSince (changes : List Change) (time : Nat)
    (h : Handle) : Prop where
  entered : changes[time]? = some (.enter h)
  last : ∀ later change, time < later → changes[later]? = some change →
    change.id ≠ h.id

/-- The last change about the id of the instance is the one that
enters the instance. -/
def Stays (changes : List Change) (h : Handle) : Prop :=
  ∃ time, StaysSince changes time h

/-- Both instances stay, and the first has entered before the second. -/
def StaysBefore (changes : List Change) (g h : Handle) : Prop :=
  ∃ early late, early < late ∧ StaysSince changes early g ∧
    StaysSince changes late h

namespace StaysSince

variable {changes : List Change} {time : Nat} {h : Handle}

theorem lt_length (hstays : StaysSince changes time h) :
    time < changes.length := by
  obtain ⟨hlt, -⟩ := List.getElem?_eq_some_iff.mp hstays.entered
  exact hlt

/-- A change about another id is as if it had not been. -/
theorem concat (hstays : StaysSince changes time h) {change : Change}
    (hid : change.id ≠ h.id) :
    StaysSince (changes ++ [change]) time h := by
  refine ⟨?entered, ?last⟩
  case entered =>
    rw [List.getElem?_append_left hstays.lt_length]
    exact hstays.entered
  case last =>
    intro later other hlater hother
    rcases Nat.lt_trichotomy later changes.length with hlt | rfl | hgt
    · rw [List.getElem?_append_left hlt] at hother
      exact hstays.last later other hlater hother
    · rw [List.getElem?_concat_length] at hother
      cases hother
      exact hid
    · rw [List.getElem?_eq_none (by simp; omega)] at hother
      cases hother

theorem concat_enter (changes : List Change) (h : Handle) :
    StaysSince (changes ++ [.enter h]) changes.length h := by
  refine ⟨List.getElem?_concat_length, fun later other hlater hother => ?_⟩
  rw [List.getElem?_eq_none (by simp; omega)] at hother
  cases hother

end StaysSince

theorem staysSince_concat {changes : List Change} {change : Change} {time : Nat}
    {h : Handle} :
    StaysSince (changes ++ [change]) time h ↔
      StaysSince changes time h ∧ change.id ≠ h.id ∨
        time = changes.length ∧ change = .enter h := by
  constructor
  · intro hstays
    have hlt := hstays.lt_length
    rw [List.length_append, List.length_singleton] at hlt
    rcases Nat.lt_or_eq_of_le (Nat.le_of_lt_succ hlt) with hlt | rfl
    · refine .inl ⟨⟨?entered, ?last⟩, ?id⟩
      case entered => rw [← hstays.entered, List.getElem?_append_left hlt]
      case last =>
        intro later other hlater hother
        obtain ⟨hlt', -⟩ := List.getElem?_eq_some_iff.mp hother
        exact hstays.last later other hlater
          (by rw [List.getElem?_append_left hlt', hother])
      case id => exact hstays.last _ change hlt List.getElem?_concat_length
    · have hentered := hstays.entered
      rw [List.getElem?_concat_length] at hentered
      exact .inr ⟨rfl, Option.some.inj hentered⟩
  · rintro (⟨hstays, hid⟩ | ⟨rfl, rfl⟩)
    · exact hstays.concat hid
    · exact .concat_enter changes h

theorem not_stays_nil (h : Handle) : ¬ Stays [] h := by
  rintro ⟨time, hstays⟩
  exact absurd hstays.lt_length (Nat.not_lt_zero time)

theorem stays_concat {changes : List Change} {change : Change} {h : Handle} :
    Stays (changes ++ [change]) h ↔
      Stays changes h ∧ change.id ≠ h.id ∨ change = .enter h := by
  simp only [Stays, staysSince_concat, exists_or, exists_and_right,
    exists_eq, true_and]

/-! ## Who was there first -/

variable {changes : List Change} {g h : Handle}

/-- Of two instances that stay, the second was not about the id of the first. -/
theorem StaysBefore.id_ne (hbefore : StaysBefore changes g h) :
    g.id ≠ h.id := by
  obtain ⟨early, late, hlt, hg, hh⟩ := hbefore
  exact (hg.last late _ hlt hh.entered).symm

theorem StaysBefore.concat (hbefore : StaysBefore changes g h) {change : Change}
    (hg : change.id ≠ g.id) (hh : change.id ≠ h.id) :
    StaysBefore (changes ++ [change]) g h := by
  obtain ⟨early, late, hlt, hearly, hlate⟩ := hbefore
  exact ⟨early, late, hlt, hearly.concat hg, hlate.concat hh⟩

theorem Stays.before_concat (hstays : Stays changes g) (hid : h.id ≠ g.id) :
    StaysBefore (changes ++ [.enter h]) g h := by
  obtain ⟨time, hstays⟩ := hstays
  exact ⟨time, changes.length, hstays.lt_length, hstays.concat hid,
    .concat_enter changes h⟩

end DeviceShell
