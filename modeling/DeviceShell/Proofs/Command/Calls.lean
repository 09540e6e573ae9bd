import DeviceShell.Proofs.Command.Canonical

/-!
# Which calls are read as calls

An equals sign between the parentheses of a call is part of an argument, and it
is left alone as long as the parentheses around it count as open. They are
counted without regard to quotes, so a text that closes a parenthesis closes the
one of the call, and an equals sign behind it is free: the line assigns
something to what stands in front of that sign, parenthesis and quotes included.

That is the only thing that can happen to a call. Whether it does is decided by
the written arguments alone, behind the parenthesis that opens them; the rest of
the line opens nothing and holds no equals sign.
-/

namespace DeviceShell.Command

open Text

/-- What can stand in front of the parentheses of a call. Letters, digits and
underscores can, and much else. -/
def IsMethodName (method : String) : Prop :=
  IsName method ∧ '(' ∉ method.toList ∧ '=' ∉ method.toList

instance (method : String) : Decidable (IsMethodName method) :=
  inferInstanceAs (Decidable (_ ∧ _ ∧ _))

section Calls

variable {id method : String} {args : List Literal}

theorem writable_call_iff (hmethod : IsMethodName method)
    (hargs : ∀ a ∈ args, a.Writable) :
    (Operation.call method args).Writable ↔
      NoFreeEquals ('(' :: (Literal.renderArguments args).toList) := by
  have hmarks := (argumentSpelling_render args).marks_eq
  rw [noFreeEquals_iff, shielded_open_congr hmarks, Operation.Writable]
  obtain ⟨hname, hopen, hequals⟩ := hmethod
  exact ⟨fun h => h.2.2.2.2, fun h => ⟨hname, hopen, hequals, hargs, h⟩⟩

/-- Behind the name of a method an equals sign is free if it is so behind the
parenthesis. -/
theorem firstFreeEquals_call {l r : List Char} (hmethod : IsMethodName method)
    (hfree : FirstFreeEquals ('(' :: (Literal.renderArguments args).toList) l
      r) :
    FirstFreeEquals (method.toList ++ '(' ::
      ((Literal.renderArguments args).toList ++ [')']))
      (method.toList ++ l) (r ++ [')']) := by
  obtain ⟨-, hopen, hequals⟩ := hmethod
  obtain ⟨hargs, hclosed, hshield⟩ := hfree
  have hdepth : depthAfter 0 method.toList = 0 :=
    depthAfter_zero_of_not_mem hopen
  refine ⟨?_, ?_, ?_⟩
  · rw [← List.cons_append, hargs]
    simp
  · rw [← depthAfter_eq_zero_iff] at hclosed ⊢
    rw [depthAfter, List.foldl_append, ← depthAfter, ← depthAfter,
      hdepth, hclosed]
  · rw [noFreeEquals_iff] at hshield ⊢
    rw [shielded_append, hdepth]
    exact ⟨shielded_of_not_mem 0 hequals, hshield⟩

theorem classify_call_of_firstFreeEquals {l r : List Char} (hid : IsDeviceId id)
    (hmethod : IsMethodName method)
    (hfree : FirstFreeEquals ('(' :: (Literal.renderArguments args).toList) l
      r) :
    classify ((Operation.call method args).render id) =
      .ok (.device id (.set (trimmed (method ++ String.ofList l))
        (trimmed (String.ofList r ++ ")")))) := by
  have hline : (Operation.call method args).render id =
      id ++ "." ++ (method ++ "(" ++ Literal.renderArguments args ++ ")") := by
    simp only [Operation.render, String.append_assoc]
  have hfront : ¬ Blank (method.toList ++ l) := fun hblank =>
    hmethod.1.not_blank (padded_self _) (blank_append.mp hblank).1
  have hmember := deviceLine_of_member hid.isIdentifier (padded_self id.toList)
    (.assignment (firstFreeEquals_call hmethod hfree) hfront)
  rw [hline, classify_dotted hid.1]
  refine readDeviceLine_of_deviceLine ?_
  simpa [trimmed] using hmember

/-- What is written as a call is read as that call exactly if no equals sign in
the arguments is free behind the parenthesis that opens them. Otherwise it is
read as an assignment, and the first free one is where the value begins. -/
theorem classify_call (hid : IsDeviceId id) (hmethod : IsMethodName method)
    (hargs : ∀ a ∈ args, a.Writable) :
    (classify ((Operation.call method args).render id) =
      .ok (.device id (.call method args)) ↔
      NoFreeEquals ('(' :: (Literal.renderArguments args).toList)) ∧
    ∀ l r, FirstFreeEquals ('(' :: (Literal.renderArguments args).toList) l r →
      classify ((Operation.call method args).render id) =
        .ok (.device id (.set (trimmed (method ++ String.ofList l))
          (trimmed (String.ofList r ++ ")")))) := by
  refine ⟨⟨fun hread => ?_, fun hshield => ?_⟩, fun l r hfree =>
    classify_call_of_firstFreeEquals hid hmethod hfree⟩
  · cases hsplit : splitAssignment 0
        ('(' :: (Literal.renderArguments args).toList) with
    | none => exact noFreeEquals_iff.mpr (splitAssignment_eq_none_iff.mp hsplit)
    | some cut =>
        obtain ⟨l, r⟩ := cut
        rw [classify_call_of_firstFreeEquals hid hmethod
          (firstFreeEquals_iff.mpr hsplit)] at hread
        cases hread
  · exact classify_render hid ((writable_call_iff hmethod hargs).mpr hshield)
      (by rintro ⟨⟩)

end Calls

/-- Two arguments with parentheses of their own, and equals signs
between them and behind them. -/
theorem classify_call_balanced :
    IsDeviceId "lamp" ∧ IsMethodName "say_2" ∧
      (∀ a ∈ [Literal.text "a.b (c = d) = e", .integer (-7)], a.Writable) ∧
      classify "lamp.say_2(\"a.b (c = d) = e\", -7)" =
        .ok (.device "lamp"
          (.call "say_2" [.text "a.b (c = d) = e", .integer (-7)])) := by
  have hid : IsDeviceId "lamp" := by decide
  have hmethod : IsMethodName "say_2" := by decide
  have hargs : ∀ a ∈ [Literal.text "a.b (c = d) = e", .integer (-7)],
      a.Writable :=
    List.forall_mem_cons.mpr ⟨⟨by decide, by decide⟩, List.forall_mem_cons.mpr
      ⟨trivial, List.forall_mem_nil _⟩⟩
  have hshield : NoFreeEquals ('(' ::
      (Literal.renderArguments [.text "a.b (c = d) = e",
        .integer (-7)]).toList) :=
    noFreeEquals_iff.mpr (splitAssignment_eq_none_iff.mp rfl)
  exact ⟨hid, hmethod, hargs, (classify_call hid hmethod hargs).1.mpr hshield⟩

/-- A text that closes the parenthesis of the call frees the equals sign behind
it, and what is written as a call is read as an assignment. -/
theorem classify_call_closedByText :
    IsDeviceId "lamp" ∧ IsMethodName "say" ∧
    (∀ a ∈ [Literal.text ")="], a.Writable) ∧
      (Operation.call "say" [.text ")="]).render "lamp" = "lamp.say(\")=\")" ∧
      classify "lamp.say(\")=\")" =
        .ok (.device "lamp" (.set "say(\")" "\")")) ∧
      classify "lamp.say(\")=\")" ≠
        .ok (.device "lamp" (.call "say" [.text ")="])) := by
  have hread : classify "lamp.say(\")=\")" =
    .ok (.device "lamp" (.set "say(\")" "\")")) := rfl
  refine ⟨by decide, by decide, ?_, by decide +kernel, hread, ?_⟩
  · exact List.forall_mem_cons.mpr
      ⟨⟨by decide, by decide⟩, List.forall_mem_nil _⟩
  · rw [hread]
    rintro ⟨⟩

end DeviceShell.Command
