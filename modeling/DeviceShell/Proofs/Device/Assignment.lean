import DeviceShell.Proofs.Device.Schema
import DeviceShell.Proofs.Value.Entry

/-!
# Assigning once more

An assignment looks at one thing in the device, the kind of the value that makes
way, and puts one thing back. So it cannot tell a device on which the attribute
has been assigned to before from one on which it has not (`assign_insert`): it
succeeds and fails alike on both, and the table that it leaves is the same.

Only the assignment that makes an attribute is different from those
that follow, as it has no kind to go by. It leaves one behind, and the
text that was typed fits it.
-/

namespace DeviceShell

namespace PropertyDevice

/-! ## Tables -/

theorem insert_insert (table : Attributes) (name : String)
    (first second : Value) :
    (table.insert name first).insert name second =
      table.insert name second := by
  refine Std.ExtTreeMap.ext_getElem? fun other => ?_
  rw [getElem?_insert, getElem?_insert, getElem?_insert]
  split <;> rfl

theorem insert_eq_self {table : Attributes} {name : String} {value : Value}
    (hvalue : table[name]? = some value) : table.insert name value = table := by
  refine Std.ExtTreeMap.ext_getElem? fun other => ?_
  rw [getElem?_insert]
  split
  · next hsame =>
      subst hsame
      exact hvalue.symm
  · rfl

/-! ## The same attribute again -/

/-- An assignment does not see which value of its kind it replaces. -/
theorem assign_insert {p : PropertyDevice} {name : String}
    {current other : Value} (hcurrent : p.attributes[name]? = some current)
    (hkind : other.kind = current.kind) (raw : String) :
    ({ p with attributes := p.attributes.insert name other } :
      PropertyDevice).assign name raw = p.assign name raw := by
  have hother : (p.attributes.insert name other)[name]? = some other :=
    Std.ExtTreeMap.getElem?_insert_self
  rw [assign, assign, hother, hcurrent]
  simp only [Value.coerce?_congr hkind, hkind, insert_insert]

theorem assign_of_infer (p : PropertyDevice) (name raw : String) :
    ({ p with attributes := p.attributes.insert name (Value.infer raw) } :
      PropertyDevice).assign name raw =
      .ok { p with
        attributes := p.attributes.insert name (Value.infer raw) } := by
  have hvalue : (p.attributes.insert name (Value.infer raw))[name]? =
      some (Value.infer raw) :=
    Std.ExtTreeMap.getElem?_insert_self
  rw [assign, hvalue]
  simp only [Value.coerce?_infer, insert_insert]

/-- An assignment that succeeds can be repeated and changes nothing then; in
particular the value that a text is taken for is the one that the text gives an
attribute of that kind, doubles included. And of two assignments to an
attribute that is there, the first of which succeeds, only the second counts,
whether that succeeds or fails. -/
theorem assign_again (p : PropertyDevice) (name : String) :
    (∀ raw p', p.assign name raw = .ok p' → p'.assign name raw = .ok p') ∧
    (∀ raw, (Value.infer raw).coerce? raw = some (Value.infer raw)) ∧
    ∀ current first second p', p.attributes[name]? = some current →
      p.assign name first = .ok p' →
      p'.assign name second = p.assign name second := by
  refine ⟨?repeated, Value.coerce?_infer, ?replaced⟩
  case repeated =>
    intro raw p' hassign
    cases assigned_of_assign hassign with
    | updated hcurrent hnext =>
        rw [assign_insert hcurrent (Value.kind_of_coerce? hnext)]
        exact hassign
    | created => exact p.assign_of_infer name raw
  case replaced =>
    intro current first second p' hcurrent hassign
    cases assigned_of_assign hassign with
    | updated hcurrent' hnext =>
        exact assign_insert hcurrent' (Value.kind_of_coerce? hnext) second
    | created habsent =>
        rw [hcurrent] at habsent
        cases habsent

/-- A desk with a light, to which anything can be added. -/
def desk : PropertyDevice :=
  { id := "desk", openSchema := true : PropertyDevice }.declare "light"
    (.bool false)

/-- A double that comes into being, and a switch that is turned on before a word
that it does not understand. -/
theorem assign_again_desk :
    ∃ raised lit : PropertyDevice,
      desk.assign "height" " -0.0 " = .ok raised ∧
      raised.assign "height" " -0.0 " = .ok raised ∧
      desk.attributes["light"]? = some (.bool false) ∧
      desk.assign "light" "on" = .ok lit ∧
      lit.assign "light" "dim" = desk.assign "light" "dim" := by
  have hraised : ∃ raised, desk.assign "height" " -0.0 " = .ok raised :=
    ⟨_, rfl⟩
  have hlit : ∃ lit, desk.assign "light" "on" = .ok lit := ⟨_, rfl⟩
  have hlight : desk.attributes["light"]? = some (.bool false) := rfl
  obtain ⟨raised, hraised⟩ := hraised
  obtain ⟨lit, hlit⟩ := hlit
  exact ⟨raised, lit, hraised, (assign_again desk "height").1 _ _ hraised,
    hlight, hlit, (assign_again desk "light").2.2 _ _ _ _ hlight hlit⟩

/-! ## What was printed -/

/-- A value is read back from what it is printed as, so to assign it to the
attribute that it was read from changes nothing. This holds of truth values, of
integers, of trimmed text that is not in quotes, and of lists whose items are
each read from what they are printed as, and stay one item between commas. -/
theorem assign_render {v : Value} (h : v.Retypable) :
    v.coerce? v.render = some v ∧
    ∀ (p : PropertyDevice) (name : String), p.attributes[name]? = some v →
      p.assign name v.render = .ok p := by
  have hcoerce := Value.coerce?_render h
  refine ⟨hcoerce, fun p name hvalue => ?_⟩
  rw [assign, hvalue]
  simp only [hcoerce, insert_eq_self hvalue]

/-- Items with brackets, blanks and quotes in them, a list without items, and
the integers at both ends. -/
theorem assign_render_labels :
    (Value.list [.text "[a", .text "b c]", .text "\"on", .text "\"",
      .integer (-7)]).coerce? "[[a, b c], \"on, \", -7]" =
      some (.list [.text "[a", .text "b c]", .text "\"on", .text "\"",
        .integer (-7)]) ∧
    (desk.declare "labels" (.list [])).assign "labels" "[]" =
      .ok (desk.declare "labels" (.list [])) ∧
    (Value.integer Int64.minValue).coerce? "-9223372036854775808" =
      some (.integer Int64.minValue) ∧
    (Value.integer Int64.maxValue).coerce? "9223372036854775807" =
      some (.integer Int64.maxValue) := by
  have hlabels : ∀ i ∈ [Value.text "[a", .text "b c]", .text "\"on", .text "\"",
    .integer (-7)], i.Listable := by
    simp only [List.forall_mem_cons]
    refine ⟨⟨?_, ?_, ?_, rfl⟩, ⟨?_, ?_, ?_, rfl⟩, ⟨?_, ?_, ?_, rfl⟩,
      ⟨?_, ?_, ?_, rfl⟩, ⟨?_, ?_, ?_, rfl⟩, List.forall_mem_nil _⟩
    all_goals decide
  exact ⟨(assign_render (.list hlabels)).1,
    (assign_render (.list (List.forall_mem_nil _))).2 _ _ rfl,
    (assign_render (.integer Int64.minValue)).1,
    (assign_render (.integer Int64.maxValue)).1⟩

end PropertyDevice

end DeviceShell
