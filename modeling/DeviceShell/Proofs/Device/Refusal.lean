import DeviceShell.Command.Basic
import DeviceShell.Proofs.Device.Outcome

/-!
# What a device refuses

A device answers an operation in one of three ways: it does what it was asked,
it has no such member, or it refuses. The last is the failure of a line, and
`Refuses` lists all there is of it, with the cause of each refusal: a value that
does not fit, a truth value that is none, a line that is not there, and the
wrong arguments for a method. Reading adds two entries of its own. A name that
is no attribute is called without arguments, and a method may refuse that.

That there is no other way is `answers_answer`, and `answer_of_refuses` says
that each entry of the list is indeed a refusal.
-/

namespace DeviceShell

/-- An operation as an access to a device. A description is an access that
succeeds and leaves the device as it is. -/
def Device.answer (d : Device) : Operation → Access
  | .describe => ⟨[], .ok (d, some (.text d.describe))⟩
  | .get name => d.access name
  | .set name raw => d.accessAssign name raw
  | .call method args => d.accessCall method args

/-- What a device refuses, and why. -/
inductive Device.Refuses : Device → Operation → Refusal → Prop where
  | misfit {p name raw current} (hcurrent : p.attributes[name]? = some current)
      (hraw : current.coerce? raw = none) :
      Refuses (.property p) (.set name raw)
        (.misfit (Text.trimmed raw) current.kind name)
  | toggleUsage {p args} (hargs : ∀ name, args ≠ [.text name]) :
      Refuses (.property p) (.call "toggle" args) .toggleUsage
  | untoggleable {p name current}
      (hcurrent : p.attributes[name]? = some current)
      (hkind : current.kind ≠ .bool) :
      Refuses (.property p) (.call "toggle" [.text name])
        (.untoggleable current.kind name)
  | toggleRead {p} (habsent : p.attributes["toggle"]? = none) :
      Refuses (.property p) (.get "toggle") .toggleUsage
  | lineUsage {t args} (hargs : ∀ n, args ≠ [.integer n]) :
      Refuses (.script t) (.call "line" args) .lineUsage
  | lineOutOfRange {t n}
      (hrange : ¬ (1 ≤ n.toInt ∧ n.toInt ≤ t.source.length)) :
      Refuses (.script t) (.call "line" [.integer n])
        (.lineOutOfRange n t.source.length)
  | lineRead {t} : Refuses (.script t) (.get "line") .lineUsage

/-- The three ways in which a device can answer an operation. -/
inductive Device.Answers (d : Device) (operation : Operation) {α : Type} :
    Except Failure α → Prop where
  | done {value} : Answers d operation (.ok value)
  | missing {member reason} :
      Answers d operation (.error (.memberNotFound member reason))
  | refused {cause} (hrefuses : d.Refuses operation cause) :
      Answers d operation (.error (.invocationFailed cause))

theorem Device.Answers.map {d : Device} {operation : Operation} {α β : Type}
    {result : Except Failure α} (h : d.Answers operation result) (f : α → β) :
    d.Answers operation (result.map f) := by
  cases h with
  | done => exact .done
  | missing => exact .missing
  | refused hrefuses => exact .refused hrefuses

/-! ## Property devices -/

namespace PropertyDevice

theorem answers_assign (p : PropertyDevice) (name raw : String) :
    (Device.property p).Answers (.set name raw) (p.assign name raw) := by
  rw [assign]
  split
  · next current hcurrent =>
      cases hraw : current.coerce? raw with
      | some next => exact .done
      | none => exact .refused (.misfit hcurrent hraw)
  · split
    · exact .done
    · exact .missing

theorem answers_toggle (p : PropertyDevice) (args : List Literal) :
    (Device.property p).Answers (.call "toggle" args) (p.toggle args) := by
  rw [toggle.eq_def]
  split
  · split
    · exact .done
    · next other hother hcurrent =>
        refine .refused (.untoggleable hcurrent ?_)
        intro hkind
        cases other with
        | bool b => exact hother b rfl
        | integer | real | text | list => cases hkind
    · exact .missing
  · next hargs => exact .refused (.toggleUsage hargs)

theorem answers_call (p : PropertyDevice) (method : String)
    (args : List Literal) :
    (Device.property p).Answers (.call method args) (p.call method args) := by
  rw [call]
  split
  · exact .done
  · split
    · exact .done
    · split
      · next htoggle =>
          subst htoggle
          exact answers_toggle p args
      · split
        · exact .done
        · exact .missing

end PropertyDevice

/-! ## Scripts -/

namespace ScriptTask

theorem line?_eq_none_iff {t : ScriptTask} {n : Int64} :
    t.line? n = none ↔ ¬ (1 ≤ n.toInt ∧ n.toInt ≤ t.source.length) := by
  rw [line?]
  split
  · rw [List.getElem?_eq_none_iff]
    omega
  · next hlow => exact iff_of_true rfl fun hrange => hlow hrange.1

theorem answers_call (t : ScriptTask) (method : String) (args : List Literal) :
    (Device.script t).Answers (.call method args) (t.call method args) := by
  rw [call.eq_def]
  split
  · exact .done
  · split
    · next hline =>
        subst hline
        split
        · next n _ =>
            cases hfound : t.line? n with
            | some line => exact .done
            | none =>
                exact .refused (.lineOutOfRange (line?_eq_none_iff.mp hfound))
        · next hargs => exact .refused (.lineUsage hargs)
    · exact .missing

end ScriptTask

/-! ## Every device -/

namespace Device

theorem answers_assign (d : Device) (name raw : String) :
    d.Answers (.set name raw) (d.assign name raw) := by
  cases d with
  | property p => exact (p.answers_assign name raw).map _
  | script | plain | rig => exact .missing

theorem answers_call (d : Device) (method : String) (args : List Literal) :
    d.Answers (.call method args) (d.call method args) := by
  cases d with
  | property p => exact (p.answers_call method args).map _
  | script t => exact (t.answers_call method args).map _
  | plain | rig => exact .missing

/-- Reading fails in one way only. -/
theorem missing_of_read {d : Device} {name : String} {failure : Failure}
    (h : d.read name = .error failure) :
    ∃ reason, failure = .memberNotFound name reason := by
  cases d with
  | property p =>
      change p.read name = .error failure at h
      rw [PropertyDevice.read] at h
      split at h
      · cases h
      · cases h
        exact ⟨_, rfl⟩
  | script t =>
      change t.read name = .error failure at h
      rw [ScriptTask.read] at h
      repeat' split at h
      all_goals cases h
      exact ⟨_, rfl⟩
  | plain | rig =>
      cases h
      exact ⟨_, rfl⟩

/-- A name that is no attribute is refused when it is read if it is a method
that refuses to be called without arguments. -/
theorem Refuses.get_of_call {d : Device} {name : String} {cause : Refusal}
    {failure : Failure} (hrefuses : d.Refuses (.call name []) cause)
    (hread : d.read name = .error failure) :
    d.Refuses (.get name) cause := by
  cases hrefuses with
  | @toggleUsage p => exact .toggleRead (PropertyDevice.absent_of_read hread)
  | lineUsage => exact .lineRead

theorem answers_access (d : Device) (name : String) :
    d.Answers (.get name) (d.access name).result := by
  rw [access]
  split
  · exact .done
  · next member reason hread =>
      have hcall := d.answers_call name []
      generalize d.call name [] = result at hcall ⊢
      cases hcall with
      | done => exact .done
      | missing => exact .missing
      | refused hrefuses => exact .refused (hrefuses.get_of_call hread)
  · next failure hmissing hread =>
      obtain ⟨reason, rfl⟩ := missing_of_read hread
      exact absurd rfl (hmissing name reason)

/-- Every operation is done, or finds no such member, or is refused for a cause
on the list. -/
theorem answers_answer (d : Device) (operation : Operation) :
    d.Answers operation (d.answer operation).result := by
  cases operation with
  | describe => exact .done
  | get name => exact d.answers_access name
  | set name raw => exact (d.answers_assign name raw).map _
  | call method args => exact d.answers_call method args

end Device

/-- An attribute that is there is read, whatever the methods of the device. -/
theorem PropertyDevice.answer_get {p : PropertyDevice} {name : String}
    {value : Value} (hvalue : p.attributes[name]? = some value) :
    (Device.property p).answer (.get name) =
      ⟨[], .ok (.property p, some value)⟩ := by
  simp only [Device.answer, Device.access, Device.read, read, hvalue]

theorem PropertyDevice.call_toggle (p : PropertyDevice) (args : List Literal) :
    p.call "toggle" args = p.toggle args :=
  rfl

theorem PropertyDevice.toggle_of_usage {p : PropertyDevice}
    {args : List Literal} (hargs : ∀ name, args ≠ [.text name]) :
    p.toggle args = .error (.invocationFailed .toggleUsage) := by
  rw [toggle.eq_def]
  split
  · next name => exact absurd rfl (hargs name)
  · rfl

theorem PropertyDevice.toggle_of_kind {p : PropertyDevice} {name : String}
    {current : Value} (hcurrent : p.attributes[name]? = some current)
    (hkind : current.kind ≠ .bool) :
    p.toggle [.text name] =
      .error (.invocationFailed (.untoggleable current.kind name)) := by
  rw [toggle, hcurrent]
  cases current with
  | bool => exact absurd rfl hkind
  | integer | real | text | list => rfl

theorem ScriptTask.call_line_of_usage {t : ScriptTask} {args : List Literal}
    (hargs : ∀ n, args ≠ [.integer n]) :
    t.call "line" args = .error (.invocationFailed .lineUsage) := by
  have hsource : ¬ ("line" = "source" ∧ args = []) :=
    fun h => absurd h.1 (by decide)
  rw [call.eq_def, if_neg hsource, if_pos rfl]
  split
  · next n => exact absurd rfl (hargs n)
  · rfl

theorem ScriptTask.call_line_of_range {t : ScriptTask} {n : Int64}
    (hrange : ¬ (1 ≤ n.toInt ∧ n.toInt ≤ t.source.length)) :
    t.call "line" [.integer n] =
      .error (.invocationFailed (.lineOutOfRange n t.source.length)) := by
  have hsource : ¬ ("line" = "source" ∧ [Literal.integer n] = []) :=
    fun h => absurd h.1 (by decide)
  rw [call, if_neg hsource, if_pos rfl, line?_eq_none_iff.mpr hrange]

/-- What is on the list is refused. -/
theorem Device.answer_of_refuses {d : Device} {operation : Operation}
    {cause : Refusal} (h : d.Refuses operation cause) :
    (d.answer operation).result = .error (.invocationFailed cause) := by
  cases h with
  | misfit hcurrent hraw =>
      simp only [answer, accessAssign, assign, PropertyDevice.assign,
        hcurrent, hraw]
      rfl
  | @toggleUsage p args hargs =>
      show (p.call "toggle" args).map _ = _
      rw [PropertyDevice.call_toggle, PropertyDevice.toggle_of_usage hargs]
      rfl
  | @untoggleable p name current hcurrent hkind =>
      show (p.call "toggle" [.text name]).map _ = _
      rw [PropertyDevice.call_toggle,
        PropertyDevice.toggle_of_kind hcurrent hkind]
      rfl
  | @toggleRead p habsent =>
      simp only [answer, access, read, PropertyDevice.read, habsent]
      rfl
  | @lineUsage t args hargs =>
      show (t.call "line" args).map _ = _
      rw [ScriptTask.call_line_of_usage hargs]
      rfl
  | @lineOutOfRange t n hrange =>
      show (t.call "line" [.integer n]).map _ = _
      rw [ScriptTask.call_line_of_range hrange]
      rfl
  | lineRead => rfl

end DeviceShell
