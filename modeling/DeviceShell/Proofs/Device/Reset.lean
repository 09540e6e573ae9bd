import DeviceShell.Proofs.Device.Schema

/-!
# What a reset leaves of the past

A property device remembers in two places only: the table of its attributes and
the flag that says whether it runs. The table goes back to the declared one, so
the flag is all that a reset can leave of what happened before, and that is the
device as it was declared with the flag in one of its positions.

Nothing looks at the flag. `reply_run` and `grant_run` say so of one request: it
is answered in the same way whatever the flag is, and the devices that it leaves
differ in the flag at most. From there the two devices go on side by side,
whatever is asked of them, and cannot be told apart.
-/

namespace DeviceShell

namespace Device

/-- What a request is answered with: the failure, or the value that is given
back, if there is one. -/
def reply (d : Device) : Request → Except Failure (Option Value)
  | .start => d.start.map fun _ => none
  | .stop => d.stop.map fun _ => none
  | .read name => (d.read name).map some
  | .assign name raw => (d.assign name raw).map fun _ => none
  | .call method args => (d.call method args).map (·.2)

/-- The answers to a list of requests. Each is given by the device as the
requests before it have left it. -/
def replies (d : Device) : List Request → List (Except Failure (Option Value))
  | [] => []
  | request :: rest =>
    d.reply request :: ((d.grant request).toOption.getD d).replies rest

end Device

namespace PropertyDevice

/-! ## Nothing looks at the flag -/

/-- The device with the flag in the given position. -/
def run (p : PropertyDevice) (running : Bool) : PropertyDevice :=
  { p with running := running }

section Flag

variable (p : PropertyDevice) (running : Bool)

theorem assign_run (name raw : String) :
    (p.run running).assign name raw =
      (p.assign name raw).map (·.run running) := by
  rw [assign, assign]
  cases hcurrent : p.attributes[name]? with
  | none =>
      cases hopen : p.openSchema <;> simp only [run, hcurrent, hopen] <;> rfl
  | some current =>
      cases hnext : current.coerce? raw <;>
        simp only [run, hcurrent, hnext] <;> rfl

theorem toggle_run (args : List Literal) :
    (p.run running).toggle args = (p.toggle args).map fun r =>
      (r.1.run running, r.2) := by
  rw [toggle.eq_def, toggle.eq_def]
  split
  · next name =>
      simp only [run]
      cases p.attributes[name]? with
      | none => rfl
      | some current => cases current <;> rfl
  · rfl

theorem call_run (method : String) (args : List Literal) :
    (p.run running).call method args = (p.call method args).map fun r =>
      (r.1.run running, r.2) := by
  rw [call, call, toggle_run]
  split
  · rfl
  · split
    · rfl
    · split
      · rfl
      · split <;> rfl

theorem reply_run (request : Device.Request) :
    (Device.property (p.run running)).reply request =
      (Device.property p).reply request := by
  cases request with
  | start | stop | read => rfl
  | assign name raw =>
      simp only [Device.reply, Device.assign, assign_run]
      cases p.assign name raw <;> rfl
  | call method args =>
      simp only [Device.reply, Device.call, call_run]
      cases p.call method args <;> rfl

/-- Whether a request is granted or refused, the devices are left alike. -/
theorem grant_run (request : Device.Request) :
    ∃ p' running',
      ((Device.property (p.run running)).grant request).toOption.getD
        (.property (p.run running)) = .property (p'.run running') ∧
      ((Device.property p).grant request).toOption.getD (.property p) =
        .property p' := by
  cases request with
  | start => exact ⟨p.run true, true, rfl, rfl⟩
  | stop => exact ⟨p.run false, false, rfl, rfl⟩
  | read name =>
      refine ⟨p, running, ?_, ?_⟩
      · rw [Device.grant]
        cases (Device.property (p.run running)).read name <;> rfl
      · rw [Device.grant]
        cases (Device.property p).read name <;> rfl
  | assign name raw =>
      simp only [Device.grant, Device.assign, assign_run]
      cases p.assign name raw with
      | error => exact ⟨p, running, rfl, rfl⟩
      | ok p' => exact ⟨p', running, rfl, rfl⟩
  | call method args =>
      simp only [Device.grant, Device.call, call_run]
      cases p.call method args with
      | error => exact ⟨p, running, rfl, rfl⟩
      | ok r => exact ⟨r.1, running, rfl, rfl⟩

end Flag

/-- Two devices that differ in the flag at most answer every list of requests
alike, and differ in the flag at most afterwards. -/
theorem replies_run (p : PropertyDevice) (running : Bool)
    (requests : List Device.Request) :
    (Device.property (p.run running)).replies requests =
      (Device.property p).replies requests ∧
    ∃ p' running', (Device.property (p.run running)).afterAll requests =
        .property (p'.run running') ∧
      (Device.property p).afterAll requests = .property p' := by
  induction requests generalizing p running with
  | nil => exact ⟨rfl, p, running, rfl, rfl⟩
  | cons request rest ih =>
      obtain ⟨p', running', hrun, hplain⟩ := p.grant_run running request
      simp only [Device.replies, Device.afterAll, hrun, hplain, reply_run]
      obtain ⟨hreplies, hafter⟩ := ih p' running'
      exact ⟨by rw [hreplies], hafter⟩

end PropertyDevice

/-- Whatever has been asked of a property device, granted or refused, a reset
succeeds and leaves the table of the declaration, so all of the device but the
flag that says whether it runs. From then on it answers every list of requests
as the device that has just been declared does, and after it the two differ in
that flag at most, which their descriptions do not show. -/
theorem Device.reset_afterAll (id description : String) (openSchema : Bool)
    (declared : List (String × Value)) (before : List Request)
    (args : List Literal) :
    ∃ p q fresh, fresh =
      PropertyDevice.declareAll { id, description, openSchema } declared ∧
      (Device.property fresh).afterAll before = .property p ∧
      p.call "reset" args = .ok (q, none) ∧
      q = { fresh with running := p.running } ∧
      (∀ name, q.attributes[name]? =
        PropertyDevice.declaredValue? declared name) ∧
      ∀ further, (Device.property q).replies further =
        (Device.property fresh).replies further ∧
        ∃ q' fresh', (Device.property q).afterAll further = .property q' ∧
          (Device.property fresh).afterAll further = .property fresh' ∧
          q' = { fresh' with running := q'.running } ∧
          q'.describe = fresh'.describe := by
  obtain ⟨table, hdevice, htable⟩ :=
    PropertyDevice.exists_declareAll id description openSchema declared
  obtain ⟨p, hafter, hconforms⟩ := (PropertyDevice.Conforms.of_declared
    { id, description, openSchema, defaults := table, attributes := table }
      rfl).afterAll before
  have hreset : p.reset = PropertyDevice.run
      { id, description, openSchema, defaults := table, attributes := table }
        p.running := by
    rw [PropertyDevice.reset, hconforms.fixed]
    rfl
  refine ⟨p, p.reset, _, rfl, ?_⟩
  rw [hdevice, hreset]
  refine ⟨hafter, hreset ▸ rfl, rfl, htable, fun further => ?_⟩
  obtain ⟨hreplies, q', running', hq', hfresh'⟩ := PropertyDevice.replies_run
    { id, description, openSchema, defaults := table, attributes := table }
      p.running further
  exact ⟨hreplies, _, q', hq', hfresh', rfl, rfl⟩

end DeviceShell
