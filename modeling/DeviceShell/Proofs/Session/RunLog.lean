import DeviceShell.Proofs.Session.Answers
import DeviceShell.Session.Run

/-!
# The judgements in the log of a run

The reader of lines writes one thing into the log that nobody else does: which
line failed, and how. So a failure that is listed in the log of a run is the
answer to a line of its input, and what holds of every answer holds of
everything listed.

That nobody else writes it is a matter of going through what a line can do.
`Unjudged` is kept by doing one thing after another, which leaves one lemma for
each thing done.
-/

namespace DeviceShell

/-- Nothing that happened on the way is a judgement on a line. -/
def Reply.Unjudged {α : Type} (r : Reply α) : Prop :=
  ∀ line failure, Event.lineFailed line failure ∉ r.events

theorem Reply.Unjudged.andThen {α β : Type} {r : Reply α}
    {next : Session → α → Reply β} (hr : r.Unjudged)
    (hnext : ∀ s value, (next s value).Unjudged) :
    (r.andThen next).Unjudged := by
  intro line failure hmem
  rcases List.mem_append.mp hmem with hmem | hmem
  · exact hr line failure hmem
  · exact hnext _ _ line failure hmem

/-! ## Devices -/

namespace Device

theorem Takes.lineFailed_not_mem {d d' outcome : Device} {events : List Event}
    (h : d.Takes outcome (.ok (d', events))) (line : String)
    (failure : Failure) :
    .lineFailed line failure ∉ events := by
  intro hmem
  obtain ⟨id, before, after, heq⟩ := h.moved _ hmem
  cases heq

theorem lineFailed_not_mem_answer (d : Device) (operation : Operation)
    (line : String) (failure : Failure) :
    .lineFailed line failure ∉ (d.answer operation).events := by
  cases operation with
  | describe => simp [answer]
  | set | call => simp [answer, accessAssign, accessCall]
  | get name =>
      rw [answer, access]
      split <;> simp

end Device

/-! ## What a line does -/

namespace Session

theorem unjudged_say {α : Type} {s : Session} {severity : Severity}
    {text : String} {result : α} :
    (s.say severity text result).Unjudged := by
  simp [say, Reply.Unjudged]

theorem unjudged_order {s : Session} {h : Handle} {told : Event}
    {act : Device → Except Failure (Device × List Event)}
    {outcome : Device → Device}
    (htold : ∀ line failure, told ≠ .lineFailed line failure)
    (htakes : ∀ {d result}, act d = result → d.Takes (outcome d) result) :
    (s.order h told act).Unjudged := by
  intro line failure hmem
  rw [order] at hmem
  split at hmem
  · cases hmem
  · split at hmem
    · next hdone =>
        rcases List.mem_cons.mp hmem with heq | hmem
        · exact htold line failure heq.symm
        · exact (htakes hdone).lineFailed_not_mem line failure hmem
    · exact htold line failure (List.mem_singleton.mp hmem).symm

theorem unjudged_start (s : Session) (h : Handle) : (s.start h).Unjudged :=
  unjudged_order (fun _ _ => nofun) Device.takes_start

theorem unjudged_stop (s : Session) (h : Handle) : (s.stop h).Unjudged :=
  unjudged_order (fun _ _ => nofun) Device.takes_stop

theorem unjudged_restart (s : Session) (h : Handle) :
    (s.restart h).Unjudged := by
  refine (unjudged_stop s h).andThen fun s stopped => ?_
  cases stopped with
  | ok => exact unjudged_start s h
  | error => exact fun _ _ => List.not_mem_nil

theorem unjudged_control (s : Session) (order : Lifecycle) (id : String) :
    (s.control order id).Unjudged := by
  rw [control]
  split
  · exact unjudged_say
  · next h _ _ =>
      refine Reply.Unjudged.andThen unjudged_say fun s _ => ?_
      cases order with
      | start => exact unjudged_start s h
      | stop => exact unjudged_stop s h
      | restart => exact unjudged_restart s h

theorem unjudged_conclude (s : Session) (h : Handle) (d : Device)
    (operation : Operation) :
    (s.conclude h (d.answer operation)).Unjudged := by
  have hquiet := d.lineFailed_not_mem_answer operation
  rw [conclude]
  split <;> simp [Reply.Unjudged, hquiet]

theorem unjudged_operate (s : Session) (id : String) (operation : Operation) :
    (s.operate id operation).Unjudged := by
  cases hfind : s.find? id with
  | none =>
      rw [operate, hfind]
      exact unjudged_say
  | some found =>
      rw [operate_eq_conclude operation hfind]
      exact unjudged_conclude s found.1 found.2 operation

theorem unjudged_retire (s : Session) (base : String) :
    (Loader.retire s base).Unjudged := by
  have hsilence : ∀ s h, (Loader.silence s h).Unjudged := by
    intro s h
    refine (unjudged_stop s h).andThen fun s stopped => ?_
    cases stopped <;> simp [Reply.Unjudged]
  rw [Loader.retire]
  split
  · exact fun _ _ => List.not_mem_nil
  · refine Reply.Unjudged.andThen ?_ fun s _ => ?_
    · split
      · refine Reply.Unjudged.andThen ?_ fun s _ => hsilence s _
        simp [unwatch, Reply.Unjudged]
      · exact fun _ _ => List.not_mem_nil
    · simp [unregister, Reply.Unjudged]

theorem unjudged_load (loader : Loader) (s : Session) (name : String)
    (args : List String) :
    (loader.load s name args).Unjudged := by
  have hreplace : ∀ lane base, (loader.replace s lane base args).Unjudged := by
    intro lane base
    refine (unjudged_retire s base).andThen fun s _ => ?_
    split <;> simp [adopt, watch, register, Reply.andThen, Reply.Unjudged]
  rw [Loader.load]
  split
  · simp [Reply.Unjudged]
  · intro line failure hmem
    rcases List.mem_cons.mp hmem with heq | hmem
    · cases heq
    · rcases List.mem_append.mp hmem with hmem | hmem
      · exact hreplace _ _ line failure hmem
      · have hreport := List.mem_singleton.mp hmem
        split at hreport <;> cases hreport

theorem unjudged_execute (loader : Loader) (s : Session) (command : Command) :
    (s.execute loader command).Unjudged := by
  cases command with
  | exit | devices | tasks | unrecognized => simp [execute, Reply.Unjudged]
  | help => exact unjudged_say
  | load name args =>
      intro line failure hmem
      rcases List.mem_append.mp hmem with hmem | hmem
      · exact unjudged_load loader s name args line failure hmem
      · rw [loadNote.eq_def] at hmem
        split at hmem <;> simp at hmem
  | lifecycle order id => exact unjudged_control s order id
  | device id operation => exact unjudged_operate s id operation

theorem unjudged_interpret (loader : Loader) (s : Session) (line : String) :
    (s.interpret loader line).Unjudged := by
  rw [interpret]
  split
  · next command _ =>
      intro line failure hmem
      rcases List.mem_cons.mp hmem with heq | hmem
      · cases heq
      · exact unjudged_execute loader s command line failure hmem
  · rw [reportUnreadable]
    split <;> exact unjudged_say
  · exact fun _ _ => List.not_mem_nil

/-! ## The log of a run -/

section Run

variable {interpret : Session → String → Reply (Except Failure Bool)}

theorem lineFailed_of_takeLine (hquiet : ∀ s line, (interpret s line).Unjudged)
    {s : Session} {line judged : String} {failure : Failure}
    (hmem : .lineFailed judged failure ∈ (takeLine interpret s line).events) :
    judged = line ∧ (interpret s line).result = .error failure := by
  have hline := hquiet s line judged failure
  rw [takeLine] at hmem
  split at hmem
  · cases hmem
  · simp only at hmem
    split at hmem
    · exact absurd hmem hline
    · rcases List.mem_append.mp hmem with hmem | hmem
      · exact absurd hmem hline
      · cases List.mem_singleton.mp hmem
    · next hresult =>
        rcases List.mem_append.mp hmem with hmem | hmem
        · exact absurd hmem hline
        · cases List.mem_singleton.mp hmem
          exact ⟨rfl, hresult⟩

/-- Every failure listed in the log of a run is the answer to a line of its
input, in some session. -/
theorem lineFailed_of_run (hquiet : ∀ s line, (interpret s line).Unjudged)
    {prompt : Option String} {s : Session} {lines : List (Option String)}
    {line : String} {failure : Failure}
    (hmem : .lineFailed line failure ∈ (run interpret prompt s lines).events) :
    some line ∈ lines ∧ ∃ s', (interpret s' line).result = .error failure := by
  induction lines generalizing s with
  | nil => cases hmem
  | cons first rest ih =>
      rw [run.eq_def] at hmem
      simp only at hmem
      split at hmem
      · cases first with
        | none => cases hmem
        | some text =>
            rcases List.mem_append.mp hmem with hmem | hmem
            · obtain ⟨rfl, hresult⟩ := lineFailed_of_takeLine hquiet hmem
              exact ⟨List.mem_cons_self, s, hresult⟩
            · obtain ⟨hrest, hresult⟩ := ih hmem
              exact ⟨List.mem_cons_of_mem _ hrest, hresult⟩
      · cases hmem

end Run

end Session

end DeviceShell
