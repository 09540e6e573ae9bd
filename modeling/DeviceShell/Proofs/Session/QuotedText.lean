import DeviceShell.Proofs.Device.Schema
import DeviceShell.Proofs.Session.History
import DeviceShell.Proofs.Session.Tells
import DeviceShell.Proofs.Value.Quoted
import DeviceShell.Settings.Scripts

/-!
# What is assigned between quotes is kept

A text that is assigned goes through many hands: the line is trimmed and cut
at its first equals sign, the rest is trimmed again, and the device makes a
value of it, by the kind of the one it replaces or by what it looks like.
Between quotes nothing of that reaches it. The line ends in a quote, so no
blank of the text is at an end of anything that is trimmed; the first equals
sign is the one behind the name, whatever the text holds; and what starts with
a quote is text (`Value.infer_quoted`).

So the attribute is shown as exactly what stood between the quotes, and
nothing else has changed.
-/

namespace DeviceShell

namespace Session

variable {s : Session} {line id name : String} {operation : Operation}
  {h : Handle} {d d' : Device}

/-- The line is handled without a word, and all there is to it is
another state of one device. -/
structure Settles (loader : Loader) (s : Session) (line : String) (h : Handle)
    (d : Device) : Prop where
  handled : (s.interpret loader line).result = .ok true
  quiet : (s.interpret loader line).transcript = []
  session : (s.interpret loader line).session = s.put h d

theorem settles_of_answer (loader : Loader)
    (hread : Command.classify (Text.trimmed line) = .ok (.device id operation))
    (hfind : s.find? id = some (h, d))
    (hanswer : (d.answer operation).result = .ok (d', none)) :
    Settles loader s line h d' := by
  have hinterpret := interpret_of_device (s := s) loader hread
  rw [operate_eq_conclude operation hfind, conclude, hanswer] at hinterpret
  refine ⟨by rw [hinterpret], ?_, by rw [hinterpret]⟩
  rw [hinterpret]
  exact d.transcript_answer operation

end Session

/-- Quoted text is taken by an attribute that holds text, and by one
that comes into being. -/
theorem PropertyDevice.assign_quoted {p : PropertyDevice} {name : String}
    (hattribute : (∃ old, p.attributes[name]? = some (.text old)) ∨
      p.openSchema = true ∧ p.attributes[name]? = none) (v : String) :
    p.assign name (Literal.text v).render =
      .ok { p with attributes := p.attributes.insert name (.text v) } := by
  rw [assign]
  rcases hattribute with ⟨old, hold⟩ | ⟨hopen, habsent⟩
  · simp only [hold, Value.coerce?_quoted]
  · simp only [habsent, hopen, if_true, Value.infer_quoted]

theorem Operation.writable_set_quoted {name : String}
    (hname : (Operation.get name).Writable) (v : String) :
    (Operation.set name (Literal.text v).render).Writable := by
  obtain ⟨hname, -, hopen, hequals⟩ := hname
  exact ⟨hname, Command.shielded_of_not_mem 0 hequals,
    Command.depthAfter_zero_of_not_mem hopen, (Literal.text v).trimmed_render⟩

namespace Session

variable {s : Session} {id name : String} {h : Handle} {p : PropertyDevice}

/-- Whatever text is assigned between quotes to an attribute that holds text or
comes into being, the line is handled without a word, the one attribute is all
that changes, and the line that names it is answered with exactly the text. -/
theorem tells_assigned_quoted (hid : Command.IsDeviceId id)
    (hname : (Operation.get name).Writable)
    (hfind : s.find? id = some (h, .property p))
    (hattribute : (∃ old, p.attributes[name]? = some (.text old)) ∨
      p.openSchema = true ∧ p.attributes[name]? = none) (v : String)
    (loader later : Loader) :
    ∃ table : Attributes,
      (∀ other, table[other]? = if other = name then some (.text v)
        else p.attributes[other]?) ∧
      Settles loader s (id ++ "." ++ name ++ " = \"" ++ v ++ "\"") h
        (.property { p with attributes := table }) ∧
      Tells later
        (s.interpret loader (id ++ "." ++ name ++ " = \"" ++ v ++ "\"")).session
        (id ++ "." ++ name) (.message, v) := by
  have hline : id ++ "." ++ name ++ " = \"" ++ v ++ "\"" =
      (Operation.set name (Literal.text v).render).render id := by
    have hquote : " = \"" = " = " ++ "\"" := rfl
    simp only [Operation.render, Literal.render, hquote, String.append_assoc]
  have hsettles : Settles loader s (id ++ "." ++ name ++ " = \"" ++ v ++ "\"") h
      (.property { p with
        attributes := p.attributes.insert name (.text v) }) := by
    rw [hline]
    refine settles_of_answer loader (Command.classify_trimmed_render hid
      (Operation.writable_set_quoted hname v) (by rintro ⟨⟩)) hfind ?_
    simp only [Device.answer, Device.accessAssign, Device.assign,
      PropertyDevice.assign_quoted hattribute v]
    rfl
  refine ⟨_, fun other => ?_, hsettles, ?_⟩
  · rw [PropertyDevice.getElem?_insert]
    simp only [eq_comm]
  · have hanswer := @PropertyDevice.answer_get
      { p with attributes := p.attributes.insert name (.text v) } name (.text v)
      Std.ExtTreeMap.getElem?_insert_self
    rw [hsettles.session]
    exact tells_render later hid hname (by rintro ⟨⟩) (find?_put_self hfind _)
      (by rw [hanswer])

/-- A new attribute, and a text with blanks at both ends, quotes, a line end and
everything that means something on a line. -/
theorem tells_assigned_quoted_everyMark :
    ∃ h p, demo.find? "notes" = some (h, .property p) ∧
      Command.IsDeviceId "notes" ∧ (Operation.get "desk label").Writable ∧
      p.openSchema = true ∧ p.attributes["desk label"]? = none ∧
      (demo.interpret (.standard fun _ => none)
        "notes.desk label = \" = \"7\",\n(true). \"").result = .ok true ∧
      Tells (.standard fun _ => none)
        (demo.interpret (.standard fun _ => none)
          "notes.desk label = \" = \"7\",\n(true). \"").session
        "notes.desk label" (.message, " = \"7\",\n(true). ") := by
  have hnotes : ∃ h p, demo.find? "notes" = some (h, .property p) ∧
      p.openSchema = true ∧ p.attributes["desk label"]? = none :=
    ⟨_, _, rfl, rfl, rfl⟩
  obtain ⟨h, p, hfind, hopen, habsent⟩ := hnotes
  have hid : Command.IsDeviceId "notes" := by decide
  have hname : (Operation.get "desk label").Writable :=
    ⟨⟨by decide, by decide⟩, by decide, by decide, by decide⟩
  obtain ⟨table, -, hsettles, htells⟩ := tells_assigned_quoted hid hname hfind
    (.inr ⟨hopen, habsent⟩) " = \"7\",\n(true). "
    (.standard fun _ => none) (.standard fun _ => none)
  exact ⟨h, p, hfind, hid, hname, hopen, habsent, hsettles.handled, htells⟩

end Session

end DeviceShell
