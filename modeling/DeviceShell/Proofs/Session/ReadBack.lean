import DeviceShell.Proofs.Command.OuterBlanks
import DeviceShell.Proofs.Session.Answers

/-!
# Reading back what was assigned

A name that is assigned to stands between the first dot and the first free
equals sign, and a name that is read stands behind a dot and holds neither
another dot nor a parenthesis. So more can be assigned than can be read. With a
dot or an opening parenthesis in the name, the line that would read it back is a
call, and an open schema lets such an attribute come into being
(`assignedInVain_markedNames`).

Every other name comes back. What an assignment accepts is stored under the very
name, the line that reads it is on the same device, and since the attribute is
there no method of that name is tried.
-/

namespace DeviceShell

open Text

namespace Command

/-- A name that was assigned to is read by the line that names it if no dot and
no parenthesis is in it, and by no other. -/
theorem classify_reading_iff {id name raw line : String} (hid : IsWord id)
    (hread : classify line = .ok (.device id (.set name raw))) :
    classify (id ++ "." ++ name) = .ok (.device id (.get name)) ↔
      '.' ∉ name.toList ∧ '(' ∉ name.toList := by
  have hline := AboutDevice.classify_eq (.inl ⟨id, _, hread⟩)
  rw [hread] at hline
  rcases of_readDeviceLine hline.symm with
    hnone | ⟨id', operation, heq, -, hident, hset⟩
  · cases hnone
  · cases heq
    obtain ⟨hname, hshield, -, -⟩ := hset
    rw [classify_dotted hid]
    constructor
    · intro hget
      rcases of_readDeviceLine hget with
        hnone | ⟨id', operation, heq, -, -, hwritable⟩
      · cases hnone
      · cases heq
        exact ⟨hwritable.2.1, hwritable.2.2.1⟩
    · rintro ⟨hdot, hopen⟩
      have hwritable : (Operation.get name).Writable :=
        ⟨hname, hdot, hopen, hshield.not_mem hopen⟩
      have hspelling :=
        Operation.Spelling.get (padded_self id.toList) (padded_self name.toList)
      refine readDeviceLine_of_spelling hident hwritable ?_
      simpa using hspelling

end Command

namespace Session

/-- The line that names an attribute is answered with the value stored under
that name, and with nothing else. -/
def ReadsBack (loader : Loader) (s : Session) (id name : String) : Prop :=
  ∃ h p value, s.find? id = some (h, .property p) ∧
    p.attributes[name]? = some value ∧
    (s.interpret loader (id ++ "." ++ name)).result = .ok true ∧
    (s.interpret loader (id ++ "." ++ name)).transcript =
      [(.message, value.render)]

/-- An assignment that is handled without a word has been stored. -/
theorem stored_of_interpret {s : Session} {loader : Loader}
    {id name raw line : String}
    (hread : Command.classify (trimmed line) = .ok (.device id (.set name raw)))
    (hresult : (s.interpret loader line).result = .ok true)
    (hquiet : (s.interpret loader line).transcript = []) :
    ∃ h p value, (s.interpret loader line).session.find? id =
      some (h, .property p) ∧
      p.attributes[name]? = some value := by
  have hanswer := answer_interpret s loader (.inl ⟨id, _, hread⟩)
  obtain rfl := Command.identifier_of_classify hread
  generalize (s.interpret loader line).session = s' at *
  generalize (s.interpret loader line).transcript = transcript at *
  generalize (s.interpret loader line).result = result at *
  cases hanswer with
  | reported => cases hquiet
  | refused => cases hresult
  | @served operation h d d' value hread' hfind hserved =>
      rw [hread] at hread'
      cases hread'
      obtain ⟨hassign, rfl⟩ := Device.assign_of_accessAssign hserved
      obtain ⟨p, p', rfl, rfl, hassigned⟩ := Device.assigned_of_assign hassign
      obtain ⟨hget, hd⟩ := find?_eq_some_iff.mp hfind
      have hstored : ∃ value, p'.attributes[name]? = some value := by
        cases hassigned <;> exact ⟨_, Std.ExtTreeMap.getElem?_insert_self⟩
      obtain ⟨value, hvalue⟩ := hstored
      refine ⟨h, p', value, find?_eq_some_iff.mpr ⟨hget, ?_⟩, hvalue⟩
      rw [device?_put hd, if_pos rfl]

/-- An attribute that is there is read, whatever the methods of the device. -/
theorem readsBack_of_classify {s : Session} {id name : String} {h : Handle}
    {p : PropertyDevice} {value : Value} (loader : Loader)
    (hfind : s.find? id = some (h, .property p))
    (hvalue : p.attributes[name]? = some value)
    (hread : Command.classify (id ++ "." ++ name) =
      .ok (.device id (.get name))) :
    s.ReadsBack loader id name := by
  have hdot : '.' ∈ (id ++ "." ++ name).toList := by simp
  have hinterpret := interpret_of_device (s := s) loader
    ((Command.classify_trimmed_of_dot hdot).trans hread)
  rw [operate_eq_conclude _ hfind, PropertyDevice.answer_get hvalue]
    at hinterpret
  refine ⟨h, p, value, hfind, hvalue, ?_, ?_⟩ <;> rw [hinterpret] <;> rfl

/-- What was assigned under a name without dots and opening parentheses reads
back. With one of them in the name, the line that names the attribute does not
ask for it. -/
theorem readsBack_of_set {s : Session} {id name raw line : String}
    (loader : Loader) (hid : Command.IsWord id)
    (hread : Command.classify line = .ok (.device id (.set name raw)))
    (hresult : (s.interpret loader line).result = .ok true)
    (hquiet : (s.interpret loader line).transcript = []) :
    (Command.classify (id ++ "." ++ name) = .ok (.device id (.get name)) ↔
      '.' ∉ name.toList ∧ '(' ∉ name.toList) ∧
    ('.' ∉ name.toList → '(' ∉ name.toList →
      (s.interpret loader line).session.ReadsBack loader id name) := by
  have hreading := Command.classify_reading_iff hid hread
  refine ⟨hreading, fun hdot hopen => ?_⟩
  have hline := Command.dot_mem_of_classify hread (by rintro ⟨⟩)
  obtain ⟨h', p', value, hfind', hvalue⟩ := stored_of_interpret
    ((Command.classify_trimmed_of_dot hline).trans hread) hresult hquiet
  exact readsBack_of_classify loader hfind' hvalue (hreading.mpr ⟨hdot, hopen⟩)

/-- A name of two words, with blanks around it that do not belong to it. -/
theorem readsBack_of_deskHeight :
    Command.classify " notes. desk height = 72 cm" =
      .ok (.device "notes" (.set "desk height" "72 cm")) ∧
    (demo.interpret (.standard fun _ => none)
      " notes. desk height = 72 cm").result = .ok true ∧
    (demo.interpret (.standard fun _ => none)
      " notes. desk height = 72 cm").transcript = [] ∧
    (demo.interpret (.standard fun _ => none)
      " notes. desk height = 72 cm").session.ReadsBack
        (.standard fun _ => none) "notes" "desk height" := by
  have hid : Command.IsWord "notes" := by decide
  have hread : Command.classify " notes. desk height = 72 cm" =
      .ok (.device "notes" (.set "desk height" "72 cm")) := by decide +kernel
  have hresult : (demo.interpret (.standard fun _ => none)
      " notes. desk height = 72 cm").result = .ok true := by decide +kernel
  have hquiet : (demo.interpret (.standard fun _ => none)
      " notes. desk height = 72 cm").transcript = [] := by decide +kernel
  obtain ⟨-, hback⟩ := readsBack_of_set _ hid hread hresult hquiet
  exact ⟨hread, hresult, hquiet, hback (by decide) (by decide)⟩

/-- The line assigns to an attribute of a device with an open schema and is
handled without a word, and the attribute does not read back. -/
structure AssignedInVain (loader : Loader) (s : Session)
    (id name raw line : String) : Prop where
  openSchema : ∃ h p, s.find? id = some (h, .property p) ∧ p.openSchema = true
  read : Command.classify line = .ok (.device id (.set name raw))
  handled : (s.interpret loader line).result = .ok true
  quiet : (s.interpret loader line).transcript = []
  notReadBack : ¬ (s.interpret loader line).session.ReadsBack loader id name

theorem not_readsBack_of_transcript {s : Session} {loader : Loader}
    {id name text : String}
    (htold : (s.interpret loader (id ++ "." ++ name)).transcript =
      [(.error, text)]) :
    ¬ s.ReadsBack loader id name := by
  rintro ⟨h, p, value, -, -, -, hvalue⟩
  rw [htold] at hvalue
  cases hvalue

/-- With a dot or with parentheses in the name, the line that names the
attribute calls a method that is not there. -/
theorem assignedInVain_markedNames :
    demo.AssignedInVain (.standard fun _ => none)
      "notes" "a.b" "1" "notes.a.b = 1" ∧
    demo.AssignedInVain (.standard fun _ => none)
      "notes" "a()" "1" "notes.a() = 1" := by
  have hopen : ∃ h p, demo.find? "notes" = some (h, .property p) ∧
      p.openSchema = true := ⟨_, _, rfl, rfl⟩
  constructor
  · refine ⟨hopen, by decide +kernel, by decide +kernel, by decide +kernel, ?_⟩
    exact @not_readsBack_of_transcript _ _ _ _
      "notes: missing member 'a.b': notes has no method 'a.b'"
      (by decide +kernel)
  · refine ⟨hopen, by decide +kernel, by decide +kernel, by decide +kernel, ?_⟩
    exact @not_readsBack_of_transcript _ _ _ _
      "notes: missing member 'a': notes has no method 'a'" (by decide +kernel)

end Session

end DeviceShell
