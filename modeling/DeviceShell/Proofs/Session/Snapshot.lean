import DeviceShell.Proofs.Device.ScriptText
import DeviceShell.Proofs.Session.Replacement
import DeviceShell.Proofs.Session.Tells
import DeviceShell.Proofs.Value.Entry

/-!
# A loaded script is a snapshot

A script is read once, when it is loaded. What it answers afterwards is what was
typed and what stood in the file then, whatever has become of the file and
whatever was typed in between, as long as its name is not loaded again.

There are three parts to it. A load that succeeds registers a task with the text
of the file. A line that is no load of a base name keeps what is registered
under it, and all that the device was made with (`fixed_after`). And a script in
any state shows what it was made with (`shows_of_find?`): it answers five
questions, and refuses to be assigned to.
-/

namespace DeviceShell

theorem Value.renderItems_map_text (texts : List String) :
    renderItems (texts.map .text) = String.intercalate ", " texts := by
  rw [renderItems_eq_intercalate, List.map_map]
  exact congrArg _ (List.map_id texts)

namespace ScriptTask

/-! ## What a script answers -/

theorem answer_get {t : ScriptTask} {name : String} {value : Value}
    (hread : t.read name = .ok value) :
    ((Device.script t).answer (.get name)).result =
      .ok (.script t, some value) := by
  simp only [Device.answer, Device.access, Device.read, hread]

theorem answer_call {t : ScriptTask} {method : String} {args : List Literal}
    {value : Value} (hcall : t.call method args = .ok value) :
    ((Device.script t).answer (.call method args)).result =
      .ok (.script t, some value) := by
  simp only [Device.answer, Device.accessCall, Device.call, hcall]
  rfl

theorem answer_set (t : ScriptTask) (name raw : String) :
    ((Device.script t).answer (.set name raw)).result =
      .error (.memberNotFound name (.noAttribute t.id)) :=
  rfl

end ScriptTask

/-! ## How a script is asked for a line -/

theorem Operation.writable_line (n : Int64) :
    (Operation.call "line" [.integer n]).Writable := by
  refine ⟨by decide, by decide, by decide,
    List.forall_mem_singleton.mpr trivial, Command.shielded_of_not_mem 0 ?_⟩
  rw [List.map_singleton, List.intercalate_singleton,
    Literal.toList_render_integer]
  rintro (_ | ⟨_, hmem⟩)
  exact absurd (Number.mem_wordText n '=' hmem) (by decide)

theorem Operation.render_line {n : Nat} (hn : n < Number.wordBound)
    (id : String) :
    (Operation.call "line" [.integer (Int64.ofNat n)]).render id =
      id ++ ".line(" ++ Number.countText n ++ ")" := by
  rw [render, Literal.renderArguments, List.map_singleton,
    String.intercalate_singleton, Literal.render, Number.wordText_ofNat hn]
  simp only [String.append_assoc]
  rfl

namespace Session

/-! ## What the operator is shown -/

/-- What can be asked of a script and what is answered: where it was read and
what was typed behind its name, how many lines it has, all of them, and one of
them. The lines are counted from one, and the count of them is a word. -/
structure Shows (loader : Loader) (s : Session) (base file : String)
    (typed script : List String) : Prop where
  args : Tells loader s (base ++ ".args")
    (.message, "[" ++ String.intercalate ", " typed ++ "]")
  path : Tells loader s (base ++ ".path") (.message, file)
  lines : script.length < Number.wordBound →
    Tells loader s (base ++ ".lines") (.message, Number.countText script.length)
  source : Tells loader s (base ++ ".source()")
    (.message, String.intercalate "\n" script)
  line : ∀ k (hk : k < script.length), (k + 1 : Nat) < Number.wordBound →
    Tells loader s (base ++ ".line(" ++ Number.countText (k + 1) ++ ")")
      (.message, script[k])
  refuses : ∀ line name raw,
    Command.classify (Text.trimmed line) = .ok (.device base (.set name raw)) →
    Tells loader s line (.error,
      base ++ ": missing member '" ++ name ++ "': " ++
      (base ++ " has no attribute '" ++ name ++ "'"))

section Script

variable {s : Session} {h : Handle} {t : ScriptTask}

theorem tells_of_read {name : String} {value : Value} (loader : Loader)
    (hid : Command.IsDeviceId t.id) (hfind : s.find? t.id = some (h, .script t))
    (hop : (Operation.get name).Writable) (hread : t.read name = .ok value) :
    Tells loader s (t.id ++ ("." ++ name)) (.message, value.render) := by
  have htells := tells_render loader hid hop (by rintro ⟨⟩) hfind
    (ScriptTask.answer_get hread)
  rw [Operation.render, String.append_assoc] at htells
  exact htells

theorem shows_of_find? (loader : Loader) (hid : Command.IsDeviceId t.id)
    (hkey : h.id = t.id) (hfind : s.find? t.id = some (h, .script t)) :
    Shows loader s t.id t.path t.args t.source := by
  refine ⟨?args, ?path, ?lines, ?source, ?line, ?refuses⟩
  case args =>
    have hop : (Operation.get "args").Writable :=
      ⟨by decide, by decide, by decide, by decide⟩
    have htells := tells_of_read loader hid hfind hop rfl
    rw [Value.render, Value.renderItems_map_text] at htells
    exact htells
  case path =>
    have hop : (Operation.get "path").Writable :=
      ⟨by decide, by decide, by decide, by decide⟩
    exact tells_of_read loader hid hfind hop rfl
  case lines =>
    intro hword
    have hop : (Operation.get "lines").Writable :=
      ⟨by decide, by decide, by decide, by decide⟩
    have htells := tells_of_read loader hid hfind hop rfl
    rw [Value.render, Number.wordText_ofNat hword] at htells
    exact htells
  case source =>
    have hop : (Operation.call "source" []).Writable :=
      ⟨by decide, by decide, by decide, List.forall_mem_nil _,
        Command.shielded_of_not_mem 0 (by decide)⟩
    have htells := tells_render loader hid hop (by rintro ⟨⟩) hfind
      (ScriptTask.answer_call rfl)
    simp only [Operation.render, String.append_assoc] at htells
    exact htells
  case line =>
    intro k hk hword
    have htells :=
      tells_render loader hid (Operation.writable_line _) (by rintro ⟨⟩) hfind
      (ScriptTask.answer_call
        (ScriptTask.call_line hk (Number.toInt_ofNat hword)))
    rw [Operation.render_line hword] at htells
    exact htells
  case refuses =>
    intro line name raw hread
    have htells := tells_of_missing loader hread hfind (t.answer_set name raw)
    rw [hkey] at htells
    exact htells

end Script

/-! ## From the load to the question -/

/-- A script that was loaded with success shows what was typed and what was in
its file at that time, at every later point until its name is loaded again.
Neither the lines in between nor what becomes of the files have a part in it. -/
theorem shows_after_ofFolders {s : Session} (hs : s.Sound)
    {folder : Lane → ScriptFolder} {suffix : String}
    {earlier later : List (Files × String)} {files : Files}
    {line name base text : String} {args script : List String} {lane : Lane}
    {content : ByteArray}
    (hline : Command.wordsOf (Text.trimmed line) = "load" :: name :: args)
    (hselects : Loader.Selects suffix name lane base)
    (hfile : files ((folder lane).path base) = some (.file content))
    (htext : String.fromUTF8? content = some text)
    (hscript : Text.CutIntoLines '\n' '\r' text.toList
      (script.map String.toList))
    (hloaded : ((Loader.ofFolders folder suffix files).load
      (s.after (.ofFolders folder suffix) earlier) name args).result = .ok ())
    (hkept : ∀ entry ∈ later,
      ¬ (Loader.ofFolders folder suffix entry.1).Loads
        (Text.trimmed entry.2) base) (loader : Loader) :
    Shows loader
      (s.after (.ofFolders folder suffix) (earlier ++ (files, line) :: later))
        base ((folder lane).path base) args script := by
  have hsound := hs.after (.ofFolders folder suffix) earlier
  have hread : Command.classify (Text.trimmed line) = .ok (.load name args) :=
    Command.classify_eq_load_iff.mpr ⟨name :: args, hline, rfl, rfl⟩
  have hname : name ≠ "" := by
    have hmem : name ∈ Command.wordsOf (Text.trimmed line) := by simp [hline]
    exact Command.ne_empty_of_mem_words hmem
  have hselect : (Loader.ofFolders folder suffix files).select name =
      (lane, base) :=
    Loader.select_eq_iff.mpr hselects
  cases hcreate : (Loader.ofFolders folder suffix files).create lane
      base args with
  | error failure =>
      rw [load_of_create_error hname hselect hcreate] at hloaded
      cases hloaded
  | ok made =>
      obtain ⟨text', hhas, rfl⟩ := Loader.create_ofFolders_eq_ok_iff.mp hcreate
      obtain rfl : text' = text := hhas.unique ⟨hhas.1, content, hfile, htext⟩
      have hfind := find?_load_of_create_ok hname hselect hcreate rfl
        (s.after (.ofFolders folder suffix) earlier)
      have hstep := step_interpret (.ofFolders folder suffix files)
        (s.after (.ofFolders folder suffix) earlier) line
      have hinterpret := interpret_of_read (.ofFolders folder suffix files)
        (s.after (.ofFolders folder suffix) earlier) hread
      rw [after_append]
      obtain ⟨d, hfinal, hfixed⟩ :=
        fixed_after (Loader.makesTasks_ofFolders folder suffix)
        (hsound.step hstep) (by rw [hinterpret]; exact hfind) hkept
      obtain ⟨state, rfl⟩ := Device.eq_script_of_fixed_eq hfixed
      have hshows := shows_of_find?
        (t := { ScriptTask.ofText base ((folder lane).path base) args text' with
          state }) loader hhas.1.isDeviceId rfl hfinal
      rw [← Text.lines_eq_iff.mpr hscript]
      exact hshows

/-- A script that is stopped, assigned to and deleted after it was loaded.
Another load of the same name fails, but it is one of another base name. -/
def dimmed : List (Files × String) :=
  [(fun _ => some (.file "off".toUTF8), "stop lamp"),
    (fun _ => none, "lamp.args = none"), (fun _ => none, "load lamp.dsh")]

theorem shows_after_ofFolders_dimmed :
    demo.Sound ∧
    Shows (.standard fun _ => none)
      (demo.after .standard
        ([(fun _ => none, "lamp.brightness = 7")] ++
          (fun _ => some (.file "on\r\n\ndim 3".toUTF8),
            " load  lamp.rb slow  twice ") :: dimmed))
      "lamp" "scripts/lamp.rb" ["slow", "twice"] ["on", "", "dim 3"] := by
  have hsound := initial_demo.sound
  have hline : Command.wordsOf (Text.trimmed " load  lamp.rb slow  twice ") =
      "load" :: "lamp.rb" :: ["slow", "twice"] := by decide +kernel
  have hselects : Loader.Selects ".rb" "lamp.rb" .secondary "lamp" :=
    .secondary (by decide) (by decide)
  have htext : String.fromUTF8? "on\r\n\ndim 3".toUTF8 =
      some "on\r\n\ndim 3" := by decide +kernel
  have hscript : Text.CutIntoLines '\n' '\r' "on\r\n\ndim 3".toList
      (["on", "", "dim 3"].map String.toList) :=
    Text.lines_eq_iff.mp (by decide +kernel)
  have hloaded : ((Loader.standard fun _ =>
      some (.file "on\r\n\ndim 3".toUTF8)).load
        (demo.after .standard [(fun _ => none, "lamp.brightness = 7")])
        "lamp.rb" ["slow", "twice"]).result = .ok () := by decide +kernel
  have hkept : ∀ entry ∈ dimmed, ¬ (Loader.standard entry.1).Loads
      (Text.trimmed entry.2) "lamp" := by
    refine List.forall_mem_cons.mpr ⟨?stop, List.forall_mem_cons.mpr
      ⟨?assign, List.forall_mem_singleton.mpr ?load⟩⟩
    case stop =>
      have hwords : Command.wordsOf (Text.trimmed "stop lamp") =
          ["stop", "lamp"] := by decide +kernel
      exact Loader.not_loads_of_wordsOf hwords (by decide)
    case assign =>
      have hwords : Command.wordsOf (Text.trimmed "lamp.args = none") =
          ["lamp.args", "=", "none"] := by decide +kernel
      exact Loader.not_loads_of_wordsOf hwords (by decide)
    case load =>
      rintro ⟨name, args, hwords, hbase⟩
      have hload : Command.wordsOf (Text.trimmed "load lamp.dsh") =
          ["load", "lamp.dsh"] := by decide +kernel
      rw [hload] at hwords
      cases hwords
      exact absurd hbase (by decide +kernel)
  have hpath : (({} : ScriptSettings).folder .secondary).path "lamp" =
      "scripts/lamp.rb" := by decide +kernel
  have hshows := shows_after_ofFolders hsound hline hselects rfl htext hscript
    hloaded hkept (.standard fun _ => none)
  rw [hpath] at hshows
  exact ⟨hsound, hshows⟩

end Session

end DeviceShell
