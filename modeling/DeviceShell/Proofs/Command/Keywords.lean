import DeviceShell.Proofs.Command.NormalForm

/-!
# Which lines the keywords take

A line is tried as a built-in word, then as a list of words that starts with a
keyword, and then as a device line. The first two never compete: a built-in word
is one word, and no keyword. So `Understood` can say of each command which lines
give it, and the order of the attempts is left behind.

A word with a dot in it is no keyword. That is what keeps device lines apart,
also for a device that is called like a keyword.
-/

namespace DeviceShell

open Text

theorem Lifecycle.of_ofWord? {w : String} {order : Lifecycle}
    (h : ofWord? w = some order) :
    w = order.word := by
  rw [ofWord?] at h
  repeat' split at h
  all_goals first
    | cases h; assumption
    | cases h

namespace Command

/-- The words of a line. -/
def wordsOf (line : String) : List String :=
  (words line.toList).map String.ofList

/-- The words that are commands only where nothing is around them. -/
def builtInWords : List String :=
  ["exit", "devices", "tasks", "help"]

/-- The lines that give a command. -/
inductive Understood (line : String) : Command → Prop where
  | exit (hline : line = "exit") : Understood line .exit
  | devices (hline : line = "devices") : Understood line .devices
  | tasks (hline : line = "tasks") : Understood line .tasks
  | help (hline : line = "help") : Understood line .help
  | load {rest} (hwords : wordsOf line = "load" :: rest) :
      Understood line (.load (rest.headD "") rest.tail)
  | lifecycle {order id} (hwords : wordsOf line = [order.word, id]) :
      Understood line (.lifecycle order id)
  | device {id op} (hread : readDeviceLine line = .ok (.device id op)) :
      Understood line (.device id op)
  | unrecognized (hread : readDeviceLine line = .ok .unrecognized) :
      Understood line .unrecognized

/-! ## The three attempts -/

theorem understood_of_builtin? {line : String} {c : Command}
    (h : builtin? line = some c) :
    Understood line c := by
  rw [builtin?] at h
  split at h
  · next hline =>
      cases h
      exact .exit hline
  · split at h
    · next hline =>
        cases h
        exact .devices hline
    · split at h
      · next hline =>
          cases h
          exact .tasks hline
      · split at h
        · next hline =>
            cases h
            exact .help hline
        · cases h

theorem understood_of_ofWords? {line : String} {c : Command}
    (h : ofWords? (wordsOf line) = some c) : Understood line c := by
  cases hws : wordsOf line with
  | nil =>
      rw [hws] at h
      cases h
  | cons keyword rest =>
      rw [hws, ofWords?.eq_def] at h
      simp only [] at h
      split at h
      · next hload =>
          cases h
          exact .load (hload ▸ hws)
      · split at h
        · next hword =>
            cases h
            exact .lifecycle (Lifecycle.of_ofWord? hword ▸ hws)
        · cases h

theorem understood_of_classify {line : String} {c : Command}
    (h : classify line = .ok c) :
    Understood line c := by
  rw [classify] at h
  split at h
  · next hbuiltin =>
      cases h
      exact understood_of_builtin? hbuiltin
  · split at h
    · next hwords =>
        cases h
        exact understood_of_ofWords? hwords
    · rcases of_readDeviceLine h with rfl | ⟨id, op, rfl, -⟩
      · exact .unrecognized h
      · exact .device h

theorem mem_builtInWords {w : String} :
    w ∈ builtInWords ↔ w = "exit" ∨ w = "devices" ∨ w = "tasks" ∨
    w = "help" := by
  simp only [builtInWords, List.mem_cons, List.not_mem_nil, or_false]

theorem not_mem_builtInWords_of_dot {line : String} (hdot : '.' ∈ line.toList) :
    line ∉ builtInWords := by
  intro hmem
  rcases mem_builtInWords.mp hmem with rfl | rfl | rfl | rfl <;>
    exact absurd hdot (by decide)

theorem builtin?_eq_none {line : String} (h : line ∉ builtInWords) :
    builtin? line = none := by
  simp only [mem_builtInWords, not_or] at h
  obtain ⟨hexit, hdevices, htasks, hhelp⟩ := h
  rw [builtin?, if_neg hexit, if_neg hdevices, if_neg htasks, if_neg hhelp]

/-- A built-in word does not start with a keyword. -/
theorem classify_of_ofWords? {line : String} {c : Command}
    (h : ofWords? (wordsOf line) = some c) : classify line = .ok c := by
  have hbuiltin : line ∉ builtInWords := by
    intro hmem
    rcases mem_builtInWords.mp hmem with rfl | rfl | rfl | rfl <;> cases h
  rw [wordsOf] at h
  simp only [classify, builtin?_eq_none hbuiltin, h]

/-! ## One command at a time -/

theorem classify_eq_exit_iff {line : String} :
    classify line = .ok .exit ↔ line = "exit" := by
  constructor
  · intro h
    cases understood_of_classify h with
    | exit hline => exact hline
  · rintro rfl
    rfl

theorem classify_eq_load_iff {line name : String} {args : List String} :
    classify line = .ok (.load name args) ↔
      ∃ rest, wordsOf line = "load" :: rest ∧ name = rest.headD "" ∧
        args = rest.tail := by
  constructor
  · intro h
    cases understood_of_classify h with
    | load hwords => exact ⟨_, hwords, rfl, rfl⟩
  · rintro ⟨rest, hwords, rfl, rfl⟩
    refine classify_of_ofWords? ?_
    rw [hwords]
    rfl

theorem classify_eq_lifecycle_iff {line id : String} {order : Lifecycle} :
    classify line = .ok (.lifecycle order id) ↔
    wordsOf line = [order.word, id] := by
  constructor
  · intro h
    cases understood_of_classify h with
    | lifecycle hwords => exact hwords
  · intro hwords
    refine classify_of_ofWords? ?_
    rw [hwords]
    cases order <;> rfl

/-! ## Dotted lines -/

theorem ofWords?_of_dot {keyword : String} (hdot : '.' ∈ keyword.toList)
    (rest : List String) :
    ofWords? (keyword :: rest) = none := by
  have hload : keyword ≠ "load" := by
    rintro rfl
    exact absurd hdot (by decide)
  have horder : Lifecycle.ofWord? keyword = none := by
    cases hword : Lifecycle.ofWord? keyword with
    | none => rfl
    | some order =>
        rw [Lifecycle.of_ofWord? hword] at hdot
        cases order <;> exact absurd hdot (by decide)
  simp only [ofWords?, if_neg hload, horder]

/-- A line that starts with a word and a dot is a device line, whatever the word
is. -/
theorem classify_dotted {id : String} (hid : IsWord id) (rest : String) :
    classify (id ++ "." ++ rest) = readDeviceLine (id ++ "." ++ rest) := by
  have hfront : ∀ c ∈ id.toList ++ ['.'], isBlank c = false := by
    intro c hc
    rcases List.mem_append.mp hc with hc | hc
    · exact hid.2 c hc
    · rw [List.mem_singleton.mp hc]
      rfl
  obtain ⟨more, others, hwords⟩ := words_append (by simp) hfront rest.toList
  have hline : (id ++ "." ++ rest).toList = id.toList ++ ['.'] ++
    rest.toList := by simp
  have hbuiltin : id ++ "." ++ rest ∉ builtInWords :=
    not_mem_builtInWords_of_dot (by simp)
  have hkeyword : ofWords? (String.ofList (id.toList ++ ['.'] ++ more) ::
      others.map String.ofList) = none :=
    ofWords?_of_dot (by simp) _
  rw [classify, builtin?_eq_none hbuiltin, hline, hwords,
    List.map_cons, hkeyword]

end Command

end DeviceShell
