import DeviceShell.Options

/-!
# Options and the command lines that give them

A command line is read word by word, and a word can end the reading at once.
Not every set of options comes out of it: a path that is given must not be
empty. That is all that is lacking. Whatever is usable in this sense has a
command line of its own, with each value attached to the name of its option
(`words`), where nothing in the value can be taken for anything else; and
whatever has been read is usable.

So the options of one run can be those of another with something changed, as
long as no path is emptied: the other run has a command line too.
-/

namespace DeviceShell.Options

/-- No path is empty. -/
def Usable (o : Options) : Prop :=
  o.config ≠ "" ∧ o.scriptDir ≠ some ""

/-- A command line for some options. -/
def words (o : Options) : List String :=
  ("--config=" ++ o.config) :: (o.scriptDir.toList.map ("--script-dir=" ++ ·) ++
    ((if o.demo then ["--demo"] else []) ++
      (List.replicate o.verbosity "-v" ++ o.commands.map ("--command=" ++ ·))))

/-! ## One word of a command line -/

theorem readFrom_cons {p p' : Progress} {word : String} (hword : word ≠ "--")
    (htake : take p word = .next p') (rest : List String) :
    readFrom p none (word :: rest) = readFrom p' none rest := by
  simp only [readFrom, if_neg hword, htake]

/-- The value behind the name of an option is taken as it is. -/
theorem take_attached {name : List Char} {o : Valued} (hname : '=' ∉ name)
    (hlong : long? (String.ofList name) = some (.inl o)) (p : Progress)
    (value : String) :
    take p (String.ofList ('-' :: '-' :: name) ++ "=" ++ value) =
      give p o value := by
  have hfront : ∀ c ∈ name, decide (c ≠ '=') = true := by
    intro c hc
    rw [decide_eq_true_iff]
    rintro rfl
    exact hname hc
  have hword : (String.ofList ('-' :: '-' :: name) ++ "=" ++ value).toList =
      '-' :: '-' :: (name ++ '=' :: value.toList) := by
    simp
  rw [take, hword]
  simp only []
  rw [takeLong, List.takeWhile_append_of_pos hfront,
    List.takeWhile_cons_of_neg (by simp), List.append_nil,
    List.dropWhile_append_of_pos hfront, List.dropWhile_cons_of_neg (by simp)]
  simp only [hlong, String.ofList_toList]

theorem readFrom_attached (name : List Char) {o : Valued} {p p' : Progress}
    {value : String} (hname : '=' ∉ name)
    (hlong : long? (String.ofList name) = some (.inl o))
    (hgive : give p o value = .next p') (rest : List String) :
    readFrom p none
      ((String.ofList ('-' :: '-' :: name) ++ "=" ++ value) :: rest) =
      readFrom p' none rest := by
  refine readFrom_cons ?_ ((take_attached hname hlong p value).trans hgive) rest
  intro hword
  have hmem : '=' ∈
    (String.ofList ('-' :: '-' :: name) ++ "=" ++ value).toList := by simp
  rw [hword] at hmem
  exact absurd hmem (by decide)

/-! ## The command line of some options -/

theorem readFrom_verbose (p : Progress) (n : Nat) (rest : List String) :
    readFrom p none (List.replicate n "-v" ++ rest) =
      readFrom { p with options :=
        { p.options with verbosity := p.options.verbosity + n } } none
        rest := by
  induction n generalizing p with
  | zero => rfl
  | succ n ih =>
      rw [List.replicate_succ, List.cons_append,
        readFrom_cons (by decide) rfl, ih]
      simp only [Nat.add_assoc, Nat.add_comm 1 n]

theorem readFrom_commands (p : Progress) (commands : List String) :
    readFrom p none (commands.map ("--command=" ++ ·)) =
      .run { p.options with commands := p.options.commands ++ commands } := by
  induction commands generalizing p with
  | nil =>
      rw [List.append_nil]
      rfl
  | cons command rest ih =>
      rw [List.map_cons]
      refine (readFrom_attached "command".toList (by decide) rfl rfl _).trans ?_
      rw [ih]
      simp only [List.append_assoc, List.singleton_append]

theorem read_words {o : Options} (h : o.Usable) : read o.words = .run o := by
  obtain ⟨config, scriptDir, commands, demo, verbosity⟩ := o
  obtain ⟨hconfig, hdir⟩ := h
  have hgiven : give {} .config config =
      .next { options := { config }, configGiven := true } := by
    rw [give, if_neg (by simpa using hconfig)]
  refine (readFrom_attached "config".toList (by decide) rfl hgiven _).trans ?_
  have hcommands : ∀ p : Progress, p.options = { config, scriptDir, demo } →
      readFrom p none (List.replicate verbosity "-v" ++
        commands.map ("--command=" ++ ·)) =
        .run { config, scriptDir, commands, demo, verbosity } := by
    intro p hp
    rw [readFrom_verbose, readFrom_commands, hp, List.nil_append, Nat.zero_add]
  have hflags : ∀ p : Progress, p.options = { config, scriptDir } →
      readFrom p none ((if demo then ["--demo"] else []) ++
        (List.replicate verbosity "-v" ++ commands.map ("--command=" ++ ·))) =
        .run { config, scriptDir, commands, demo, verbosity } := by
    intro p hp
    cases demo with
    | false => exact hcommands p hp
    | true =>
        have hraise : take p "--demo" =
            .next { p with options := { p.options with demo := true } } := by
          show raise p .demo = _
          rw [raise, hp]
          rfl
        refine (readFrom_cons (by decide) hraise _).trans (hcommands _ ?_)
        rw [hp]
  cases scriptDir with
  | none => exact hflags _ rfl
  | some dir =>
      have hdirGiven :
          give { options := { config }, configGiven := true } .scriptDir dir =
            .next { options := { config, scriptDir := some dir },
                    configGiven := true } := by
        have hne : dir ≠ "" := fun heq => hdir (congrArg some heq)
        rw [give, if_neg (by simpa using hne)]
      refine (readFrom_attached "script-dir".toList (by decide) rfl
        hdirGiven _).trans ?_
      exact hflags _ rfl

/-! ## What is read is usable -/

/-- Whatever comes of a step has usable options. -/
def Step.Usable : Step → Prop
  | .next p | .wants p _ => p.options.Usable
  | .done (.run o) => o.Usable
  | .done _ => True

theorem usable_give {p : Progress} (h : p.options.Usable) (o : Valued)
    (value : String) :
    (give p o value).Usable := by
  cases o with
  | config =>
      rw [give]
      split
      · exact trivial
      · next hgiven => exact ⟨by simpa using (not_or.mp hgiven).2, h.2⟩
  | scriptDir =>
      rw [give]
      split
      · exact trivial
      · next hgiven =>
          refine ⟨h.1, fun heq => (not_or.mp hgiven).2 ?_⟩
          rw [Option.some.inj heq]
          rfl
  | command => exact h

theorem usable_raise {p : Progress} (h : p.options.Usable) (flag : Flag) :
    (raise p flag).Usable := by
  cases flag with
  | demo =>
      rw [raise]
      split
      · exact trivial
      · exact h
  | verbose => exact h
  | version | help => exact trivial

theorem usable_takeLong {p : Progress} (h : p.options.Usable) (cs : List Char) :
    (takeLong p cs).Usable := by
  rw [takeLong]
  split
  · exact h
  · exact usable_give h _ _
  · exact usable_raise h _
  · exact trivial

theorem usable_takeShort {p : Progress} (h : p.options.Usable)
    (cs : List Char) :
    (takeShort p cs).Usable := by
  induction cs generalizing p with
  | nil => exact h
  | cons c rest ih =>
      rw [takeShort.eq_def]
      simp only []
      split
      · split
        · exact h
        · exact usable_give h _ _
        · exact usable_give h _ _
      · next flag _ =>
          have hflag := usable_raise h flag
          split
          · next hnext =>
              rw [hnext] at hflag
              exact ih hflag
          · exact hflag
      · exact trivial

theorem usable_take {p : Progress} (h : p.options.Usable) (word : String) :
    (take p word).Usable := by
  rw [take]
  split
  · exact usable_takeLong h _
  · exact usable_takeShort h _
  · exact trivial

theorem usable_readFrom {p : Progress} {waiting : Option Valued}
    {words : List String} {o : Options} (h : p.options.Usable)
    (hread : readFrom p waiting words = .run o) : o.Usable := by
  induction words generalizing p waiting with
  | nil =>
      rw [readFrom] at hread
      split at hread
      · cases hread
      · cases hread
        exact h
  | cons word rest ih =>
      cases waiting with
      | none =>
          have hstep : (if word = "--" then
            .done (if rest.isEmpty then .run p.options else .mistake)
              else take p word : Step).Usable := by
            split
            · split
              · exact h
              · exact trivial
            · exact usable_take h word
          rw [readFrom.eq_def] at hread
          simp only [] at hread
          generalize (if word = "--" then _ else _ : Step) = step at hstep hread
          cases step with
          | next p | wants p o => exact ih hstep hread
          | done request =>
              cases hread
              exact hstep
      | some asked =>
          have hstep : (if isValue word then give p asked word
              else .done .mistake : Step).Usable := by
            split
            · exact usable_give h asked word
            · exact trivial
          rw [readFrom.eq_def] at hread
          simp only [] at hread
          generalize (if isValue word then _ else _ : Step) =
            step at hstep hread
          cases step with
          | next p | wants p o => exact ih hstep hread
          | done request =>
              cases hread
              exact hstep

/-- The usable options are those that some command line gives. -/
theorem exists_read_iff {o : Options} :
    (∃ words, read words = .run o) ↔ o.Usable := by
  constructor
  · rintro ⟨words, hread⟩
    exact usable_readFrom ⟨by decide, by decide⟩ hread
  · exact fun h => ⟨o.words, read_words h⟩

end DeviceShell.Options
