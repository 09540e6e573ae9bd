import DeviceShell.Proofs.Files.Child
import DeviceShell.Proofs.Session.Replacement

/-!
# The one file a line can reach

Only a load asks its loader for anything, and it asks for one thing: what the
lane of its name makes of the base name. A folder looks at one path for that,
and at none if what it is given is no base name. So whatever is typed, a line is
interpreted alike on all files that agree at one path (`Opens` says at which),
and on all files whatsoever if it opens none.

That the path stays inside the directory needs no look at the files. A base name
holds no separator and is not empty, and there is a dot behind it, so with the
extension it is a single step that is neither of the two that lead elsewhere.
-/

namespace DeviceShell

/-- The file that a line opens, by the folder and the base name of its
path. Only a load opens one, and only if what its name is to the
folder is a base name. -/
inductive Loader.Opens (folder : Lane → ScriptFolder) (suffix line : String) :
    ScriptFolder → String → Prop where
  | load {name args lane base}
      (hread : Command.classify (Text.trimmed line) = .ok (.load name args))
      (hselects : Selects suffix name lane base)
        (hbase : ScriptFolder.IsBaseName base) :
      Opens folder suffix line (folder lane) base

theorem Loader.Opens.unique {folder : Lane → ScriptFolder}
    {suffix line : String} {f f' : ScriptFolder} {base base' : String}
    (h : Opens folder suffix line f base)
    (h' : Opens folder suffix line f' base') : f = f' ∧ base = base' := by
  obtain ⟨hread, hselects, -⟩ := h
  obtain ⟨hread', hselects', -⟩ := h'
  rw [hread] at hread'
  cases hread'
  obtain ⟨rfl, rfl⟩ := hselects.unique hselects'
  exact ⟨rfl, rfl⟩

namespace ScriptFolder

theorem IsBaseName.isStep {base extension : String} (hbase : IsBaseName base)
    (hextension : '/' ∉ extension.toList) :
    Files.IsStep (base ++ "." ++ extension) := by
  obtain ⟨hne, hchars⟩ := hbase
  cases hlist : base.toList with
  | nil => exact absurd (String.toList_eq_nil_iff.mp hlist) hne
  | cons c rest =>
      obtain ⟨hdot, -⟩ := hchars c (by rw [hlist]; exact List.mem_cons_self)
      have hname : (base ++ "." ++ extension).toList =
          c :: (rest ++ '.' :: extension.toList) := by
        simp [hlist]
      constructor
      · intro hmem
        simp only [List.mem_cons, List.not_mem_nil, or_false] at hmem
        rcases hmem with heq | heq | heq
        · rw [heq] at hname
          cases hname
        · rw [heq] at hname
          exact hdot (List.cons.inj hname).1.symm
        · rw [heq] at hname
          exact hdot (List.cons.inj hname).1.symm
      · intro hslash
        rw [String.toList_append, String.toList_append, List.mem_append,
          List.mem_append] at hslash
        rcases hslash with (hslash | hslash) | hslash
        · exact (hchars _ hslash).2.1 rfl
        · exact absurd hslash (by decide)
        · exact hextension hslash

end ScriptFolder

namespace Session

/-! ## What a line asks of its loader -/

theorem load_congr {l l' : Loader} {name base : String} {lane : Lane}
    {args : List String} (hname : name ≠ "")
    (hselect : l.select name = (lane, base))
    (hselect' : l'.select name = (lane, base))
    (hcreate : l.create lane base args = l'.create lane base args)
    (s : Session) :
    l.load s name args = l'.load s name args := by
  cases hmade : l.create lane base args with
  | error failure =>
      rw [load_of_create_error hname hselect hmade,
        load_of_create_error hname hselect' (hcreate ▸ hmade)]
  | ok made =>
      rw [load_of_create_ok hname hselect hmade,
        load_of_create_ok hname hselect' (hcreate ▸ hmade)]

/-- Two loaders on which a line makes the same load, if it is one, interpret it
alike. -/
theorem interpret_congr {l l' : Loader} {s : Session} {line : String}
    (hload : ∀ name args, Command.classify (Text.trimmed line) =
      .ok (.load name args) → l.load s name args = l'.load s name args) :
    s.interpret l line = s.interpret l' line := by
  cases hread : Command.classify (Text.trimmed line) with
  | error failure =>
      obtain ⟨token, rfl⟩ := Command.ambiguous_of_classify hread
      rw [interpret_of_unreadable l hread, interpret_of_unreadable l' hread]
  | ok command =>
      rw [interpret, interpret, hread]
      cases command with
      | exit | devices | tasks | help | lifecycle | device | unrecognized => rfl
      | load name args => simp only [execute, hload name args hread]

/-! ## What is read -/

section Folders

variable {folder : Lane → ScriptFolder} {suffix line : String}

/-- Files that agree wherever the line opens one are the same to it. -/
theorem interpret_congr_of_agree {files files' : Files} (s : Session)
    (hagree : ∀ f base, Loader.Opens folder suffix line f base →
      files (f.path base) = files' (f.path base)) :
    s.interpret (.ofFolders folder suffix files) line =
      s.interpret (.ofFolders folder suffix files') line := by
  refine interpret_congr fun name args hread => ?_
  by_cases hname : name = ""
  · subst hname
    rfl
  · cases hselect : (Loader.ofFolders folder suffix files).select name with
    | mk lane base =>
        have hselects := Loader.select_eq_iff.mp hselect
        have hcreate : (folder lane).create files base args =
            (folder lane).create files' base args :=
          ScriptFolder.create_congr
            (fun hbase => hagree _ _ (.load hread hselects hbase)) args
        have hselect' :=
          Loader.select_eq_iff (l := .ofFolders folder suffix files').mpr
            hselects
        refine load_congr hname hselect hselect' ?_ s
        rw [Loader.create_ofFolders, Loader.create_ofFolders, hcreate]

end Folders

/-- A line reads one file at most. What comes of it, the session, the events and
the answer, is the same on all files if it opens none, and otherwise on all
files that agree at the path it opens; and that path leads directly inside the
directory of the folder unless the extension leads further. -/
theorem interpret_reads_one_file (s : Session) (folder : Lane → ScriptFolder)
    (suffix line : String) :
    ((∀ f base, ¬ Loader.Opens folder suffix line f base) →
      ∀ files files', s.interpret (.ofFolders folder suffix files) line =
        s.interpret (.ofFolders folder suffix files') line) ∧
    ∀ f base, Loader.Opens folder suffix line f base →
      (∀ files files', files (Files.join f.dir (base ++ "." ++ f.suffix)) =
          files' (Files.join f.dir (base ++ "." ++ f.suffix)) →
        s.interpret (.ofFolders folder suffix files) line =
          s.interpret (.ofFolders folder suffix files') line) ∧
      ('/' ∉ f.suffix.toList →
        Files.IsChild f.dir (Files.join f.dir (base ++ "." ++ f.suffix))) := by
  constructor
  · intro hnone files files'
    exact interpret_congr_of_agree s fun f base hopens =>
      absurd hopens (hnone f base)
  · intro f base hopens
    refine ⟨fun files files' hpath => ?_, fun hextension => ?_⟩
    · refine interpret_congr_of_agree s fun f' base' hopens' => ?_
      obtain ⟨rfl, rfl⟩ := hopens'.unique hopens
      exact hpath
    · obtain ⟨-, -, hbase⟩ := hopens
      exact Files.isChild_join (hbase.isStep hextension) _

/-- A load that opens a script of the secondary lane, and one that would
lead out of the directory. -/
theorem interpret_reads_one_file_lamp :
    Loader.Opens ({} : ScriptSettings).folder ".rb" " load lamp.rb"
      ⟨"scripts", "rb"⟩ "lamp" ∧
    (∀ files files', files "scripts/lamp.rb" = files' "scripts/lamp.rb" →
      demo.interpret (.standard files) " load lamp.rb" =
        demo.interpret (.standard files') " load lamp.rb") ∧
    Files.IsChild "scripts" "scripts/lamp.rb" ∧
    (∀ f base, ¬ Loader.Opens ({} : ScriptSettings).folder ".rb"
      "load ../lamp" f base) ∧
    ∀ files files', demo.interpret (.standard files) "load ../lamp" =
      demo.interpret (.standard files') "load ../lamp" := by
  have hopens : Loader.Opens ({} : ScriptSettings).folder ".rb"
      " load lamp.rb" ⟨"scripts", "rb"⟩ "lamp" := by
    have hread : Command.classify (Text.trimmed " load lamp.rb") =
        .ok (.load "lamp.rb" []) := by decide +kernel
    have hselects : Loader.Selects ".rb" "lamp.rb" .secondary "lamp" :=
      .secondary (by decide) (by decide)
    have hbase : ScriptFolder.IsBaseName "lamp" :=
      ScriptFolder.accepts_iff.mp (by decide)
    exact .load hread hselects hbase
  have hnone : ∀ f base, ¬ Loader.Opens ({} : ScriptSettings).folder ".rb"
      "load ../lamp" f base := by
    rintro f base ⟨hread, hselects, hbase⟩
    have hload : Command.classify (Text.trimmed "load ../lamp") =
        .ok (.load "../lamp" []) := by decide +kernel
    rw [hload] at hread
    cases hread
    have hselect : (Loader.standard fun _ => none).select "../lamp" =
        (.primary, "../lamp") := by decide +kernel
    obtain ⟨-, rfl⟩ := hselects.unique (Loader.select_eq_iff.mp hselect)
    exact absurd (ScriptFolder.accepts_iff.mpr hbase) (by decide)
  have hpath : Files.join "scripts" ("lamp" ++ "." ++ "rb") =
      "scripts/lamp.rb" := by
    decide +kernel
  obtain ⟨hrest, hlamp⟩ := interpret_reads_one_file demo
    ({} : ScriptSettings).folder ".rb" " load lamp.rb"
  obtain ⟨hsame, hchild⟩ := hlamp _ _ hopens
  obtain ⟨hup, -⟩ := interpret_reads_one_file demo
    ({} : ScriptSettings).folder ".rb" "load ../lamp"
  rw [hpath] at hsame hchild
  exact ⟨hopens, hsame, hchild (by decide), hnone, hup hnone⟩

end Session

namespace ScriptSettings

/-! ## The path that is asked for before the line is interpreted -/

theorem pathOf?_eq_some_iff {settings : ScriptSettings} {line path : String} :
    settings.pathOf? line = some path ↔
      ∃ f base, Loader.Opens settings.folder settings.secondarySuffix
        line f base ∧
        f.path base = path := by
  rw [pathOf?]
  constructor
  · intro hpath
    split at hpath
    · next name args hread =>
        cases hselect : (settings.loader fun _ => none).select name with
        | mk lane base =>
            rw [hselect] at hpath
            simp only [] at hpath
            split at hpath
            · next hbase =>
                rw [ScriptFolder.accepts_iff] at hbase
                cases hpath
                exact ⟨_, _,
                  .load hread (Loader.select_eq_iff.mp hselect) hbase, rfl⟩
            · cases hpath
    · cases hpath
  · rintro ⟨f, base, ⟨hread, hselects, hbase⟩, rfl⟩
    have hselect :=
      Loader.select_eq_iff (l := settings.loader fun _ => none).mpr hselects
    simp only [hread, hselect, if_pos (ScriptFolder.accepts_iff.mpr hbase)]

example : ({} : ScriptSettings).pathOf? " load  ../lamp.rb" = none := by
  decide +kernel

/-- It is enough to look at that path before the line is interpreted. -/
theorem interpret_congr_of_pathOf? {settings : ScriptSettings}
    {files files' : Files} {line : String} (s : Session)
    (hagree : ∀ path, settings.pathOf? line = some path →
      files path = files' path) :
    s.interpret (settings.loader files) line =
      s.interpret (settings.loader files') line :=
  Session.interpret_congr_of_agree s fun f base hopens =>
    hagree _ (pathOf?_eq_some_iff.mpr ⟨f, base, hopens, rfl⟩)

end ScriptSettings

end DeviceShell
