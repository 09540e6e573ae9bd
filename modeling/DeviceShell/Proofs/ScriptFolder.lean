import DeviceShell.Proofs.Command.Canonical
import DeviceShell.ScriptFolder

/-!
# What a folder makes of a name

A name goes through three hands before a file is looked at. The suffix is taken
off, which decides on the lane; the rest is checked; and the path is put
together from what has passed the check. Each of the three is said here without
the code that does it: `Selects` by how the name is made up, `IsBaseName` by
what a base name may not hold, and `HasScript` by what has to stand at the one
path that is left.

Nothing after this file opens `select`, `accepts` or `create`.
-/

namespace DeviceShell

namespace ScriptFolder

/-- A base name is not empty and holds no dot, no separator and no blank. -/
def IsBaseName (base : String) : Prop :=
  base ≠ "" ∧ ∀ c ∈ base.toList, c ≠ '.' ∧ c ≠ '/' ∧ c ≠ '\\' ∧
    Text.isBlank c = false

/-- The folder has a script of the given name and text: a file that is text
stands at the path of the name. -/
def HasScript (f : ScriptFolder) (files : Files) (base text : String) : Prop :=
  IsBaseName base ∧
    ∃ content, files (f.path base) = some (.file content) ∧
      String.fromUTF8? content = some text

theorem accepts_iff {base : String} :
    accepts base = true ↔ IsBaseName base := by
  have hempty : (!base.isEmpty) = true ↔ base ≠ "" := by
    rw [Bool.not_eq_true', ← Bool.not_eq_true, String.isEmpty_iff]
  simp only [accepts, IsBaseName, Bool.and_eq_true, hempty, List.all_eq_true,
    decide_eq_true_eq, Bool.not_eq_true']

theorem IsBaseName.isDeviceId {base : String} (h : IsBaseName base) :
    Command.IsDeviceId base := by
  obtain ⟨hne, hall⟩ := h
  refine ⟨⟨by simpa using hne, fun c hc => (hall c hc).2.2.2⟩, fun hdot => ?_⟩
  exact (hall '.' hdot).1 rfl

theorem HasScript.unique {f : ScriptFolder} {files : Files}
    {base text text' : String} (h : f.HasScript files base text)
    (h' : f.HasScript files base text') : text = text' := by
  obtain ⟨-, content, hfile, htext⟩ := h
  obtain ⟨-, content', hfile', htext'⟩ := h'
  rw [hfile] at hfile'
  cases hfile'
  exact Option.some.inj (htext.symm.trans htext')

theorem create_of_not_isBaseName {base : String} (hbase : ¬ IsBaseName base)
    (f : ScriptFolder) (files : Files) (args : List String) :
    f.create files base args = .error (.script (.invalidName base)) := by
  rw [create, if_pos]
  rw [Bool.not_eq_true', ← Bool.not_eq_true, accepts_iff]
  exact hbase

/-- A folder looks at one path, and at none for what is no base name. -/
theorem create_congr {f : ScriptFolder} {files files' : Files} {base : String}
    (h : IsBaseName base → files (f.path base) = files' (f.path base))
    (args : List String) :
    f.create files base args = f.create files' base args := by
  by_cases hbase : IsBaseName base
  · rw [create, create, h hbase]
  · rw [create_of_not_isBaseName hbase, create_of_not_isBaseName hbase]

/-- A task is made exactly of a script that the folder has. -/
theorem create_eq_ok_iff {f : ScriptFolder} {files : Files} {base : String}
    {args : List String} {t : ScriptTask} :
    f.create files base args = .ok t ↔
      ∃ text, f.HasScript files base text ∧
        t = .ofText base (f.path base) args text := by
  constructor
  · intro hcreate
    by_cases hbase : IsBaseName base
    · rw [create, if_neg (by simp [accepts_iff.mpr hbase])] at hcreate
      split at hcreate
      · next content hfile =>
          split at hcreate
          · next text htext =>
              cases hcreate
              exact ⟨text, ⟨hbase, content, hfile, htext⟩, rfl⟩
          · cases hcreate
      · cases hcreate
      · cases hcreate
    · rw [create_of_not_isBaseName hbase] at hcreate
      cases hcreate
  · rintro ⟨text, ⟨hbase, content, hfile, htext⟩, rfl⟩
    rw [create, if_neg (by simp [accepts_iff.mpr hbase]), hfile]
    simp only [htext]

end ScriptFolder

namespace Loader

/-- How a name is taken apart. One that is longer than the suffix and ends in it
belongs to the secondary lane, under what stands before the suffix; any other
belongs to the primary lane, as it is. -/
inductive Selects (suffix name : String) : Lane → String → Prop where
  | secondary {base} (hbase : base ≠ "") (hname : name = base ++ suffix) :
      Selects suffix name .secondary base
  | primary (hnot : ∀ base, base ≠ "" → name ≠ base ++ suffix) :
      Selects suffix name .primary name

theorem selects_select (l : Loader) (name : String) :
    Selects l.suffix name (l.select name).1 (l.select name).2 := by
  rw [select]
  split
  · next hsuffix =>
      obtain ⟨hends, hlonger⟩ := hsuffix
      rw [List.isSuffixOf_iff_suffix] at hends
      obtain ⟨front, hfront⟩ := hends
      have htake : name.toList.take
          (name.toList.length - l.suffix.toList.length) = front := by
        rw [← hfront, List.length_append, Nat.add_sub_cancel, List.take_left]
      simp only [htake]
      refine .secondary ?_ ?_
      · rintro hempty
        rw [← hfront, String.ofList_eq_empty_iff.mp hempty] at hlonger
        exact absurd hlonger (Nat.lt_irrefl _)
      · rw [← String.toList_inj, String.toList_append,
          String.toList_ofList, hfront]
  · next hsuffix =>
      refine .primary ?_
      rintro base hbase rfl
      refine hsuffix ⟨?_, ?_⟩
      · rw [List.isSuffixOf_iff_suffix, String.toList_append]
        exact List.suffix_append _ _
      · rw [String.toList_append, List.length_append]
        have hpositive : 0 < base.toList.length := by
          rw [List.length_pos_iff]
          simpa using hbase
        omega

theorem Selects.unique {suffix name base base' : String} {lane lane' : Lane}
    (h : Selects suffix name lane base) (h' : Selects suffix name lane' base') :
    lane = lane' ∧ base = base' := by
  cases h with
  | secondary hbase hname =>
      cases h' with
      | secondary _ hname' =>
          rw [hname, String.append_left_inj] at hname'
          exact ⟨rfl, hname'⟩
      | primary hnot => exact absurd hname (hnot _ hbase)
  | primary hnot =>
      cases h' with
      | secondary hbase hname => exact absurd hname (hnot _ hbase)
      | primary => exact ⟨rfl, rfl⟩

theorem select_eq_iff {l : Loader} {name base : String} {lane : Lane} :
    l.select name = (lane, base) ↔ Selects l.suffix name lane base := by
  constructor
  · intro hselect
    have hselects := l.selects_select name
    rw [hselect] at hselects
    exact hselects
  · intro hselects
    obtain ⟨hlane, hbase⟩ := (l.selects_select name).unique hselects
    exact Prod.ext hlane hbase

theorem create_ofFolders (folder : Lane → ScriptFolder) (suffix : String)
    (files : Files) (lane : Lane) (base : String) (args : List String) :
    (ofFolders folder suffix files).create lane base args =
      ((folder lane).create files base args).map fun task =>
        ⟨.script task, some task.path⟩ :=
  rfl

/-- What a loader on folders makes is a fresh task of a script that the
folder of the lane has. -/
theorem create_ofFolders_eq_ok_iff {folder : Lane → ScriptFolder}
    {suffix : String} {files : Files} {lane : Lane} {base : String}
    {args : List String} {made : Creation} :
    (ofFolders folder suffix files).create lane base args = .ok made ↔
      ∃ text, (folder lane).HasScript files base text ∧
        made = ⟨.script (.ofText base ((folder lane).path base) args text),
          some ((folder lane).path base)⟩ := by
  rw [create_ofFolders]
  constructor
  · intro hcreate
    cases htask : (folder lane).create files base args with
    | error failure =>
        rw [htask] at hcreate
        cases hcreate
    | ok task =>
        rw [htask] at hcreate
        cases hcreate
        obtain ⟨text, hscript, rfl⟩ := ScriptFolder.create_eq_ok_iff.mp htask
        exact ⟨text, hscript, rfl⟩
  · rintro ⟨text, hscript, rfl⟩
    rw [ScriptFolder.create_eq_ok_iff.mpr ⟨text, hscript, rfl⟩]
    rfl

end Loader

end DeviceShell
