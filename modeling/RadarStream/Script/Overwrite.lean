import RadarStream.Script.Main

/-!
# Where the header goes

`main` asks before it overwrites a file only when the directory part of the desired
path is a directory. A bare file name has the empty text as its directory part, so
with `-o name` the header goes to `defines.h` in the working directory, as it does
when a directory is missing, and nobody is asked.
-/

namespace RadarStream

open Paths

variable {α F β : Type}

/-- Existing files are overwritten with the user's consent only, and a file named by
`-o` is the one that is written. -/
structure NoSilentOverwrite (host : Host α F β) (inv : Invocation) (fs : FileTree β) : Prop where
  asked : ∀ before path after,
    (endWorld (runMain host inv fs)).log = before ++ .wrote path :: after →
      fs.isEntry path = true → ∃ answer, (answer = ['y'] ∨ answer = ['Y']) ∧
        .prompted (overwriteMessage path) answer ∈ before
  target : ∀ args output loc, inv.args = some args → args.output = some output →
    fs.locate output = some loc → ¬ fs.isDirAt loc = true →
      ∀ path, .wrote path ∈ (endWorld (runMain host inv fs)).log → fs.locate path = some loc

/-- `-o` is a name without a directory part, other than that of the header. -/
def BareOutput (fs : FileTree β) (args : Args) : Prop :=
  ∃ output, args.output = some output ∧ output ≠ [] ∧ '/' ∉ output ∧
    ¬ fs.isDir output = true ∧ output ≠ definesHeaderName

/-- Where the header is put in the working directory. -/
def fallbackLocation (fs : FileTree β) : Location := fs.cwd ++ [definesHeaderName]

/-- If `main` gets to the write, the desired path is in an existing directory, or no
header is in the working directory and none but it is asked for. -/
def SafeTarget (host : Host α F β) (inv : Invocation) (fs : FileTree β) : Prop :=
  ∀ args data content loc, Reaches host inv fs args data content loc →
    fs.isDir (dirname (desiredPath inv fs args)) = true ∨
      fs.fileAt (fallbackLocation fs) = none ∧ ¬ BareOutput fs args

theorem toLower_eq_y {c : Char} (h : c.toLower = 'y') : c = 'y' ∨ c = 'Y' := by
  by_cases hupper : c.val ≥ 'A'.val ∧ c.val ≤ 'Z'.val
  · refine .inr (Char.ext ?_)
    have hval : c.toLower.val = c.val + ('a'.val - 'A'.val) := congrArg Char.val (dif_pos hupper)
    rw [← UInt32.add_left_inj ('a'.val - 'A'.val), ← hval, h]
    decide
  · have hsame : c.toLower = c := dif_neg hupper
    exact .inl (hsame.symm.trans h)

theorem eq_y_of_lower {s : Text} (h : lower s = ['y']) : s = ['y'] ∨ s = ['Y'] := by
  obtain ⟨c, rfl, hc⟩ := List.map_eq_singleton_iff.mp h
  rcases toLower_eq_y hc with rfl | rfl
  · exact .inl rfl
  · exact .inr rfl

/-- An element that occurs once splits a list in one way. -/
theorem split_unique {γ : Type} {p : γ → Prop} {before before' after after' : List γ} {x y : γ}
    (h : before ++ x :: after = before' ++ y :: after') (hx : p x) (hbefore : ∀ z ∈ before', ¬ p z)
    (hafter : ∀ z ∈ after', ¬ p z) : before = before' ∧ x = y := by
  rcases List.append_eq_append_iff.mp h with ⟨l, hl, hrest⟩ | ⟨l, hl, hrest⟩
  · cases l with
    | nil => exact ⟨by simpa using hl.symm, (List.cons.inj hrest).1⟩
    | cons z l =>
        obtain ⟨rfl, -⟩ := List.cons.inj hrest
        exact absurd hx (hbefore x (by simp [hl]))
  · cases l with
    | nil => exact ⟨by simpa using hl, (List.cons.inj hrest).1.symm⟩
    | cons z l =>
        obtain ⟨-, rfl⟩ := List.cons.inj hrest
        exact absurd hx (hafter x (by simp))

section Targets

variable {host : Host α F β} {inv : Invocation} {fs : FileTree β} {args : Args}
  {data : ConfigData α} {content path output : Text} {loc loc' : Location} {w : World β F}

theorem proper_definesHeaderName : Proper definesHeaderName := by
  constructor <;> decide

theorem locate_fallbackPath : fs.locate (fallbackPath fs) = some (fallbackLocation fs) :=
  FileTree.locate_join_getcwd fs proper_definesHeaderName

theorem Headed.eq_target (h : Headed host inv fs args data content loc w)
    (hpath : .wrote path ∈ w.log) : path = targetPath inv fs args := by
  obtain ⟨before, after, hlog, hbefore, hafter, -⟩ := h.log_eq
  rw [hlog, List.mem_append, List.mem_cons] at hpath
  rcases hpath with hpath | hpath | hpath
  · exact absurd hpath (hbefore path)
  · cases hpath
    rfl
  · exact absurd hpath (hafter path)

theorem Headed.asked_before (h : Headed host inv fs args data content loc w)
    {before after : List (ScriptEvent F)} (hlog : w.log = before ++ .wrote path :: after) :
    Asked inv fs args before ∧ path = targetPath inv fs args := by
  obtain ⟨before', after', hlog', hbefore, hafter, hasked⟩ := h.log_eq
  have hsplit := split_unique (p := fun e : ScriptEvent F => ∃ path, e = .wrote path)
    (hlog.symm.trans hlog') ⟨path, rfl⟩ (fun _ hz ⟨path, hpath⟩ => hbefore path (hpath ▸ hz))
    fun _ hz ⟨path, hpath⟩ => hafter path (hpath ▸ hz)
  obtain ⟨rfl, hpath⟩ := hsplit
  exact ⟨hasked, ScriptEvent.wrote.inj hpath⟩

/-- A path to a file is the desired one. -/
theorem desiredPath_of_locate (houtput : args.output = some output)
    (hloc : fs.locate output = some loc) (hdir : ¬ fs.isDirAt loc = true) :
    desiredPath inv fs args = output := by
  rw [← FileTree.isDir_eq_of_locate hloc] at hdir
  rw [desiredPath, houtput]
  exact (if_pos (FileTree.ne_nil_of_locate hloc)).trans (if_neg hdir)

theorem target_of_isDir (hdir : fs.isDir (dirname (desiredPath inv fs args)) = true) :
    targetPath inv fs args = desiredPath inv fs args := if_pos hdir

theorem target_of_not_isDir (hdir : ¬ fs.isDir (dirname (desiredPath inv fs args)) = true) :
    targetPath inv fs args = fallbackPath fs := if_neg hdir

/-- Outside an existing directory the header goes to the working directory. -/
theorem Reaches.loc_eq (h : Reaches host inv fs args data content loc)
    (hdir : ¬ fs.isDir (dirname (desiredPath inv fs args)) = true) : loc = fallbackLocation fs := by
  have hlocated := h.located
  rw [target_of_not_isDir hdir, locate_fallbackPath] at hlocated
  exact (Option.some.inj hlocated).symm

theorem asked_of_safeTarget (hsafe : SafeTarget host inv fs)
    (h : Reaches host inv fs args data content loc) {log : List (ScriptEvent F)}
    (hasked : Asked inv fs args log) (hentry : fs.isEntry (targetPath inv fs args) = true) :
    ∃ answer, (answer = ['y'] ∨ answer = ['Y']) ∧
      .prompted (overwriteMessage (targetPath inv fs args)) answer ∈ log := by
  by_cases hdir : fs.isDir (dirname (desiredPath inv fs args)) = true
  · rw [target_of_isDir hdir] at hentry ⊢
    obtain ⟨answer, hyes, hmem⟩ := hasked.agreed hdir hentry
    exact ⟨answer, eq_y_of_lower hyes, hmem⟩
  · obtain ⟨hnone, -⟩ := (hsafe _ _ _ _ h).resolve_left hdir
    rw [FileTree.isEntry_of_locate h.located, h.loc_eq hdir, hnone] at hentry
    have hfile := h.not_dir
    rw [h.loc_eq hdir] at hfile
    simp [hfile] at hentry

theorem located_of_safeTarget (hsafe : SafeTarget host inv fs)
    (h : Reaches host inv fs args data content loc) (houtput : args.output = some output)
    (hloc : fs.locate output = some loc') (hfile : ¬ fs.isDirAt loc' = true) :
    fs.locate (targetPath inv fs args) = some loc' := by
  have hdesired : desiredPath inv fs args = output := desiredPath_of_locate houtput hloc hfile
  by_cases hdir : fs.isDir (dirname (desiredPath inv fs args)) = true
  · rw [target_of_isDir hdir, hdesired, hloc]
  · obtain ⟨-, hbare⟩ := (hsafe _ _ _ _ h).resolve_left hdir
    rw [hdesired] at hdir
    -- a path with a slash would have its directory
    have hslash : '/' ∉ output := fun hslash => hdir (FileTree.isDir_dirname hloc hslash)
    have hne := FileTree.ne_nil_of_locate hloc
    rw [← FileTree.isDir_eq_of_locate hloc] at hfile
    have hname : output = definesHeaderName := by
      by_contra hother
      exact hbare ⟨output, houtput, hne, hslash, hfile, hother⟩
    have hcwd := FileTree.locate_of_not_isDir hne hslash hfile
    rw [← hdesired] at hdir
    rw [target_of_not_isDir hdir, locate_fallbackPath, fallbackLocation, ← hloc, hcwd, hname]

theorem noSilentOverwrite_of_safeTarget (hsafe : SafeTarget host inv fs) :
    NoSilentOverwrite host inv fs := by
  rcases reaches_or_quiet host inv fs with ⟨args, data, content, loc, h⟩ | hquiet
  · constructor
    · intro before path after hlog hentry
      obtain ⟨hasked, rfl⟩ := h.headed.asked_before hlog
      exact asked_of_safeTarget hsafe h hasked hentry
    · intro args' output loc' hargs houtput hloc hfile path hpath
      obtain rfl := Option.some.inj (hargs.symm.trans h.args_parsed)
      rw [h.headed.eq_target hpath]
      exact located_of_safeTarget hsafe h houtput hloc hfile
  · constructor
    · intro before path after hlog
      exact absurd (hlog ▸ List.mem_append_right _ List.mem_cons_self) (hquiet.not_wrote path)
    · intro _ _ _ _ _ _ _ path hpath
      exact absurd hpath (hquiet.not_wrote path)

theorem safeTarget_of_noSilentOverwrite (hno : NoSilentOverwrite host inv fs) :
    SafeTarget host inv fs := by
  intro args data content loc h
  refine or_iff_not_imp_left.mpr fun hdir => ?_
  have htarget := target_of_not_isDir hdir
  constructor
  · by_contra hfile
    obtain ⟨before, after, hlog, -, -, hasked⟩ := h.headed.log_eq
    have hentry : fs.isEntry (targetPath inv fs args) = true := by
      rw [FileTree.isEntry_of_locate h.located, h.loc_eq hdir, Option.isSome_iff_ne_none.mpr hfile,
        Bool.or_true]
    obtain ⟨answer, -, hmem⟩ := hno.asked before _ after hlog hentry
    exact hdir (hasked.only_there _ _ hmem)
  · rintro ⟨output, houtput, hne, hslash, hnotDir, hother⟩
    have hcwd := FileTree.locate_of_not_isDir hne hslash hnotDir
    have hfile : ¬ fs.isDirAt (fs.cwd ++ [output]) = true :=
      fun hcontra => hnotDir (FileTree.isDir_of_locate hcwd hcontra)
    have hlocated := hno.target args output _ h.args_parsed houtput hcwd hfile _ h.headed.wrote
    rw [htarget, locate_fallbackPath, fallbackLocation] at hlocated
    exact hother (List.singleton_injective (List.append_cancel_left
      (Option.some.inj hlocated))).symm

end Targets

/-- In every world the script keeps the user's files exactly when its target is safe. -/
theorem noSilentOverwrite_iff (host : Host α F β) (inv : Invocation) (fs : FileTree β) :
    NoSilentOverwrite host inv fs ↔ SafeTarget host inv fs :=
  ⟨safeTarget_of_noSilentOverwrite, noSilentOverwrite_of_safeTarget⟩

/-- `a.cfg` and a header, in the directory where the script is called. -/
def headerFiles : Text → Option Text := fun name =>
  if name = "a.cfg".toList then some lengthCfg
  else if name = "defines.h".toList then some "old".toList
  else none

def bareArgs : Args := ⟨some "a.cfg".toList, some "radar.h".toList, false⟩

/-- `chirp_config_to_defines.py a.cfg -o radar.h` -/
def bareCall : Invocation where
  args := some bareArgs
  argv0 := "chirp_config_to_defines.py".toList
  answer := none
  timestamp := []

/-- `-o radar.h` overwrites `defines.h` without a question. -/
theorem not_noSilentOverwrite_bareCall :
    ¬ NoSilentOverwrite sampleHost bareCall (rootTree headerFiles) := by
  intro hno
  have hargs : bareCall.args = some bareArgs := rfl
  have hfile : sampleHost.files (rootTree headerFiles) bareArgs.input = some lengthCfg := rfl
  have hdir : ¬ (rootTree headerFiles).isDir (dirname (desiredPath bareCall (rootTree headerFiles)
      bareArgs)) = true := by decide
  have hloc : (rootTree headerFiles).locate (targetPath bareCall (rootTree headerFiles) bareArgs) =
      some ["defines.h".toList] := by decide
  obtain ⟨data, content, h, -⟩ := exists_reaches_of_cfgGives cfgGives_lengthCfg hargs rfl
    (by decide) hfile (fun h => absurd h hdir) hloc (by decide)
  obtain ⟨hnone, -⟩ := (safeTarget_of_noSilentOverwrite hno _ _ _ _ h).resolve_left hdir
  exact absurd hnone (by decide)

end RadarStream
