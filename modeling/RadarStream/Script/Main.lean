import RadarStream.Library.FailStop
import RadarStream.Library.Paths
import RadarStream.Script.Formats
import RadarStream.Script.Summary

/-!
# The script as a whole

`main` reads the configuration, chooses the path of the header, writes the header
and prints the summary. It runs on a tree of files, keeps a log of what the user
sees and of what is written, and may stop with an exit or an exception.
`main_ends` lists the ways it ends.
-/

namespace RadarStream

open FailStop Paths

/-- The end of the script before its last line. -/
inductive ScriptStop where
  | exit (code : ℕ)
  | raised (e : PyException)

/-- `reported` is the message about an exception of `parse_config_file`, `prompted` a
call of `input` with what the user typed, `wrote` a file written in full. -/
inductive ScriptEvent (F : Type) where
  | printed (message : Text)
  | reported (e : PyError)
  | prompted (prompt answer : Text)
  | wrote (path : Text)
  | summarized (s : Summary F)

/-- The files, which hold values of `β`, and what happened so far. -/
structure World (β F : Type) where
  fs : FileTree β
  log : List (ScriptEvent F)

def World.start {β F : Type} (fs : FileTree β) : World β F := ⟨fs, []⟩

def World.add {β F : Type} (w : World β F) (e : ScriptEvent F) : World β F :=
  { w with log := w.log ++ [e] }

/-- What `parse_args` makes of a command line. -/
structure Args where
  inputFile : Option Text
  output : Option Text
  help : Bool

/-- One call of the script: no `args` when `parse_args` rejects the command line,
no `answer` when the input of the user ends. -/
structure Invocation where
  args : Option Args
  argv0 : Text
  answer : Option Text
  timestamp : Text

/-- What the script takes from its surroundings. A file that is no text has no
`decode`, and counts as one that cannot be opened. -/
structure Host (α F β : Type) where
  py : Python α
  num : Numbers α F
  decode : β → Option Text
  encode : Text → β

abbrev Script (β F : Type) := EStateM ScriptStop (World β F)

def usageMessage (scriptName : Text) : Text :=
  ("Description:\n" ++
    "  This script takes config files from the MMWAVE-L-SDK or TI mmWave Sensing Estimator " ++
    "and generates a ").toList ++ definesHeaderName ++
  ("\n  file from it. Please note that it only processes the commands and parameters which are " ++
    "used within the minimal\n" ++
    "  RangeProc DPU implementation in this repo and ignores all the others. \n" ++
    "  TI mmWave Sensing Estimator: " ++
    "https://dev.ti.com/gallery/view/mmwave/mmWaveSensingEstimator/ver/2.4.1/\n\n" ++
    "Usage:\n  ").toList ++ scriptName ++
  " <path to config .cfg or .json> [-o <output header file or directory>]\n\n".toList

def notFoundMessage (dirPath final : Text) : Text :=
  "directory '".toList ++ dirPath ++ "' not found, saving to working directory: ".toList ++ final

/-- The prompt that names the file to be overwritten. -/
def overwriteMessage (final : Text) : Text :=
  "file '".toList ++ final ++ "' exists. overwrite? [y/N]: ".toList

/-- `str.lower` on the letters of ASCII. Of the other letters none has `y` as its
lower case. -/
def lower (s : Text) : Text := s.map Char.toLower

section Program

variable {α F β : Type} (host : Host α F β) (inv : Invocation)

/-- The text of the file that a path leads to. -/
def Host.files (fs : FileTree β) (path : Text) : Option Text := (fs.read path).bind host.decode

def Invocation.scriptName : Text := basename inv.argv0

/-- An argument is tested with `not`: the empty text is as good as none. -/
def Args.input (args : Args) : Text := args.inputFile.getD []

def Invocation.headerArgs (args : Args) : HeaderArgs where
  scriptName := inv.scriptName
  baseInput := basename args.input
  timestamp := inv.timestamp

def defaultDir (fs : FileTree β) : Text :=
  let scriptDir := dirname (abspath fs.getcwd inv.argv0)
  let repoRoot := dirname scriptDir
  join (join repoRoot "minimal_rangeproc_impl".toList) "include".toList

/-- `desired`: the file or directory of `-o`, or the default. -/
def desiredPath (fs : FileTree β) (args : Args) : Text :=
  let output := args.output.getD []
  if output ≠ [] then
    if fs.isDir output = true then join output definesHeaderName else output
  else join (defaultDir inv fs) definesHeaderName

def fallbackPath (fs : FileTree β) : Text := join fs.getcwd definesHeaderName

def emit (e : ScriptEvent F) : Script β F PUnit := modify (World.add · e)

def parseArgs : Script β F Args :=
  match inv.args with
  | some args => pure args
  | none => throw (.exit 2)

def checkInput (args : Args) : Script β F PUnit := do
  if args.help = true ∨ args.input = [] then
    emit (.printed (usageMessage inv.scriptName))
    throw (.exit 0)
  else return

def readConfig (inputFile : Text) : Script β F (ConfigData α) := do
  match parseConfigFile host.py (host.files (← get).fs) inputFile with
  | .error e =>
      emit (.reported e)
      throw (.exit 1)
  | .ok data =>
      if data.entries = [] then
        emit (.printed "Provided file is empty.".toList)
        throw (.exit 1)
      else return data

def askOverwrite (final : Text) : Script β F PUnit :=
  match inv.answer with
  | none => throw (.raised .eofError)
  | some answer => do
      emit (.prompted (overwriteMessage final) answer)
      if lower answer ≠ ['y'] then throw (.exit 1) else return

/-- `final`, from the desired path. -/
def selectOutput (args : Args) : Script β F Text := do
  let fs := (← get).fs
  let desired := desiredPath inv fs args
  let dirPath := dirname desired
  if ¬ fs.isDir dirPath = true then
    let final := fallbackPath fs
    emit (.printed (notFoundMessage dirPath final))
    return final
  else if fs.isEntry desired = true then
    askOverwrite inv desired
    return desired
  else return desired

def writeFile (path content : Text) : Script β F PUnit := do
  match (← get).fs.write path (host.encode content) with
  | none => throw (.raised (.error .osError))
  | some fs =>
      modify fun w => { w with fs := fs }
      emit (.wrote path)

def generateDefinesFile (data : ConfigData α) (args : Args) (outputPath : Text) :
    Script β F PUnit :=
  match definesContent host.py data (inv.headerArgs args) with
  | .error e => throw (.raised (.error e))
  | .ok content => writeFile host outputPath content

/-- `main` up to the line on the header that was generated. -/
def generateHeader : Script β F (ConfigData α) := do
  let args ← parseArgs inv
  checkInput inv args
  let data ← readConfig host args.input
  let final ← selectOutput inv args
  generateDefinesFile host inv data args final
  emit (.printed ("generated header: ".toList ++ final))
  return data

def showBasicConfigInfo (data : ConfigData α) : Script β F PUnit :=
  match printBasicConfigInfo host.num data with
  | .error e => throw (.raised e)
  | .ok s => emit (.summarized s)

def main : Script β F PUnit := do
  let data ← generateHeader host inv
  showBasicConfigInfo host data

end Program

section Outcome

variable {α F β : Type}

/-- Nothing has been written. -/
structure Quiet (fs : FileTree β) (w : World β F) : Prop where
  fs_eq : w.fs = fs
  not_wrote : ∀ path, .wrote path ∉ w.log

section Conditions

variable (host : Host α F β) (inv : Invocation) (fs : FileTree β) (args : Args)

/-- Where the header goes. -/
def targetPath : Text :=
  if fs.isDir (dirname (desiredPath inv fs args)) = true then desiredPath inv fs args
  else fallbackPath fs

/-- The user agrees where the script asks. -/
def Approved : Prop :=
  fs.isDir (dirname (desiredPath inv fs args)) = true →
    fs.isEntry (desiredPath inv fs args) = true →
      ∃ answer, inv.answer = some answer ∧ lower answer = ['y']

/-- The user agreed where the script asks, and was not asked elsewhere. -/
structure Asked (log : List (ScriptEvent F)) : Prop where
  agreed : fs.isDir (dirname (desiredPath inv fs args)) = true →
    fs.isEntry (desiredPath inv fs args) = true →
      ∃ answer, lower answer = ['y'] ∧
        .prompted (overwriteMessage (desiredPath inv fs args)) answer ∈ log
  only_there : ∀ prompt answer, .prompted prompt answer ∈ log →
    fs.isDir (dirname (desiredPath inv fs args)) = true

/-- `main` gets to the write, with this text and to this place. -/
structure Reaches (data : ConfigData α) (content : Text) (loc : Location) : Prop where
  args_parsed : inv.args = some args
  no_help : args.help = false
  input_given : args.input ≠ []
  parsed : parseConfigFile host.py (host.files fs) args.input = .ok data
  not_empty : data.entries ≠ []
  approved : Approved inv fs args
  built : definesContent host.py data (inv.headerArgs args) = .ok content
  located : fs.locate (targetPath inv fs args) = some loc
  not_dir : ¬ fs.isDirAt loc = true

/-- The header has been written. -/
structure Headed (data : ConfigData α) (content : Text) (loc : Location) (w : World β F) :
    Prop where
  reaches : Reaches host inv fs args data content loc
  fs_eq : w.fs = fs.put loc (host.encode content) reaches.not_dir
  log_eq : ∃ before after, w.log = before ++ .wrote (targetPath inv fs args) :: after ∧
    (∀ path, .wrote path ∉ before) ∧ (∀ path, .wrote path ∉ after) ∧ Asked inv fs args before

end Conditions

variable {host : Host α F β} {inv : Invocation} {fs : FileTree β} {args : Args} {w : World β F}
  {data : ConfigData α} {path : Text}

theorem emit_run (e : ScriptEvent F) (w : World β F) : (emit e).run w = .ok ⟨⟩ (w.add e) := rfl

theorem get_run (w : World β F) : (get : Script β F (World β F)).run w = .ok w w := rfl

theorem Quiet.add (hw : Quiet fs w) {e : ScriptEvent F} (he : ∀ path, .wrote path ≠ e) :
    Quiet fs (w.add e) where
  fs_eq := hw.fs_eq
  not_wrote := by
    intro path hmem
    rcases List.mem_append.mp hmem with hmem | hmem
    · exact hw.not_wrote path hmem
    · exact he path (List.mem_singleton.mp hmem)

theorem parseArgs_ends : Ends (parseArgs inv) w (fun args t => inv.args = some args ∧ t = w)
    (fun _ t => inv.args = none ∧ t = w) := by
  rw [parseArgs]
  cases inv.args with
  | none => exact .throw ⟨rfl, rfl⟩
  | some args => exact .pure ⟨rfl, rfl⟩

theorem checkInput_ends (hw : Quiet fs w) : Ends (checkInput inv args) w
    (fun _ t => (args.help = false ∧ args.input ≠ []) ∧ t = w)
    (fun _ t => (args.help = true ∨ args.input = []) ∧ Quiet fs t) := by
  rw [checkInput]
  refine .ite (fun hstop => ?_) fun hgo => ?_
  · exact .bind_run (emit_run _ _) (.throw ⟨hstop, hw.add fun _ => by simp⟩)
  · obtain ⟨hhelp, hinput⟩ := not_or.mp hgo
    exact .pure ⟨⟨Bool.eq_false_iff.mpr hhelp, hinput⟩, rfl⟩

theorem readConfig_ends (hw : Quiet fs w) : Ends (readConfig host path) w
    (fun data t => (parseConfigFile host.py (host.files fs) path = .ok data ∧
      data.entries ≠ []) ∧ t = w)
    (fun _ t => (∀ data, parseConfigFile host.py (host.files fs) path = .ok data →
      data.entries = []) ∧ Quiet fs t) := by
  rw [readConfig]
  refine .bind_run (get_run _) ?_
  rw [hw.fs_eq]
  cases parseConfigFile host.py (host.files fs) path with
  | error e =>
      exact .bind_run (emit_run _ _) (.throw ⟨fun _ h => (by cases h), hw.add fun _ => by simp⟩)
  | ok data =>
      refine .ite (fun hempty => ?_) fun hdata => ?_
      · exact .bind_run (emit_run _ _)
          (.throw ⟨fun _ h => (by cases h; exact hempty), hw.add fun _ => by simp⟩)
      · exact .pure ⟨⟨rfl, hdata⟩, rfl⟩

theorem askOverwrite_ends (hw : Quiet fs w) : Ends (askOverwrite inv path) w
    (fun _ t => Quiet fs t ∧ ∃ answer, inv.answer = some answer ∧ lower answer = ['y'] ∧
      .prompted (overwriteMessage path) answer ∈ t.log)
    (fun _ t => (∀ answer, inv.answer = some answer → lower answer ≠ ['y']) ∧ Quiet fs t) := by
  rw [askOverwrite]
  cases inv.answer with
  | none => exact .throw ⟨fun _ h => (by cases h), hw⟩
  | some answer =>
      have hadd : Quiet fs (w.add (.prompted (overwriteMessage path) answer)) :=
        hw.add fun _ => by simp
      refine .bind_run (emit_run _ _) (.ite (fun hno => ?_) fun hyes => ?_)
      · exact .throw ⟨fun _ h => (by cases h; exact hno), hadd⟩
      · exact .pure ⟨hadd, answer, rfl, not_not.mp hyes,
          List.mem_append_right _ (List.mem_singleton.mpr rfl)⟩

theorem quiet_start : Quiet fs (World.start fs : World β F) := ⟨rfl, fun _ => List.not_mem_nil⟩

theorem selectOutput_ends : Ends (selectOutput inv args) (World.start fs : World β F)
    (fun final t => (Approved inv fs args ∧ final = targetPath inv fs args) ∧ Quiet fs t ∧
      Asked inv fs args t.log)
    (fun _ t => ¬ Approved inv fs args ∧ Quiet fs t) := by
  rw [selectOutput]
  refine .bind_run (get_run _) ?_
  change Ends (if ¬ fs.isDir (dirname (desiredPath inv fs args)) = true then _ else _) _ _ _
  refine .ite (fun hdir => ?_) fun hdir => ?_
  · have htarget : fallbackPath fs = targetPath inv fs args := by
      rw [targetPath, if_neg hdir]
    exact .bind_run (emit_run _ _) (.pure ⟨⟨fun h => absurd h hdir, htarget⟩,
      quiet_start.add fun _ => by simp, fun h => absurd h hdir, fun _ _ h => absurd h (by simp
        [World.add, World.start])⟩)
  · have hdir' := not_not.mp hdir
    have htarget : desiredPath inv fs args = targetPath inv fs args := by
      rw [targetPath, if_pos hdir']
    refine .ite (fun hentry => ?_) fun hentry => ?_
    · refine .bind ((askOverwrite_ends quiet_start).imp_error fun e t ht => ⟨?_, ht.2⟩) ?_
      · intro happroved
        obtain ⟨answer, hanswer, hyes⟩ := happroved hdir' hentry
        exact ht.1 answer hanswer hyes
      · rintro _ t ⟨ht, answer, hanswer, hyes, hmem⟩
        exact .pure ⟨⟨fun _ _ => ⟨answer, hanswer, hyes⟩, htarget⟩, ht,
          fun _ _ => ⟨answer, hyes, hmem⟩, fun _ _ _ => hdir'⟩
    · exact .pure ⟨⟨fun _ h => absurd h hentry, htarget⟩, quiet_start, fun _ h => absurd h hentry,
        fun _ _ _ => hdir'⟩

theorem writeFile_ends (hw : Quiet fs w) (content : Text) : Ends (writeFile host path content) w
    (fun _ t => ∃ loc, ∃ h : ¬ fs.isDirAt loc = true, fs.locate path = some loc ∧
      t.fs = fs.put loc (host.encode content) h ∧ t.log = w.log ++ [.wrote path])
    (fun _ t => (∀ loc, fs.locate path = some loc → fs.isDirAt loc = true) ∧ Quiet fs t) := by
  rw [writeFile]
  refine .bind_run (get_run _) ?_
  rw [hw.fs_eq]
  cases hloc : fs.locate path with
  | none =>
      rw [FileTree.write_of_locate_eq_none hloc]
      exact .throw ⟨fun _ h => (by cases h), hw⟩
  | some loc =>
      by_cases hdir : fs.isDirAt loc = true
      · rw [FileTree.write_of_isDirAt hloc hdir]
        exact .throw ⟨fun _ h => (by cases h; exact hdir), hw⟩
      · rw [FileTree.write_of_not_isDirAt hloc hdir]
        exact ⟨loc, hdir, rfl, rfl, rfl⟩

theorem generateDefinesFile_ends (hw : Quiet fs w) :
    Ends (generateDefinesFile host inv data args path) w
      (fun _ t => ∃ content loc, ∃ h : ¬ fs.isDirAt loc = true,
        definesContent host.py data (inv.headerArgs args) = .ok content ∧
        fs.locate path = some loc ∧ t.fs = fs.put loc (host.encode content) h ∧
        t.log = w.log ++ [.wrote path])
      (fun _ t => (∀ content loc, definesContent host.py data (inv.headerArgs args) = .ok content →
        fs.locate path = some loc → fs.isDirAt loc = true) ∧ Quiet fs t) := by
  rw [generateDefinesFile]
  cases definesContent host.py data (inv.headerArgs args) with
  | error e => exact .throw ⟨fun _ _ h => (by cases h), hw⟩
  | ok content =>
      refine ((writeFile_ends hw content).imp ?_).imp_error fun _ _ ht =>
        ⟨fun _ loc _ => ht.1 loc, ht.2⟩
      rintro _ t ⟨loc, h, hloc, hfs, hlog⟩
      exact ⟨content, loc, h, rfl, hloc, hfs, hlog⟩

/-- The header is written exactly when everything in front of the write goes well. -/
theorem generateHeader_ends : Ends (generateHeader host inv) (World.start fs)
    (fun data t => ∃ args content loc, Headed host inv fs args data content loc t)
    (fun _ t => (∀ args data content loc, ¬ Reaches host inv fs args data content loc) ∧
      Quiet fs t) := by
  rw [generateHeader]
  refine .bind (parseArgs_ends.imp_error ?_) ?_
  · rintro _ t ⟨hnone, rfl⟩
    exact ⟨fun _ _ _ _ h => absurd (hnone.symm.trans h.args_parsed) (by simp), quiet_start⟩
  rintro args _ ⟨hargs, rfl⟩
  -- the arguments of a run that gets to the write are these
  have hsame : ∀ {args' data content loc}, Reaches host inv fs args' data content loc →
      args' = args := fun h => Option.some.inj (h.args_parsed.symm.trans hargs)
  refine .bind ((checkInput_ends quiet_start).imp_error ?_) ?_
  · rintro _ t ⟨hstop, ht⟩
    refine ⟨fun _ _ _ _ h => ?_, ht⟩
    obtain rfl := hsame h
    exact hstop.elim (fun hhelp => absurd (h.no_help.symm.trans hhelp) (by decide)) h.input_given
  rintro _ _ ⟨⟨hhelp, hinput⟩, rfl⟩
  refine .bind ((readConfig_ends quiet_start).imp_error ?_) ?_
  · rintro _ t ⟨hempty, ht⟩
    refine ⟨fun _ _ _ _ h => ?_, ht⟩
    obtain rfl := hsame h
    exact h.not_empty (hempty _ h.parsed)
  rintro data _ ⟨⟨hparse, hdata⟩, rfl⟩
  refine .bind (selectOutput_ends.imp_error ?_) ?_
  · rintro _ t ⟨hrefused, ht⟩
    refine ⟨fun _ _ _ _ h => ?_, ht⟩
    obtain rfl := hsame h
    exact hrefused h.approved
  rintro _ t ⟨⟨happroved, rfl⟩, ht, hasked⟩
  refine .bind ((generateDefinesFile_ends ht).imp_error ?_) ?_
  · rintro _ u ⟨hdir, hu⟩
    refine ⟨fun _ _ content loc h => ?_, hu⟩
    obtain rfl := hsame h
    obtain rfl := Except.ok.inj (h.parsed.symm.trans hparse)
    exact h.not_dir (hdir content loc h.built h.located)
  rintro _ u ⟨content, loc, hdir, hcontent, hloc, hfs, hlog⟩
  have hlog' : (u.add (.printed ("generated header: ".toList ++ targetPath inv fs args))).log =
      t.log ++ [.wrote (targetPath inv fs args),
        .printed ("generated header: ".toList ++ targetPath inv fs args)] := by
    change u.log ++ _ = _
    rw [hlog, List.append_assoc]
    rfl
  exact .bind_run (emit_run _ _) (.pure ⟨args, content, loc,
    ⟨hargs, hhelp, hinput, hparse, hdata, happroved, hcontent, hloc, hdir⟩, hfs, t.log, _, hlog',
    ht.not_wrote, by simp, hasked⟩)

/-- The ways in which `main` ends: before the write, by the summary's exception behind
it, or normally. -/
theorem main_ends : Ends (main host inv) (World.start fs)
    (fun _ t => ∃ args data content loc, Headed host inv fs args data content loc t ∧
      Usable host.num data)
    (fun e t => ((∀ args data content loc, ¬ Reaches host inv fs args data content loc) ∧
        Quiet fs t) ∨
      ∃ args data content loc, Headed host inv fs args data content loc t ∧
        ¬ Usable host.num data ∧ ∀ code, e ≠ .exit code) := by
  rw [main]
  refine .bind (generateHeader_ends.imp_error fun _ _ h => .inl h) ?_
  rintro data t ⟨args, content, loc, ht⟩
  rw [showBasicConfigInfo]
  cases hs : printBasicConfigInfo host.num data with
  | error e =>
      refine .throw (.inr ⟨args, data, content, loc, ht, fun husable => ?_, fun _ h => by cases h⟩)
      obtain ⟨s, hok⟩ := exists_printBasicConfigInfo_iff.mpr husable
      exact absurd (hs.symm.trans hok) (by simp)
  | ok s =>
      obtain ⟨hreach, hfs, before, after, hlog, hbefore, hafter, hasked⟩ := ht
      have hlog' : (t.add (.summarized s)).log =
          before ++ .wrote (targetPath inv fs args) :: (after ++ [.summarized s]) := by
        change t.log ++ _ = _
        rw [hlog, List.append_assoc, List.cons_append]
      have hafter' : ∀ path, .wrote path ∉ after ++ [.summarized s] := by
        intro path hmem
        rcases List.mem_append.mp hmem with hmem | hmem
        · exact hafter path hmem
        · cases List.mem_singleton.mp hmem
      exact ⟨args, data, content, loc, ⟨hreach, hfs, before, _, hlog', hbefore, hafter', hasked⟩,
        exists_printBasicConfigInfo_iff.mp ⟨s, hs⟩⟩

end Outcome

section Run

variable {α F β : Type}

def runMain (host : Host α F β) (inv : Invocation) (fs : FileTree β) :
    EStateM.Result ScriptStop (World β F) PUnit :=
  (main host inv).run (World.start fs)

def endWorld : EStateM.Result ScriptStop (World β F) PUnit → World β F
  | .ok _ t => t
  | .error _ t => t

variable {host : Host α F β} {inv : Invocation} {fs : FileTree β} {args args' : Args}
  {data data' : ConfigData α} {content content' : Text} {loc loc' : Location} {w : World β F}

theorem Reaches.unique (h : Reaches host inv fs args data content loc)
    (h' : Reaches host inv fs args' data' content' loc') :
    args' = args ∧ data' = data ∧ content' = content ∧ loc' = loc := by
  obtain rfl : args' = args := Option.some.inj (h'.args_parsed.symm.trans h.args_parsed)
  obtain rfl : data' = data := Except.ok.inj (h'.parsed.symm.trans h.parsed)
  obtain rfl : content' = content := Except.ok.inj (h'.built.symm.trans h.built)
  exact ⟨rfl, rfl, rfl, Option.some.inj (h'.located.symm.trans h.located)⟩

/-- A run gets to the write, or leaves every file as it is. -/
theorem reaches_or_quiet (host : Host α F β) (inv : Invocation) (fs : FileTree β) :
    (∃ args data content loc, Reaches host inv fs args data content loc) ∨
      Quiet fs (endWorld (runMain host inv fs)) := by
  have hends : Ends (main host inv) (World.start fs) _ _ := main_ends
  cases hrun : runMain host inv fs with
  | ok _ t =>
      obtain ⟨args, data, content, loc, ht, _⟩ := hends.of_ok hrun
      exact .inl ⟨args, data, content, loc, ht.reaches⟩
  | error e t =>
      rcases hends.of_error hrun with ⟨_, ht⟩ | ⟨args, data, content, loc, ht, _⟩
      · exact .inr ht
      · exact .inl ⟨args, data, content, loc, ht.reaches⟩

/-- A run that gets to the write writes the header, and then ends normally exactly when
the summary can be printed. -/
theorem Reaches.end_run (h : Reaches host inv fs args data content loc) :
    (Usable host.num data ∧ ∃ t, runMain host inv fs = .ok ⟨⟩ t ∧
        Headed host inv fs args data content loc t) ∨
      ¬ Usable host.num data ∧ ∃ e t, runMain host inv fs = .error e t ∧
        (∀ code, e ≠ .exit code) ∧ Headed host inv fs args data content loc t := by
  have hends : Ends (main host inv) (World.start fs) _ _ := main_ends
  cases hrun : runMain host inv fs with
  | ok _ t =>
      obtain ⟨_, _, _, _, ht, husable⟩ := hends.of_ok hrun
      obtain ⟨rfl, rfl, rfl, rfl⟩ := h.unique ht.reaches
      exact .inl ⟨husable, t, rfl, ht⟩
  | error e t =>
      rcases hends.of_error hrun with ⟨hnot, _⟩ | ⟨_, _, _, _, ht, husable, hcode⟩
      · exact absurd h (hnot _ _ _ _)
      · obtain ⟨rfl, rfl, rfl, rfl⟩ := h.unique ht.reaches
        exact .inr ⟨husable, e, t, rfl, hcode, ht⟩

theorem Reaches.headed (h : Reaches host inv fs args data content loc) :
    Headed host inv fs args data content loc (endWorld (runMain host inv fs)) := by
  rcases h.end_run with ⟨_, t, hrun, ht⟩ | ⟨_, e, t, hrun, _, ht⟩
  · rwa [hrun]
  · rwa [hrun]

theorem Headed.wrote (h : Headed host inv fs args data content loc w) :
    .wrote (targetPath inv fs args) ∈ w.log := by
  obtain ⟨before, after, hlog, -⟩ := h.log_eq
  rw [hlog]
  exact List.mem_append_right _ List.mem_cons_self

/-- A `.cfg` file that gives a configuration gets `main` to the write. -/
theorem exists_reaches_of_cfgGives {conf : Configuration} {text : Text} (hcfg : CfgGives conf text)
    (hargs : inv.args = some args) (hhelp : args.help = false)
    (hpath : endsWith args.input ".cfg".toList = true)
    (hfile : host.files fs args.input = some text) (happroved : Approved inv fs args)
    (hloc : fs.locate (targetPath inv fs args) = some loc) (hdir : ¬ fs.isDirAt loc = true) :
    ∃ data content, Reaches host inv fs args data content loc ∧
      ∀ command ∈ configStructure.entries,
        data.get? command.1 = some (cfgParams conf command) := by
  obtain ⟨data, hrun, hparams⟩ := parseCfgFile_cfgParams (α := α) hcfg
  have hinput : args.input ≠ [] := by
    intro hnil
    rw [hnil] at hpath
    exact absurd hpath (by decide)
  have hparsed : parseConfigFile host.py (host.files fs) args.input = .ok data :=
    (parseConfigFile_cfg hpath hfile).trans hrun
  have hnonempty : data.entries ≠ [] := by
    intro hnil
    have hfirst := hparams _ (List.mem_cons_self (l := configStructure.entries.tail))
    rw [Dict.get?, hnil] at hfirst
    exact absurd hfirst (by simp [Dict.getEntries])
  have hbuilt : definesContent host.py data (inv.headerArgs args) = .ok _ :=
    definesContent_of_holds fun command hmem =>
      holdsCommand_of_cfgParams host.py hmem (hparams command hmem)
  exact ⟨data, _, ⟨hargs, hhelp, hinput, hparsed, hnonempty, happroved, hbuilt, hloc, hdir⟩,
    hparams⟩

/-- A tree with its files in the root, where the script is called. -/
def rootTree (files : Text → Option β) : FileTree β where
  isDirAt l := l.isEmpty
  fileAt l := match l with
    | [name] => files name
    | _ => none
  cwd := []
  root := rfl
  parent l name h := absurd h (by simp)
  apart l h := by
    rw [List.isEmpty_iff.mp h]
  cwd_isDir := rfl

def sampleHost : Host ℕ ℚ Text where
  py := lengthPython
  num := decimalNumbers
  decode := some
  encode text := text

end Run

end RadarStream
