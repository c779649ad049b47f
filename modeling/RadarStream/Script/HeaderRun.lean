import RadarStream.Script.HeaderMeaning
import RadarStream.Script.Overwrite

/-!
# A run and the meaning of its header

What `main` writes for an input file of either format is the header of the
configuration that the file gives, so its macros have the values of that
configuration.
-/

namespace RadarStream

open CText Paths

variable {α F β : Type}

/-- The input file gives the configuration, in one of the two formats. -/
def InputGives (host : Host α F β) (fs : FileTree β) (args : Args) (conf : Configuration) : Prop :=
  ∃ text, host.files fs args.input = some text ∧
    (endsWith args.input ".cfg".toList = true ∧ CfgGives conf text ∨
      endsWith args.input ".json".toList = true ∧ JsonGives host.py conf text)

section Run

variable {host : Host α F β} {inv : Invocation} {fs : FileTree β} {args : Args}
  {conf : Configuration} {data : ConfigData α} {content : Text} {loc : Location} {d : Defines}

theorem InputGives.input_ne_nil (h : InputGives host fs args conf) : args.input ≠ [] := by
  intro hnil
  obtain ⟨text, -, ⟨hpath, -⟩ | ⟨hpath, -⟩⟩ := h
  · rw [hnil] at hpath
    exact absurd hpath (by decide)
  · rw [hnil] at hpath
    exact absurd hpath (by decide)

/-- Both formats make data that hold every command. -/
theorem InputGives.exists_parsed (h : InputGives host fs args conf) :
    ∃ data, parseConfigFile host.py (host.files fs) args.input = .ok data ∧
      ∀ command ∈ configStructure.entries, HoldsCommand host.py conf data command := by
  obtain ⟨text, hfile, ⟨hpath, hcfg⟩ | ⟨hpath, hjson⟩⟩ := h
  · obtain ⟨data, hrun, hparams⟩ := parseCfgFile_cfgParams (α := α) hcfg
    exact ⟨data, (parseConfigFile_cfg hpath hfile).trans hrun,
      fun command hmem => holdsCommand_of_cfgParams host.py hmem (hparams command hmem)⟩
  · obtain ⟨data, hrun, hdata⟩ := parseJsonFile_holds hjson
    exact ⟨data, (parseConfigFile_json hpath hfile).trans hrun, hdata⟩

theorem entries_ne_nil_of_holds
    (h : ∀ command ∈ configStructure.entries, HoldsCommand host.py conf data command) :
    data.entries ≠ [] := by
  intro hnil
  obtain ⟨params, hparams, -⟩ :=
    h _ (List.mem_cons_self (l := configStructure.entries.tail))
  rw [Dict.get?, hnil] at hparams
  exact absurd hparams (by simp [Dict.getEntries])

theorem quotable_headerArgs (inv : Invocation) (args : Args) (htime : '/' ∉ inv.timestamp) :
    (inv.headerArgs args).Quotable :=
  ⟨slash_not_mem_basename _, slash_not_mem_basename _, htime⟩

theorem Reaches.headerMeans (p : Platform) (h : Reaches host inv fs args data content loc)
    (hinput : InputGives host fs args conf) (hw : conf.Writes d) (hd : d.InRange)
    (htime : '/' ∉ inv.timestamp) : HeaderMeans p d content := by
  obtain ⟨data', hparsed, hholds⟩ := hinput.exists_parsed
  obtain rfl : data = data' := Except.ok.inj (h.parsed.symm.trans hparsed)
  obtain rfl : content = _ := Except.ok.inj (h.built.symm.trans (definesContent_of_holds hholds))
  exact headerMeans_of_writes hw hd (quotable_headerArgs inv args htime)

/-- A run whose input gives a configuration writes a header exactly when nothing about
the target keeps it from it. -/
theorem wrote_iff (hargs : inv.args = some args) (hinput : InputGives host fs args conf) :
    (∃ path, .wrote path ∈ (endWorld (runMain host inv fs)).log) ↔
      args.help = false ∧ Approved inv fs args ∧
        ∃ loc, fs.locate (targetPath inv fs args) = some loc ∧ ¬ fs.isDirAt loc = true := by
  constructor
  · rintro ⟨path, hpath⟩
    rcases reaches_or_quiet host inv fs with ⟨args', data, content, loc, h⟩ | hquiet
    · obtain rfl : args' = args := Option.some.inj (h.args_parsed.symm.trans hargs)
      exact ⟨h.no_help, h.approved, loc, h.located, h.not_dir⟩
    · exact absurd hpath (hquiet.not_wrote path)
  · rintro ⟨hhelp, happroved, loc, hloc, hdir⟩
    obtain ⟨data, hparsed, hholds⟩ := hinput.exists_parsed
    have hreach : Reaches host inv fs args data _ loc :=
      ⟨hargs, hhelp, hinput.input_ne_nil, hparsed, entries_ne_nil_of_holds hholds, happroved,
        definesContent_of_holds hholds, hloc, hdir⟩
    exact ⟨_, hreach.headed.wrote⟩

/-- What a run writes is a header that means `d`. -/
theorem headerMeans_of_wrote (p : Platform) (hargs : inv.args = some args)
    (hinput : InputGives host fs args conf) (hw : conf.Writes d) (hd : d.InRange)
    (htime : '/' ∉ inv.timestamp) {path : Text}
    (hpath : .wrote path ∈ (endWorld (runMain host inv fs)).log) :
    ∃ loc text, fs.locate path = some loc ∧
      (endWorld (runMain host inv fs)).fs.fileAt loc = some (host.encode text) ∧
      HeaderMeans p d text := by
  rcases reaches_or_quiet host inv fs with ⟨args', data, content, loc, h⟩ | hquiet
  · obtain rfl : args' = args := Option.some.inj (h.args_parsed.symm.trans hargs)
    obtain rfl := h.headed.eq_target hpath
    refine ⟨loc, content, h.located, ?_, h.headerMeans p hinput hw hd htime⟩
    rw [h.headed.fs_eq]
    exact FileTree.put_fileAt _ _
  · exact absurd hpath (hquiet.not_wrote path)

end Run

/-- When the input file gives the numbers of `d`, every file that a run writes is a
header that means `d`; and the run writes one unless it prints the help, is not
allowed to overwrite, or has no place to write to. -/
theorem main_header_means (host : Host α F β) (inv : Invocation) (fs : FileTree β) (p : Platform)
    {args : Args} {conf : Configuration} {d : Defines} (hargs : inv.args = some args)
    (hinput : InputGives host fs args conf) (hw : conf.Writes d) (hd : d.InRange)
    (htime : '/' ∉ inv.timestamp) :
    (∀ path, .wrote path ∈ (endWorld (runMain host inv fs)).log →
      ∃ loc text, fs.locate path = some loc ∧
        (endWorld (runMain host inv fs)).fs.fileAt loc = some (host.encode text) ∧
        HeaderMeans p d text) ∧
    ((∃ path, .wrote path ∈ (endWorld (runMain host inv fs)).log) ↔
      args.help = false ∧ Approved inv fs args ∧
        ∃ loc, fs.locate (targetPath inv fs args) = some loc ∧ ¬ fs.isDirAt loc = true) :=
  ⟨fun _ hpath => headerMeans_of_wrote p hargs hinput hw hd htime hpath, wrote_iff hargs hinput⟩

/-- `default.cfg` -/
def defaultCfg : Text :=
  "channelCfg 7 3 0\n".toList ++ "chirpComnCfg 20 0 0 128 4 30 0\n".toList ++
    "chirpTimingCfg 6 28 0 90 60\n".toList ++ "frameCfg 2 0 403 64 100 0\n".toList ++
    "factoryCalibCfg 0 0 40 0 0x1ff000\n".toList ++ "sensorStart 0 0 0 0\n".toList

def defaultConfiguration : Configuration := fun cmd p =>
  match (readLines defaultCfg).find? fun line => decide ((split line).head? = some cmd) with
  | some line => ((((configStructure.get? cmd).getD []).zip (split line).tail).lookup p).getD []
  | none => []

theorem cfgGives_defaultCfg : CfgGives defaultConfiguration defaultCfg := by
  constructor
  · decide +kernel
  · decide +kernel

theorem writes_defaultConfiguration : defaultConfiguration.Writes defaultDefines := by
  decide +kernel

def defaultFiles : Text → Option Text := fun name =>
  if name = "default.cfg".toList then some defaultCfg else none

def defaultArgs : Args := ⟨some "default.cfg".toList, some "./defines.h".toList, false⟩

/-- `chirp_config_to_defines.py default.cfg -o ./defines.h` -/
def defaultCall : Invocation where
  args := some defaultArgs
  argv0 := "chirp_config_to_defines.py".toList
  answer := none
  timestamp := "2025-04-26 13:46:46".toList

theorem inputGives_default :
    InputGives sampleHost (rootTree defaultFiles) defaultArgs defaultConfiguration :=
  ⟨defaultCfg, rfl, .inl ⟨by decide, cfgGives_defaultCfg⟩⟩

theorem inRange_defaultDefines : defaultDefines.InRange := ⟨by decide, by decide⟩

/-- There is no header yet. -/
theorem default_nothing_in_the_way :
    defaultArgs.help = false ∧ Approved defaultCall (rootTree defaultFiles) defaultArgs ∧
      ∃ loc, (rootTree defaultFiles).locate
          (targetPath defaultCall (rootTree defaultFiles) defaultArgs) = some loc ∧
        ¬ (rootTree defaultFiles).isDirAt loc = true := by
  have hnew : ¬ (rootTree defaultFiles).isEntry (desiredPath defaultCall (rootTree defaultFiles)
      defaultArgs) = true := by decide
  have hloc : (rootTree defaultFiles).locate
      (targetPath defaultCall (rootTree defaultFiles) defaultArgs) =
        some ["defines.h".toList] := by decide
  exact ⟨rfl, fun _ h => absurd h hnew, _, hloc, by decide⟩

theorem wrote_default :
    ∃ path, .wrote path ∈ (endWorld (runMain sampleHost defaultCall (rootTree defaultFiles))).log :=
  (wrote_iff rfl inputGives_default).mpr default_nothing_in_the_way

/-- The header made from `default.cfg` means `defaultDefines`. -/
theorem main_header_means_default : ∃ loc text,
    (endWorld (runMain sampleHost defaultCall (rootTree defaultFiles))).fs.fileAt loc =
      some text ∧ HeaderMeans samplePlatform defaultDefines text := by
  obtain ⟨hmeans, hwrote⟩ := main_header_means sampleHost defaultCall (rootTree defaultFiles)
    samplePlatform rfl inputGives_default writes_defaultConfiguration inRange_defaultDefines
    (by decide)
  obtain ⟨path, hpath⟩ := hwrote.mpr default_nothing_in_the_way
  obtain ⟨loc, text, -, hfile, htext⟩ := hmeans path hpath
  exact ⟨loc, text, hfile, htext⟩

end RadarStream
