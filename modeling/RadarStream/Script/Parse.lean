import RadarStream.Script.Python

/-!
# Reading the configuration

`parse_cfg_file`, `parse_json_file` and `parse_config_file`: the commands and
parameters of `CONFIG_STRUCTURE` that a file gives, or the exception that it
raises. The first reads parameters by position, the second by name.
-/

namespace RadarStream

/-- `CONFIG_STRUCTURE`: the parameters of each command, in their order. -/
def configStructure : Dict Text (List Text) where
  entries := [
    ("channelCfg".toList,
      ["rxChCtrlBitMask".toList, "txChCtrlBitMask".toList, "miscCtrl".toList]),
    ("chirpComnCfg".toList,
      ["digOutputSampRate".toList, "digOutputBitsSel".toList, "dfeFirSel".toList,
        "numOfAdcSamples".toList, "chirpTxMimoPatSel".toList, "chirpRampEndTime".toList,
        "chirpRxHpfSel".toList]),
    ("chirpTimingCfg".toList,
      ["chirpIdleTime".toList, "chirpAdcSkipSamples".toList, "chirpTxStartTime".toList,
        "chirpRfFreqSlope".toList, "chirpRfFreqStart".toList]),
    ("frameCfg".toList,
      ["numOfChirpsInBurst".toList, "numOfChirpsAccum".toList, "burstPeriodicity".toList,
        "numOfBurstsInFrame".toList, "framePeriodicity".toList, "numOfFrames".toList]),
    ("factoryCalibCfg".toList,
      ["saveEnable".toList, "restoreEnable".toList, "rxGain".toList, "txBackoff".toList,
        "flashOffset".toList]),
    ("sensorStart".toList,
      ["frameTrigMode".toList, "chirpStartSigLbEn".toList, "frameLivMonEn".toList,
        "frameTrigTimerVal".toList])]
  nodup := by decide

/-- `data`: for each command the values of its parameters. -/
abbrev ConfigData (α : Type) := Dict Text (Dict Text (Json α))

variable {α : Type} (py : Python α)

def argumentsMessage (cmd : Text) (expected got : ℕ) : Text :=
  "incorrect number of arguments for command '".toList ++ cmd ++ "': expected ".toList ++
    digits expected ++ ", got ".toList ++ digits got

def keysMessage (cmd : Text) (expected got : List Text) : Text :=
  "incorrect parameter keys for command '".toList ++ cmd ++ "': expected ".toList ++
    py.formatList expected ++ ", got ".toList ++ py.formatList got

/-- The loop of `parse_cfg_file` on one line. -/
def parseCfgLine (data : ConfigData α) (line : Text) : Except PyError (ConfigData α) :=
  let line := strip line
  if line = [] ∨ startsWith line ['%'] then return data
  else
    match split line with
    | [] => throw .indexError
    | cmd :: vals =>
        match configStructure.get? cmd with
        | none => return data
        | some expected =>
            if vals.length ≠ expected.length then
              throw (.valueError (argumentsMessage cmd expected.length vals.length))
            else return data.set cmd (Dict.ofPairs (expected.zip (vals.map .str)))

def parseCfgFile (content : Text) : Except PyError (ConfigData α) :=
  (readLines content).foldlM parseCfgLine Dict.empty

def parseJsonParams (cmd : Text) (expected : List Text) :
    Json α → Except PyError (Dict Text (Json α))
  | .dict members => do
      let params := Dict.ofPairs members
      if (∀ p ∈ params.keys, p ∈ expected) ∧ ∀ p ∈ expected, p ∈ params.keys then
        let items ← expected.mapM fun p => do return (p, ← lookup params p)
        return Dict.ofPairs items
      else throw (.valueError (keysMessage py cmd expected params.keys))
  | _ => throw .attributeError

/-- The loop of `parse_json_file` on one command. -/
def parseJsonCommand (cfg : Json α) (data : ConfigData α) (command : Text × List Text) :
    Except PyError (ConfigData α) := do
  let (cmd, expected) := command
  if ← cfg.contains cmd then
    let params ← cfg.getItem cmd
    return data.set cmd (← parseJsonParams py cmd expected params)
  else return data

def parseJsonFile (content : Text) : Except PyError (ConfigData α) := do
  let cfg ← py.jsonLoad content
  configStructure.entries.foldlM (parseJsonCommand py cfg) Dict.empty

def parseConfigFile (files : Text → Option Text) (path : Text) :
    Except PyError (ConfigData α) := do
  if endsWith path ".cfg".toList then parseCfgFile (← openText files path)
  else if endsWith path ".json".toList then parseJsonFile py (← openText files path)
  else throw (.valueError "unsupported file format. provide .cfg or .json file.".toList)

end RadarStream
