import RadarStream.Script.Parse

/-!
# Writing the header

The text that `generate_defines_file` puts into `defines.h`. It is an f-string:
a list of lines, each a list of pieces, and a piece that is missing from the data
raises a `KeyError`.
-/

namespace RadarStream

/-- A piece of a line: text as it stands, or one of the values in braces. -/
inductive Piece where
  | lit (s : String)
  | guard
  | headerName
  | scriptName
  | baseInput
  | timestamp
  | param (cmd p : String)
deriving DecidableEq

abbrev Line := List Piece

/-- The line that names the input file and the time. -/
def fileLine : Line :=
  [.lit " * This file was auto-generated by the script '", .scriptName,
      .lit "' from the config file '", .baseInput, .lit "' on ", .timestamp]

def linesAbove : List Line := [
    [],
    [.lit "#ifndef ", .guard],
    [.lit "#define ", .guard],
    [],
    [.lit "/**"],
    [.lit " * @file ", .headerName],
    [.lit " *"],
    [.lit " * @brief Configuration macros for the radar system."],
    [.lit " *"],
    [.lit " * This file contains the sensor front-end parameters."],
    [.lit (" * For reference regarding the parameters, please refer to https://" ++
        "software-dl.ti.com/ra-processors/esd/MMWAVE-L-SDK/05_05_00_02/exports/" ++
        "api_guide_xwrL64xx/MOTION_AND_PRESENCE_DETECTION_DEMO.html")],
    [.lit " *   section \"Configuration (.cfg) File Format (CLI INTERFACE)\""],
    [.lit " *"],
    [.lit (" * The configuration settings can be generated with the \"mmWave Sensing " ++
        "Estimator\" tool (https://dev.ti.com/gallery/view/mmwave/" ++
        "mmWaveSensingEstimator/ver/2.4.0/)")],
    [.lit " *"]]

def linesBelow : List Line := [
    [.lit " */"],
    [],
    [.lit "/* frameCfg */"],
    [.lit "#define CLI_NUM_CHIRPS_PER_BURST     ", .param "frameCfg" "numOfChirpsInBurst"],
    [.lit "#define CLI_NUM_CHIRPS_ACCUM         ", .param "frameCfg" "numOfChirpsAccum"],
    [.lit "#define CLI_BURST_PERIOD             ", .param "frameCfg" "burstPeriodicity"],
    [.lit ("#define CLI_W_BURST_PERIOD           (10.0 * CLI_BURST_PERIOD)   // " ++
        "calculated value, not contained in config")],
    [.lit "#define CLI_NUM_BURSTS_PER_FRAME     ", .param "frameCfg" "numOfBurstsInFrame"],
    [.lit "#define CLI_FRAME_PERIOD             (((float)(", .param "frameCfg" "framePeriodicity",
      .lit ") * 40000000.0) / 1000.0)   // for reference: value ",
      .param "frameCfg" "framePeriodicity", .lit " is from config"],
    [.lit "#define CLI_NUM_FRAMES               ", .param "frameCfg" "numOfFrames"],
    [],
    [.lit "/* chirpTimingCfg */"],
    [.lit "#define CLI_CHIRP_IDLE_TIME          (10.0 * ",
      .param "chirpTimingCfg" "chirpIdleTime", .lit ")        // for reference: value ",
      .param "chirpTimingCfg" "chirpIdleTime", .lit " is from config"],
    [.lit "#define CLI_CHIRP_ADC_START_TIME     (", .param "chirpTimingCfg" "chirpAdcSkipSamples",
      .lit " << 10)        // for reference: value ",
      .param "chirpTimingCfg" "chirpAdcSkipSamples", .lit " is from config"],
    [.lit "#define CLI_CHIRP_TX_START_TIME      (50.0 * ",
      .param "chirpTimingCfg" "chirpTxStartTime", .lit ")        // for reference: value ",
      .param "chirpTimingCfg" "chirpTxStartTime", .lit " is from config"],
    [.lit "#define CLI_CHIRP_SLOPE              ", .param "chirpTimingCfg" "chirpRfFreqSlope"],
    [.lit "#define CLI_START_FREQ               ", .param "chirpTimingCfg" "chirpRfFreqStart"],
    [.lit ("#define CLI_CHIRP_FREQ_SLOPE         ((CLI_CHIRP_SLOPE * 1048576.0) / (3 * " ++
        "100 * 100))         // calculated value, not contained in config")],
    [.lit ("#define CLI_CHIRP_START_FREQ         ((CLI_START_FREQ * 1000.0 * 256.0) / " ++
        "(300))               // calculated value, not contained in config")],
    [],
    [.lit "/* channelCfg */"],
    [.lit "#define CLI_CHA_CFG_RX_BITMASK       ", .param "channelCfg" "rxChCtrlBitMask"],
    [.lit "#define CLI_CHA_CFG_TX_BITMASK       ", .param "channelCfg" "txChCtrlBitMask"],
    [.lit "#define CLI_CHA_CFG_MISC_CTRL        ", .param "channelCfg" "miscCtrl"],
    [],
    [.lit "/* chirpComnCfg */"],
    [.lit "#define CLI_NUM_ADC_SAMPLES          ", .param "chirpComnCfg" "numOfAdcSamples"],
    [.lit ("#define CLI_NUM_RBINS                " ++
        "(mathUtils_pow2roundup(CLI_NUM_ADC_SAMPLES) / 2)    // calculated value, " ++
        "not contained in config")],
    [.lit "#define CLI_DIG_OUT_SAMPLING_RATE    ", .param "chirpComnCfg" "digOutputSampRate"],
    [.lit ("#define CLI_ADC_SAMPLING_RATE        (100.0 / CLI_DIG_OUT_SAMPLING_RATE)   " ++
        "              // calculated value, not contained in config")],
    [.lit "#define CLI_DIG_OUT_BITS_SEL         ", .param "chirpComnCfg" "digOutputBitsSel"],
    [.lit "#define CLI_DFE_FIR_SEL              ", .param "chirpComnCfg" "dfeFirSel"],
    [.lit "#define CLI_MIMO_SEL                 ", .param "chirpComnCfg" "chirpTxMimoPatSel"],
    [.lit "#define CLI_CHIRP_RAMP_END_TIME      (10.0 * ",
      .param "chirpComnCfg" "chirpRampEndTime", .lit ")       // for reference: value ",
      .param "chirpComnCfg" "chirpRampEndTime", .lit " is from config"],
    [.lit "#define CLI_CHIRP_RX_HPF_SEL         ", .param "chirpComnCfg" "chirpRxHpfSel"],
    [],
    [.lit "/* Factory Calibration */"],
    [.lit "#define CLI_FACCALCFG_RX_GAIN        ", .param "factoryCalibCfg" "rxGain"],
    [.lit "#define CLI_FACCALCFG_TX_BACKOFF_SEL ", .param "factoryCalibCfg" "txBackoff",
      .lit " * 2             // for reference: value ", .param "factoryCalibCfg" "txBackoff",
      .lit " is from config"],
    [.lit "#define CLI_FACCALCFG_FLASH_OFFSET   ", .param "factoryCalibCfg" "flashOffset"],
    [],
    [.lit "/* sensorStart */"],
    [.lit "#define CLI_SENSOR_START_FRM_TRIG    ", .param "sensorStart" "frameTrigMode"],
    [.lit "#define CLI_SENSOR_START_LB_EN       ", .param "sensorStart" "chirpStartSigLbEn"],
    [.lit "#define CLI_SENSOR_START_MON_EN      ", .param "sensorStart" "frameLivMonEn"],
    [.lit "#define CLI_SENSOR_START_TRIG_TIMER  ", .param "sensorStart" "frameTrigTimerVal"],
    [],
    [.lit ("/* other (derived from header generated through CLI_REMOVAL from motion " ++
        "and presence detection demo) */")],
    [.lit "#define CLI_C_MISC_SETTINGS          0"],
    [.lit "#define CLI_HPF_FAST_INIT_DURATION   15U"],
    [],
    [.lit "#endif /* ", .guard, .lit " */"]]

def headerLines : List Line := linesAbove ++ fileLine :: linesBelow

/-- What `generate_defines_file` is given besides the data, and the time. -/
structure HeaderArgs where
  scriptName : Text
  baseInput : Text
  timestamp : Text

def definesHeaderName : Text := "defines.h".toList

def guardMacro : Text :=
  (definesHeaderName.takeWhile (· ≠ '.')).map Char.toUpper ++ "_H".toList

section Render

variable {α : Type} (py : Python α) (data : ConfigData α) (args : HeaderArgs)

def Piece.render : Piece → Except PyError Text
  | .lit s => .ok s.toList
  | .guard => .ok guardMacro
  | .headerName => .ok definesHeaderName
  | .scriptName => .ok args.scriptName
  | .baseInput => .ok args.baseInput
  | .timestamp => .ok args.timestamp
  | .param cmd p => do
      let params ← lookup data cmd.toList
      return py.format (← lookup params p.toList)

def Line.render (line : Line) : Except PyError Text := do
  return (← line.mapM (Piece.render py data args)).flatten ++ ['\n']

/-- The `content` of `generate_defines_file`. -/
def definesContent : Except PyError Text := do
  return (← headerLines.mapM (Line.render py data args)).flatten

end Render

/-- `parse_config_file` followed by `generate_defines_file`, up to the file written. -/
def configHeader {α : Type} (py : Python α) (files : Text → Option Text) (path : Text)
    (args : HeaderArgs) : Except PyError Text := do
  definesContent py (← parseConfigFile py files path) args

end RadarStream
