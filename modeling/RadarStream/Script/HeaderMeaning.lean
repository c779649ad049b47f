import RadarStream.Library.CMacros
import RadarStream.Firmware.RangeProc
import RadarStream.Script.Main

/-!
# What the header means

The header that the script writes, read as a C compiler reads it: `Defines.macros` is
the value of each macro that the firmware's `Defines` stand for. When the tokens of the
configuration are written as the numbers of a `Defines`, every macro of the header has
that value (`headerMeans_of_writes`).

The header is lexed and read once, as a template with a hole for each parameter.

Decimals are read exactly, as in `Defines`: the rounding of `float` and `double` that a
compiler adds is left out. The integer macros that calculate, the skip samples and the
back-off, must not overflow (`Defines.InRange`).
-/

namespace RadarStream

open CText

/-- What a macro stands for: an integer, or a number that may have a fraction. -/
inductive Quantity where
  | word (w : UInt32)
  | rational (q : ℚ)

def Quantity.Is : Quantity → Value → Prop
  | .word w, v => v = .int w.toNat
  | .rational q, v => v.toRat = q

instance (q : Quantity) (v : Value) : Decidable (q.Is v) :=
  match q, v with
  | .word _, _ => inferInstanceAs (Decidable (_ = _))
  | .rational _, _ => inferInstanceAs (Decidable (_ = _))

/-- A token that is a number of C with this value. -/
def Quantity.IsWritten (q : Quantity) (s : Text) : Prop :=
  ∃ c v, constant? s = some c ∧ c.value? = some v ∧ q.Is v

instance (q : Quantity) (s : Text) : Decidable (q.IsWritten s) :=
  decidable_of_iff (((constant? s).bind Constant.value?).any (fun v => decide (q.Is v)) = true) (by
    rw [Option.any_eq_true]
    constructor
    · rintro ⟨v, hv, his⟩
      obtain ⟨c, hc, hv⟩ := Option.bind_eq_some_iff.mp hv
      exact ⟨c, v, hc, hv, of_decide_eq_true his⟩
    · rintro ⟨c, v, hc, hv, his⟩
      exact ⟨v, Option.bind_eq_some_iff.mpr ⟨c, hc, hv⟩, decide_eq_true his⟩)

/-- A command and a parameter of it. -/
abbrev Param := String × String

namespace Defines

variable (p : Platform) (d : Defines)

/-- The macros that are a token of the configuration as it stands. -/
def givenMacros : List (String × Param × Quantity) := [
  ("CLI_NUM_CHIRPS_PER_BURST", ("frameCfg", "numOfChirpsInBurst"), .word d.numChirpsPerBurst),
  ("CLI_NUM_CHIRPS_ACCUM", ("frameCfg", "numOfChirpsAccum"), .word d.numChirpsAccum),
  ("CLI_BURST_PERIOD", ("frameCfg", "burstPeriodicity"), .rational d.burstPeriod),
  ("CLI_NUM_BURSTS_PER_FRAME", ("frameCfg", "numOfBurstsInFrame"), .word d.numBurstsPerFrame),
  ("CLI_NUM_FRAMES", ("frameCfg", "numOfFrames"), .word d.numFrames),
  ("CLI_CHIRP_SLOPE", ("chirpTimingCfg", "chirpRfFreqSlope"), .rational d.chirpSlope),
  ("CLI_START_FREQ", ("chirpTimingCfg", "chirpRfFreqStart"), .rational d.startFreq),
  ("CLI_CHA_CFG_RX_BITMASK", ("channelCfg", "rxChCtrlBitMask"), .word d.rxBitmask),
  ("CLI_CHA_CFG_TX_BITMASK", ("channelCfg", "txChCtrlBitMask"), .word d.txBitmask),
  ("CLI_CHA_CFG_MISC_CTRL", ("channelCfg", "miscCtrl"), .word d.miscCtrl),
  ("CLI_NUM_ADC_SAMPLES", ("chirpComnCfg", "numOfAdcSamples"), .word d.numAdcSamples),
  ("CLI_DIG_OUT_SAMPLING_RATE", ("chirpComnCfg", "digOutputSampRate"),
    .word d.digOutSamplingRate),
  ("CLI_DIG_OUT_BITS_SEL", ("chirpComnCfg", "digOutputBitsSel"), .word d.digOutBitsSel),
  ("CLI_DFE_FIR_SEL", ("chirpComnCfg", "dfeFirSel"), .word d.dfeFirSel),
  ("CLI_MIMO_SEL", ("chirpComnCfg", "chirpTxMimoPatSel"), .word d.mimoSel),
  ("CLI_CHIRP_RX_HPF_SEL", ("chirpComnCfg", "chirpRxHpfSel"), .word d.chirpRxHpfSel),
  ("CLI_FACCALCFG_RX_GAIN", ("factoryCalibCfg", "rxGain"), .word d.rxGain),
  ("CLI_FACCALCFG_FLASH_OFFSET", ("factoryCalibCfg", "flashOffset"), .word d.flashOffset),
  ("CLI_SENSOR_START_FRM_TRIG", ("sensorStart", "frameTrigMode"), .word d.frmTrig),
  ("CLI_SENSOR_START_LB_EN", ("sensorStart", "chirpStartSigLbEn"), .word d.lbEn),
  ("CLI_SENSOR_START_MON_EN", ("sensorStart", "frameLivMonEn"), .word d.monEn),
  ("CLI_SENSOR_START_TRIG_TIMER", ("sensorStart", "frameTrigTimerVal"), .word d.trigTimer)]

/-- The parameters that only stand in a macro that is calculated. -/
def calculatedParams : List (Param × Quantity) := [
  (("frameCfg", "framePeriodicity"), .rational d.framePeriod),
  (("chirpTimingCfg", "chirpIdleTime"), .rational d.chirpIdleTime),
  (("chirpTimingCfg", "chirpAdcSkipSamples"), .word d.chirpAdcSkipSamples),
  (("chirpTimingCfg", "chirpTxStartTime"), .rational d.chirpTxStartTime),
  (("chirpComnCfg", "chirpRampEndTime"), .rational d.chirpRampEndTime),
  (("factoryCalibCfg", "txBackoff"), .word d.txBackoff)]

def params : List (Param × Quantity) := d.givenMacros.map Prod.snd ++ d.calculatedParams

/-- The macros that are calculated, but for the sampling rate. -/
def calculatedMacros : List (String × Quantity) := [
  ("CLI_W_BURST_PERIOD", .rational d.cliWBurstPeriod),
  ("CLI_FRAME_PERIOD", .rational d.cliFramePeriod),
  ("CLI_CHIRP_IDLE_TIME", .rational d.cliChirpIdleTime),
  ("CLI_CHIRP_ADC_START_TIME", .word d.cliChirpAdcStartTime),
  ("CLI_CHIRP_TX_START_TIME", .rational d.cliChirpTxStartTime),
  ("CLI_CHIRP_FREQ_SLOPE", .rational d.cliChirpFreqSlope),
  ("CLI_CHIRP_START_FREQ", .rational d.cliChirpStartFreq),
  ("CLI_NUM_RBINS", .word (cliNumRbins p d)),
  ("CLI_CHIRP_RAMP_END_TIME", .rational d.cliChirpRampEndTime),
  ("CLI_FACCALCFG_TX_BACKOFF_SEL", .word d.cliFaccalcfgTxBackoffSel),
  ("CLI_C_MISC_SETTINGS", .word 0),
  ("CLI_HPF_FAST_INIT_DURATION", .word 15)]

def macros : List (String × Quantity) :=
  d.givenMacros.map (fun m => (m.1, m.2.2)) ++ d.calculatedMacros p

end Defines

/-- The tokens of the configuration are written as these numbers. -/
def Configuration.Writes (conf : Configuration) (d : Defines) : Prop :=
  ∀ e ∈ d.params, e.2.IsWritten (conf e.1.1.toList e.1.2.toList)

instance (conf : Configuration) (d : Defines) : Decidable (conf.Writes d) :=
  inferInstanceAs (Decidable (∀ e ∈ d.params, _))

/-- The functions that the macros call. -/
def sdkCalls (p : Platform) (name : List Char) : Value → Option Value
  | .int n =>
      if name = "mathUtils_pow2roundup".toList ∧ 0 ≤ n then
        some (.int (p.pow2roundup (UInt32.ofNat n.toNat)).toNat)
      else none
  | .real _ => none

inductive HeaderNote where
  | scriptName
  | baseInput
  | timestamp

abbrev HeaderPart := Part Param HeaderNote

def Piece.part : Piece → HeaderPart
  | .lit s => .text s.toList
  | .guard => .text guardMacro
  | .headerName => .text definesHeaderName
  | .scriptName => .note .scriptName
  | .baseInput => .note .baseInput
  | .timestamp => .note .timestamp
  | .param cmd p => .hole (cmd, p)

def Line.parts (line : Line) : List HeaderPart := line.map Piece.part ++ [.text ['\n']]

def headerParts : List HeaderPart := headerLines.flatMap Line.parts

/-- The macros that are a parameter as it stands. -/
def givenNames : List (String × Param) := defaultDefines.givenMacros.map fun m => (m.1, m.2.1)

def number (q : ℚ) : Token Param := .number (.real q)

def integer (n : ℤ) : Token Param := .number (.int n)

/-- The tokens of the macros that are calculated. -/
def calculatedTokens : List (String × List (Token Param)) := [
  ("CLI_W_BURST_PERIOD", [.punct '(', number 10, .punct '*',
    .hole ("frameCfg", "burstPeriodicity"), .punct ')']),
  ("CLI_FRAME_PERIOD", [.punct '(', .punct '(', .punct '(', .ident "float".toList, .punct ')',
    .punct '(', .hole ("frameCfg", "framePeriodicity"), .punct ')', .punct '*', number 40000000,
    .punct ')', .punct '/', number 1000, .punct ')']),
  ("CLI_CHIRP_IDLE_TIME", [.punct '(', number 10, .punct '*',
    .hole ("chirpTimingCfg", "chirpIdleTime"), .punct ')']),
  ("CLI_CHIRP_ADC_START_TIME", [.punct '(', .hole ("chirpTimingCfg", "chirpAdcSkipSamples"),
    .shiftLeft, integer 10, .punct ')']),
  ("CLI_CHIRP_TX_START_TIME", [.punct '(', number 50, .punct '*',
    .hole ("chirpTimingCfg", "chirpTxStartTime"), .punct ')']),
  ("CLI_CHIRP_FREQ_SLOPE", [.punct '(', .punct '(', .hole ("chirpTimingCfg", "chirpRfFreqSlope"),
    .punct '*', number 1048576, .punct ')', .punct '/', .punct '(', integer 3, .punct '*',
    integer 100, .punct '*', integer 100, .punct ')', .punct ')']),
  ("CLI_CHIRP_START_FREQ", [.punct '(', .punct '(', .hole ("chirpTimingCfg", "chirpRfFreqStart"),
    .punct '*', number 1000, .punct '*', number 256, .punct ')', .punct '/', .punct '(',
    integer 300, .punct ')', .punct ')']),
  ("CLI_NUM_RBINS", [.punct '(', .ident "mathUtils_pow2roundup".toList, .punct '(',
    .hole ("chirpComnCfg", "numOfAdcSamples"), .punct ')', .punct '/', integer 2, .punct ')']),
  ("CLI_CHIRP_RAMP_END_TIME", [.punct '(', number 10, .punct '*',
    .hole ("chirpComnCfg", "chirpRampEndTime"), .punct ')']),
  ("CLI_FACCALCFG_TX_BACKOFF_SEL", [.hole ("factoryCalibCfg", "txBackoff"), .punct '*',
    integer 2]),
  ("CLI_C_MISC_SETTINGS", [integer 0]),
  ("CLI_HPF_FAST_INIT_DURATION", [integer 15]),
  ("CLI_ADC_SAMPLING_RATE", [.punct '(', number 100, .punct '/',
    .hole ("chirpComnCfg", "digOutputSampRate"), .punct ')'])]

def macroNames : List Text :=
  guardMacro :: (givenNames.map Prod.fst ++ calculatedTokens.map Prod.fst).map String.toList

/-- What the header defines, before its holes are filled. -/
structure HeaderDefines (ms : Macros Param) : Prop where
  names : ms.keys.Perm macroNames
  given : ∀ m ∈ givenNames, expansion ms m.1.toList = [.hole m.2]
  calculated : ∀ m ∈ calculatedTokens, expansion ms m.1.toList = m.2

instance : DecidablePred HeaderDefines := fun _ =>
  decidable_of_iff (_ ∧ _ ∧ _)
    ⟨fun h => ⟨h.1, h.2.1, h.2.2⟩, fun h => ⟨h.names, h.given, h.calculated⟩⟩

/-- The lines between the guard and its end. -/
def guardedLines (ls : List (List (Token Param))) : List (List (Token Param)) :=
  (ls.drop 2).take (ls.length - 4)

/-- What is read of the header, before its holes are filled. -/
structure HeaderReads (ts : List (Token Param)) : Prop where
  defines : (readMacros Dict.empty ts).any (fun ms => decide (HeaderDefines ms)) = true
  guarded : lines ts =
    [] :: guardLine guardMacro :: (guardedLines (lines ts) ++ [endLine, []])
  skipped : (guardedLines (lines ts)).all isSkipped = true

instance : DecidablePred HeaderReads := fun _ =>
  decidable_of_iff (_ ∧ _ ∧ _)
    ⟨fun h => ⟨h.1, h.2.1, h.2.2⟩, fun h => ⟨h.defines, h.guarded, h.skipped⟩⟩

set_option maxRecDepth 8000 in
theorem headerReads_of_lexed :
    (lexTemplate headerParts).any (fun ts => decide (HeaderReads ts)) = true := by
  -- a literal is a list of characters by the lemma; unfolding it costs the kernel too much
  simp only [headerParts, headerLines, linesAbove, fileLine, linesBelow, Line.parts,
    List.cons_append, List.nil_append, List.flatMap_cons, List.map_cons, List.map_nil, Piece.part,
    String.toList_append]
  repeat rw [String.toList_ofList]
  decide +kernel

/-- Nothing in what the header quotes ends its comment. -/
structure HeaderArgs.Quotable (args : HeaderArgs) : Prop where
  scriptName : '/' ∉ args.scriptName
  baseInput : '/' ∉ args.baseInput
  timestamp : '/' ∉ args.timestamp

section Filling

variable {conf : Configuration} {d : Defines} {args : HeaderArgs}

/-- The token of a parameter, or a number where it is none. -/
def paramText (conf : Configuration) (k : Param) : Text :=
  if (constant? (conf k.1.toList k.2.toList)).isSome = true then conf k.1.toList k.2.toList
  else ['0']

def paramTokens (conf : Configuration) (k : Param) : List (Token Empty) :=
  match constant? (paramText conf k) with
  | some c => c.tokens
  | none => []

def noteText (args : HeaderArgs) : HeaderNote → Text
  | .scriptName => args.scriptName
  | .baseInput => args.baseInput
  | .timestamp => args.timestamp

theorem exists_constant_paramText (conf : Configuration) (k : Param) :
    ∃ c, constant? (paramText conf k) = some c := by
  rw [paramText]
  split
  · exact Option.isSome_iff_exists.mp (by assumption)
  · exact ⟨⟨false, .int 0⟩, by decide⟩

/-- The holes of the header filled with the configuration. -/
def headerFilling (conf : Configuration) (hargs : args.Quotable) : Filling Param HeaderNote where
  hole := paramText conf
  note := noteText args
  tokens := paramTokens conf
  spells k := by
    obtain ⟨c, hc⟩ := exists_constant_paramText conf k
    rw [paramTokens, hc]
    exact spells_constant hc
  note_open n := by
    cases n with
    | scriptName => exact hargs.scriptName
    | baseInput => exact hargs.baseInput
    | timestamp => exact hargs.timestamp

theorem exists_tokens (h : conf.Writes d) {e : Param × Quantity} (he : e ∈ d.params) :
    ∃ (c : Constant) (v : Value), paramTokens conf e.1 = c.tokens ∧ c.value? = some v ∧
      e.2.Is v := by
  obtain ⟨c, v, hc, hv, his⟩ := h e he
  have htext : paramText conf e.1 = conf e.1.1.toList e.1.2.toList :=
    if_pos (by rw [hc]; rfl)
  refine ⟨c, v, ?_, hv, his⟩
  rw [paramTokens, htext, hc]

theorem map_givenMacros (d : Defines) :
    d.givenMacros.map (fun m => (m.1, m.2.1)) = givenNames := rfl

def paramNames : List Param := defaultDefines.params.map Prod.fst

theorem map_fst_params (d : Defines) : d.params.map Prod.fst = paramNames := rfl

def Piece.Named : Piece → Prop
  | .param cmd p => (cmd, p) ∈ paramNames
  | _ => True

instance : DecidablePred Piece.Named
  | .param _ _ => inferInstanceAs (Decidable (_ ∈ _))
  | .lit _ | .guard | .headerName | .scriptName | .baseInput | .timestamp => .isTrue trivial

theorem named_of_mem_headerLines : ∀ line ∈ headerLines, ∀ piece ∈ line, piece.Named := by
  decide +kernel

theorem fill_part (h : conf.Writes d) (hargs : args.Quotable) {piece : Piece}
    (hpiece : piece.Named) :
    piece.part.fill (headerFilling conf hargs) = piece.expand conf args := by
  cases piece with
  | param cmd p =>
      change (cmd, p) ∈ paramNames at hpiece
      rw [← map_fst_params d] at hpiece
      obtain ⟨e, he, hfst⟩ := List.mem_map.mp hpiece
      obtain ⟨c, -, hc, -⟩ := h e he
      rw [hfst] at hc
      exact if_pos (by rw [hc]; rfl)
  | lit | guard | headerName | scriptName | baseInput | timestamp => rfl

/-- The header is the template filled with the configuration. -/
theorem fillText_headerParts (h : conf.Writes d) (hargs : args.Quotable) :
    fillText (headerFilling conf hargs) headerParts =
      (headerLines.map (Line.expand conf args)).flatten := by
  have hline : ∀ line ∈ headerLines,
      fillText (headerFilling conf hargs) line.parts = Line.expand conf args line := by
    intro line hline
    have hpieces : line.map (fun piece => piece.part.fill (headerFilling conf hargs)) =
        line.map (Piece.expand conf args) :=
      List.map_congr_left fun piece hpiece =>
        fill_part h hargs (named_of_mem_headerLines line hline piece hpiece)
    rw [fillText, Line.parts, List.flatMap_append, List.flatMap_map, Line.expand, ← hpieces]
    rfl
  rw [fillText, headerParts, List.flatMap_assoc, List.flatMap_def]
  exact congrArg List.flatten (List.map_congr_left hline)

end Filling

section Evaluation

variable (calls : List Char → Value → Option Value) {c : Constant} {v r : Value}

theorem evaluate_constant (hc : c.value? = some v) : evaluate calls c.tokens = some v := by
  rcases c.tokens_cases hc with hts | ⟨m, hts, hm⟩
  · simp [evaluate, expression, operand, applied, hts]
  · simp [evaluate, expression, operand, applied, hts, hm]

theorem evaluate_scaled (hc : c.value? = some v) (q : ℚ) :
    evaluate calls (.punct '(' :: .number (.real q) :: .punct '*' :: (c.tokens ++ [.punct ')'])) =
      some (.real (q * v.toRat)) := by
  rcases c.tokens_cases hc with hts | ⟨m, hts, hm⟩
  · simp [evaluate, expression, operand, applied, binary?, Value.real_mul, hts]
  · simp [evaluate, expression, operand, applied, binary?, Value.real_mul, hts, hm]

theorem evaluate_inverse (hc : c.value? = some v) (q : ℚ) (hr : Value.div (.real q) v = some r) :
    evaluate calls (.punct '(' :: .number (.real q) :: .punct '/' :: (c.tokens ++ [.punct ')'])) =
      some r := by
  rcases c.tokens_cases hc with hts | ⟨m, hts, hm⟩
  · simp [evaluate, expression, operand, applied, binary?, hr, hts]
  · simp [evaluate, expression, operand, applied, binary?, hr, hts, hm]

theorem evaluate_shifted (hc : c.value? = some v) (hr : v.shl (.int 10) = some r) :
    evaluate calls
        (.punct '(' :: (c.tokens ++ [.shiftLeft, .number (.int 10), .punct ')'])) = some r := by
  rcases c.tokens_cases hc with hts | ⟨m, hts, hm⟩
  · simp [evaluate, expression, operand, applied, binary?, hr, hts]
  · simp [evaluate, expression, operand, applied, binary?, hr, hts, hm]

theorem evaluate_doubled (hc : c.value? = some v) (hr : v.mul (.int 2) = some r) :
    evaluate calls (c.tokens ++ [.punct '*', .number (.int 2)]) = some r := by
  rcases c.tokens_cases hc with hts | ⟨m, hts, hm⟩
  · simp [evaluate, expression, operand, applied, binary?, hr, hts]
  · simp [evaluate, expression, operand, applied, binary?, hr, hts, hm]

theorem evaluate_framePeriod (hc : c.value? = some v) :
    evaluate calls (.punct '(' :: .punct '(' :: .punct '(' :: .ident "float".toList ::
        .punct ')' :: .punct '(' :: (c.tokens ++ [.punct ')', .punct '*',
          .number (.real 40000000), .punct ')', .punct '/', .number (.real 1000), .punct ')'])) =
      some (.real (v.toRat * 40000000 / 1000)) := by
  have hdiv (q : ℚ) : Value.div (.real q) (.real 1000) = some (.real (q / 1000)) :=
    Value.real_div (by norm_num [Value.toRat])
  rcases c.tokens_cases hc with hts | ⟨m, hts, hm⟩
  · simp [evaluate, expression, operand, applied, binary?, Value.mul_real, Value.toRat, hdiv, hts]
  · simp [evaluate, expression, operand, applied, binary?, Value.mul_real, Value.toRat, hdiv, hts,
      hm]

theorem evaluate_freqSlope (hc : c.value? = some v) :
    evaluate calls (.punct '(' :: .punct '(' :: (c.tokens ++ [.punct '*',
        .number (.real 1048576), .punct ')', .punct '/', .punct '(', .number (.int 3), .punct '*',
        .number (.int 100), .punct '*', .number (.int 100), .punct ')', .punct ')'])) =
      some (.real (v.toRat * 1048576 / 30000)) := by
  have h300 : Value.mul (.int 3) (.int 100) = some (.int 300) := by decide
  have h30000 : Value.mul (.int 300) (.int 100) = some (.int 30000) := by decide
  have hdiv (q : ℚ) : Value.div (.real q) (.int 30000) = some (.real (q / 30000)) :=
    Value.real_div (by norm_num [Value.toRat])
  rcases c.tokens_cases hc with hts | ⟨m, hts, hm⟩
  · simp [evaluate, expression, operand, applied, binary?, Value.mul_real, h300, h30000, hdiv, hts]
  · simp [evaluate, expression, operand, applied, binary?, Value.mul_real, h300, h30000, hdiv, hts,
      hm]

theorem evaluate_startFreq (hc : c.value? = some v) :
    evaluate calls (.punct '(' :: .punct '(' :: (c.tokens ++ [.punct '*', .number (.real 1000),
        .punct '*', .number (.real 256), .punct ')', .punct '/', .punct '(', .number (.int 300),
        .punct ')', .punct ')'])) =
      some (.real (v.toRat * 1000 * 256 / 300)) := by
  have hdiv (q : ℚ) : Value.div (.real q) (.int 300) = some (.real (q / 300)) :=
    Value.real_div (by norm_num [Value.toRat])
  rcases c.tokens_cases hc with hts | ⟨m, hts, hm⟩
  · simp [evaluate, expression, operand, applied, binary?, Value.mul_real, Value.toRat, hdiv, hts]
  · simp [evaluate, expression, operand, applied, binary?, Value.mul_real, Value.toRat, hdiv, hts,
      hm]

theorem evaluate_numRbins {name : List Char} {u : Value} (hc : c.value? = some v)
    (hcall : calls name v = some u) (hr : u.div (.int 2) = some r) :
    evaluate calls (.punct '(' :: .ident name :: .punct '(' :: (c.tokens ++ [.punct ')',
        .punct '/', .number (.int 2), .punct ')'])) = some r := by
  rcases c.tokens_cases hc with hts | ⟨m, hts, hm⟩
  · simp [evaluate, expression, operand, applied, binary?, hcall, hr, hts]
  · simp [evaluate, expression, operand, applied, binary?, hcall, hr, hts, hm]

end Evaluation

section Words

variable {w : UInt32}

theorem shl_ten (h : w.toNat < 2 ^ 21) :
    Value.shl (.int w.toNat) (.int 10) = some (.int (w <<< 10).toNat) := by
  have hshift : (w <<< 10).toNat = w.toNat * 1024 := by
    rw [UInt32.toNat_shiftLeft, Nat.shiftLeft_eq]
    exact Nat.mod_eq_of_lt (by change w.toNat * 2 ^ 10 < _; omega)
  have hpow : (2 : ℤ) ^ (10 : ℤ).toNat = 1024 := by decide
  have hcast : (w.toNat : ℤ) * 2 ^ (10 : ℤ).toNat = ((w.toNat * 1024 : ℕ) : ℤ) := by
    rw [hpow, Nat.cast_mul, Nat.cast_ofNat]
  rw [Value.shl_int ⟨Int.natCast_nonneg _, by decide, by decide⟩, hcast,
    Value.int?_natCast (by omega), hshift]

theorem mul_two (h : w.toNat < 2 ^ 30) :
    Value.mul (.int w.toNat) (.int 2) = some (.int (w * 2).toNat) := by
  have hdouble : (w * 2).toNat = w.toNat * 2 := by
    rw [UInt32.toNat_mul]
    exact Nat.mod_eq_of_lt (by change w.toNat * 2 < _; omega)
  have hcast : (w.toNat : ℤ) * 2 = ((w.toNat * 2 : ℕ) : ℤ) := by norm_num
  rw [Value.mul_int, hcast, Value.int?_natCast (by omega), hdouble]

theorem div_two (w : UInt32) :
    Value.div (.int w.toNat) (.int 2) = some (.int (w / 2).toNat) := by
  have hlt : w.toNat < 2 ^ 32 := w.toNat_lt
  have hhalf : (w / 2).toNat = w.toNat / 2 := UInt32.toNat_div _ _
  have hcast : (w.toNat : ℤ).tdiv 2 = ((w.toNat / 2 : ℕ) : ℤ) := (Int.ofNat_tdiv _ 2).symm
  rw [Value.div_int _ (by decide), hcast, Value.int?_natCast (by omega), hhalf]

end Words

/-- The calculated integers stay in `int`. -/
structure Defines.InRange (d : Defines) : Prop where
  chirpAdcSkipSamples : d.chirpAdcSkipSamples.toNat < 2 ^ 21
  txBackoff : d.txBackoff.toNat < 2 ^ 30

/-- These macros have the values of `d`. -/
structure MacrosMean (p : Platform) (d : Defines) (ms : Macros Empty) : Prop where
  names : ms.keys.Perm macroNames
  value : ∀ m ∈ d.macros p, ∃ v, valueOf (sdkCalls p) ms m.1.toList = some v ∧ m.2.Is v
  sampling_rate : d.digOutSamplingRate ≠ 0 →
    valueOf (sdkCalls p) ms "CLI_ADC_SAMPLING_RATE".toList =
      some (.real (100 / d.digOutSamplingRate.toNat))

/-- A header with this text defines the macros with the values of `d`, and nothing more
when it is included again. -/
def HeaderMeans (p : Platform) (d : Defines) (text : Text) : Prop :=
  (∃ ms, readMacros Dict.empty (lex text) = some ms ∧ MacrosMean p d ms) ∧
    ∀ ms : Macros Empty, guardMacro ∈ ms.keys → readMacros ms (lex text) = some ms

section Meaning

variable {conf : Configuration} {d : Defines} {args : HeaderArgs} {p : Platform}
  {ms : Macros Param}

theorem valueOf_fill (hargs : args.Quotable) {name : Text} {ts : List (Token Param)}
    (h : expansion ms name = ts) (calls : List Char → Value → Option Value) :
    valueOf calls (fillMacros (headerFilling conf hargs) ms) name =
      evaluate calls (fillTokens (headerFilling conf hargs) ts) := by
  rw [valueOf, expansion_fillMacros, h]

theorem givenMacros_mean (hw : conf.Writes d) (hargs : args.Quotable) (hms : HeaderDefines ms) :
    ∀ m ∈ d.givenMacros, ∃ v,
      valueOf (sdkCalls p) (fillMacros (headerFilling conf hargs) ms) m.1.toList = some v ∧
        m.2.2.Is v := by
  intro m hm
  have hname : (m.1, m.2.1) ∈ givenNames := by
    rw [← map_givenMacros d]
    exact List.mem_map_of_mem hm
  obtain ⟨c, v, htokens, hv, his⟩ :=
    exists_tokens hw (List.mem_append_left _ (List.mem_map_of_mem hm))
  have hfill : fillTokens (headerFilling conf hargs) [.hole m.2.1] = c.tokens :=
    (List.append_nil _).trans htokens
  refine ⟨v, ?_, his⟩
  rw [valueOf_fill hargs (hms.given _ hname), hfill, evaluate_constant _ hv]

section Calculated

variable (hw : conf.Writes d) (hargs : args.Quotable) (hms : HeaderDefines ms)
  (calls : List Char → Value → Option Value) {name : String} {k : Param}

include hw in
theorem rational_tokens {q : ℚ} (hk : (k, .rational q) ∈ d.params) :
    ∃ (c : Constant) (v : Value), paramTokens conf k = c.tokens ∧ c.value? = some v ∧
      v.toRat = q := by
  obtain ⟨c, v, htokens, hv, his⟩ := exists_tokens hw hk
  exact ⟨c, v, htokens, hv, his⟩

include hw in
theorem word_tokens {w : UInt32} (hk : (k, .word w) ∈ d.params) :
    ∃ c : Constant, paramTokens conf k = c.tokens ∧ c.value? = some (.int w.toNat) := by
  obtain ⟨c, v, htokens, hv, rfl⟩ := exists_tokens hw hk
  exact ⟨c, htokens, hv⟩

include hms

theorem integer_mean {w : UInt32} (hm : (name, [integer w.toNat]) ∈ calculatedTokens) :
    ∃ v, valueOf calls (fillMacros (headerFilling conf hargs) ms) name.toList = some v ∧
      (Quantity.word w).Is v := by
  refine ⟨.int w.toNat, ?_, rfl⟩
  rw [valueOf_fill hargs (hms.calculated _ hm)]
  exact evaluate_constant calls (c := ⟨false, .int w.toNat⟩) rfl

include hw

theorem scaled_mean {q s : ℚ} (hk : (k, .rational q) ∈ d.params)
    (hm : (name, [.punct '(', number s, .punct '*', .hole k, .punct ')']) ∈ calculatedTokens) :
    ∃ v, valueOf calls (fillMacros (headerFilling conf hargs) ms) name.toList = some v ∧
      (Quantity.rational (s * q)).Is v := by
  obtain ⟨c, v, htokens, hv, rfl⟩ := rational_tokens hw hk
  refine ⟨.real (s * v.toRat), ?_, rfl⟩
  rw [valueOf_fill hargs (hms.calculated _ hm), ← evaluate_scaled calls hv, ← htokens]
  rfl

theorem framePeriod_mean :
    ∃ v, valueOf calls (fillMacros (headerFilling conf hargs) ms)
        "CLI_FRAME_PERIOD".toList = some v ∧ (Quantity.rational d.cliFramePeriod).Is v := by
  obtain ⟨c, v, htokens, hv, hq⟩ := rational_tokens hw (k := ("frameCfg", "framePeriodicity"))
    (q := d.framePeriod) (by simp [Defines.params, Defines.calculatedParams])
  refine ⟨.real d.cliFramePeriod, ?_, rfl⟩
  rw [valueOf_fill hargs (hms.calculated _ (List.mem_of_getElem? (i := 1) rfl)),
    Defines.cliFramePeriod, ← hq, ← evaluate_framePeriod calls hv, ← htokens]
  rfl

theorem freqSlope_mean :
    ∃ v, valueOf calls (fillMacros (headerFilling conf hargs) ms)
        "CLI_CHIRP_FREQ_SLOPE".toList = some v ∧ (Quantity.rational d.cliChirpFreqSlope).Is v := by
  obtain ⟨c, v, htokens, hv, hq⟩ := rational_tokens hw
    (k := ("chirpTimingCfg", "chirpRfFreqSlope")) (q := d.chirpSlope)
    (by simp [Defines.params, Defines.givenMacros])
  refine ⟨.real (v.toRat * 1048576 / 30000), ?_, ?_⟩
  · rw [valueOf_fill hargs (hms.calculated _ (List.mem_of_getElem? (i := 5) rfl)),
      ← evaluate_freqSlope calls hv, ← htokens]
    rfl
  · rw [hq, Quantity.Is, Defines.cliChirpFreqSlope, Value.toRat]
    norm_num

theorem startFreq_mean :
    ∃ v, valueOf calls (fillMacros (headerFilling conf hargs) ms)
        "CLI_CHIRP_START_FREQ".toList = some v ∧ (Quantity.rational d.cliChirpStartFreq).Is v := by
  obtain ⟨c, v, htokens, hv, hq⟩ := rational_tokens hw
    (k := ("chirpTimingCfg", "chirpRfFreqStart")) (q := d.startFreq)
    (by simp [Defines.params, Defines.givenMacros])
  refine ⟨.real d.cliChirpStartFreq, ?_, rfl⟩
  rw [valueOf_fill hargs (hms.calculated _ (List.mem_of_getElem? (i := 6) rfl)),
    Defines.cliChirpStartFreq, ← hq, ← evaluate_startFreq calls hv, ← htokens]
  rfl

theorem adcStartTime_mean (hd : d.InRange) :
    ∃ v, valueOf calls (fillMacros (headerFilling conf hargs) ms)
        "CLI_CHIRP_ADC_START_TIME".toList = some v ∧
      (Quantity.word d.cliChirpAdcStartTime).Is v := by
  obtain ⟨c, htokens, hv⟩ := word_tokens hw (k := ("chirpTimingCfg", "chirpAdcSkipSamples"))
    (w := d.chirpAdcSkipSamples) (by simp [Defines.params, Defines.calculatedParams])
  refine ⟨.int d.cliChirpAdcStartTime.toNat, ?_, rfl⟩
  rw [valueOf_fill hargs (hms.calculated _ (List.mem_of_getElem? (i := 3) rfl)),
    Defines.cliChirpAdcStartTime, ← evaluate_shifted calls hv (shl_ten hd.chirpAdcSkipSamples),
    ← htokens]
  rfl

theorem txBackoff_mean (hd : d.InRange) :
    ∃ v, valueOf calls (fillMacros (headerFilling conf hargs) ms)
        "CLI_FACCALCFG_TX_BACKOFF_SEL".toList = some v ∧
      (Quantity.word d.cliFaccalcfgTxBackoffSel).Is v := by
  obtain ⟨c, htokens, hv⟩ := word_tokens hw (k := ("factoryCalibCfg", "txBackoff"))
    (w := d.txBackoff) (by simp [Defines.params, Defines.calculatedParams])
  refine ⟨.int d.cliFaccalcfgTxBackoffSel.toNat, ?_, rfl⟩
  rw [valueOf_fill hargs (hms.calculated _ (List.mem_of_getElem? (i := 9) rfl)),
    Defines.cliFaccalcfgTxBackoffSel, ← evaluate_doubled calls hv (mul_two hd.txBackoff), ← htokens]
  rfl

theorem numRbins_mean (p : Platform) :
    ∃ v, valueOf (sdkCalls p) (fillMacros (headerFilling conf hargs) ms)
        "CLI_NUM_RBINS".toList = some v ∧ (Quantity.word (cliNumRbins p d)).Is v := by
  obtain ⟨c, htokens, hv⟩ := word_tokens hw (k := ("chirpComnCfg", "numOfAdcSamples"))
    (w := d.numAdcSamples) (by simp [Defines.params, Defines.givenMacros])
  have hcall : sdkCalls p "mathUtils_pow2roundup".toList (.int d.numAdcSamples.toNat) =
      some (.int (p.pow2roundup d.numAdcSamples).toNat) := by
    rw [sdkCalls, if_pos ⟨rfl, Int.natCast_nonneg _⟩, Int.toNat_natCast, UInt32.ofNat_toNat]
  refine ⟨.int (cliNumRbins p d).toNat, ?_, rfl⟩
  rw [valueOf_fill hargs (hms.calculated _ (List.mem_of_getElem? (i := 7) rfl)), cliNumRbins,
    ← evaluate_numRbins (sdkCalls p) hv hcall (div_two _), ← htokens]
  rfl

theorem samplingRate_mean (hrate : d.digOutSamplingRate ≠ 0) :
    valueOf calls (fillMacros (headerFilling conf hargs) ms) "CLI_ADC_SAMPLING_RATE".toList =
      some (.real (100 / d.digOutSamplingRate.toNat)) := by
  obtain ⟨c, htokens, hv⟩ := word_tokens hw (k := ("chirpComnCfg", "digOutputSampRate"))
    (w := d.digOutSamplingRate) (by simp [Defines.params, Defines.givenMacros])
  have hdiv : Value.div (.real 100) (.int d.digOutSamplingRate.toNat) =
      some (.real (100 / d.digOutSamplingRate.toNat)) := by
    refine Value.real_div fun hzero => hrate ?_
    have hcast : ((d.digOutSamplingRate.toNat : ℤ) : ℚ) = 0 := hzero
    exact UInt32.toNat_inj.mp (by exact_mod_cast hcast)
  rw [valueOf_fill hargs (hms.calculated _ (List.mem_of_getElem? (i := 12) rfl)),
    ← evaluate_inverse calls hv 100 hdiv, ← htokens]
  rfl

theorem calculatedMacros_mean (hd : d.InRange) :
    ∀ m ∈ d.calculatedMacros p, ∃ v,
      valueOf (sdkCalls p) (fillMacros (headerFilling conf hargs) ms) m.1.toList = some v ∧
        m.2.Is v := by
  simp only [Defines.calculatedMacros, List.forall_mem_cons]
  refine ⟨?burst, framePeriod_mean hw hargs hms _, ?idle, adcStartTime_mean hw hargs hms _ hd,
    ?start, freqSlope_mean hw hargs hms _, startFreq_mean hw hargs hms _,
    numRbins_mean hw hargs hms p, ?ramp, txBackoff_mean hw hargs hms _ hd, ?misc, ?hpf, by simp⟩
  case burst =>
    exact scaled_mean hw hargs hms _ (k := ("frameCfg", "burstPeriodicity"))
      (by simp [Defines.params, Defines.givenMacros]) (List.mem_of_getElem? (i := 0) rfl)
  case idle =>
    exact scaled_mean hw hargs hms _ (k := ("chirpTimingCfg", "chirpIdleTime"))
      (by simp [Defines.params, Defines.calculatedParams]) (List.mem_of_getElem? (i := 2) rfl)
  case start =>
    exact scaled_mean hw hargs hms _ (k := ("chirpTimingCfg", "chirpTxStartTime"))
      (by simp [Defines.params, Defines.calculatedParams]) (List.mem_of_getElem? (i := 4) rfl)
  case ramp =>
    exact scaled_mean hw hargs hms _ (k := ("chirpComnCfg", "chirpRampEndTime"))
      (by simp [Defines.params, Defines.calculatedParams]) (List.mem_of_getElem? (i := 8) rfl)
  case misc => exact integer_mean hargs hms _ (List.mem_of_getElem? (i := 10) rfl)
  case hpf => exact integer_mean hargs hms _ (List.mem_of_getElem? (i := 11) rfl)

end Calculated

/-- The header of a configuration that is written as the numbers of `d` means `d`. -/
theorem headerMeans_of_writes (hw : conf.Writes d) (hd : d.InRange) (hargs : args.Quotable) :
    HeaderMeans p d (headerLines.map (Line.expand conf args)).flatten := by
  obtain ⟨ts, hlexed, hreads⟩ := (Option.any_eq_true _ _).mp headerReads_of_lexed
  obtain ⟨hdefines, hguarded, hskipped⟩ := of_decide_eq_true hreads
  obtain ⟨ms, hread, hms⟩ := (Option.any_eq_true _ _).mp hdefines
  have hms : HeaderDefines ms := of_decide_eq_true hms
  have hlex : lex (headerLines.map (Line.expand conf args)).flatten =
      fillTokens (headerFilling conf hargs) ts := by
    rw [← fillText_headerParts hw hargs, lex_fillText _ hlexed]
  rw [HeaderMeans, hlex]
  refine ⟨⟨_, readMacros_fill _ hread, ?_, ?_, samplingRate_mean hw hargs hms _⟩, ?_⟩
  · rw [fillMacros, Dict.keys_map]
    exact hms.names
  · intro m hm
    rcases List.mem_append.mp hm with hgiven | hcalculated
    · obtain ⟨m', hm', rfl⟩ := List.mem_map.mp hgiven
      exact givenMacros_mean hw hargs hms m' hm'
    · exact calculatedMacros_mean hw hargs hms hd m hcalculated
  · intro ms' hguard
    have hlines := lines_fillTokens (headerFilling conf hargs) ts
    rw [hguarded, List.map_cons, List.map_cons, List.map_append] at hlines
    refine readMacros_of_guard hlines ?_ hguard
    rw [List.all_map, List.all_eq_true]
    exact fun line hline => isSkipped_fillTokens _ (List.all_eq_true.mp hskipped line hline)

end Meaning

end RadarStream
