import Mathlib.Algebra.Ring.Rat
import RadarStream.Script.Parse

/-!
# The summary of a configuration

`print_basic_config_info`: the number of range bins, the bandwidth and the range
resolution, from three parameters of the data. The parameters may be anything
that a configuration file holds, so the conversions and the division may raise.
-/

namespace RadarStream

/-- The exceptions that leave the script. -/
inductive PyException where
  | error (e : PyError)
  | zeroDivisionError
  | overflowError
  | eofError
deriving DecidableEq

/-- The numbers of Python: `float` and `int` of a value, and floats with their
literals, products and quotients. -/
structure Numbers (α F : Type) where
  float : Json α → Except PyException F
  int : Json α → Except PyException ℤ
  lit : ℚ → F
  mul : F → F → F
  quot : F → F → F
  isZero : F → Bool

/-- What `print_basic_config_info` prints: `N_bins`, GHz and cm. -/
structure Summary (F : Type) where
  nBins : ℤ
  bandwidth : F
  rangeRes : F

variable {α F : Type}

/-- `data[cmd][p]` -/
def getParam (data : ConfigData α) (cmd p : Text) : Except PyException (Json α) :=
  (do lookup (← lookup data cmd) p : Except PyError (Json α)).mapError .error

variable (num : Numbers α F)

def Numbers.div (x y : F) : Except PyException F :=
  if num.isZero y then throw .zeroDivisionError else return num.quot x y

def bandwidthHz (slopeMhzPerUs rampTimeUs : F) : F :=
  num.mul (num.mul slopeMhzPerUs (num.lit (10 ^ 12))) (num.mul rampTimeUs (num.lit (1 / 10 ^ 6)))

def printBasicConfigInfo (data : ConfigData α) : Except PyException (Summary F) := do
  let c := num.lit (3 * 10 ^ 8)
  let slopeMhzPerUs ←
    num.float (← getParam data "chirpTimingCfg".toList "chirpRfFreqSlope".toList)
  let rampTimeUs ← num.float (← getParam data "chirpComnCfg".toList "chirpRampEndTime".toList)
  let bandwidth := bandwidthHz num slopeMhzPerUs rampTimeUs
  let rangeRes ← num.div c (num.mul (num.lit 2) bandwidth)
  let samples ← num.int (← getParam data "chirpComnCfg".toList "numOfAdcSamples".toList)
  return {
    nBins := samples / 2
    bandwidth := num.mul bandwidth (num.lit (1 / 10 ^ 9))
    rangeRes := num.mul rangeRes (num.lit 100) }

theorem bind_eq_ok_iff {ε β γ : Type} {x : Except ε β} {f : β → Except ε γ} {c : γ} :
    (x >>= f) = .ok c ↔ ∃ b, x = .ok b ∧ f b = .ok c := by
  cases x with
  | error e => exact ⟨fun h => (by cases h), fun ⟨_, h, _⟩ => (by cases h)⟩
  | ok b => exact ⟨fun h => ⟨b, rfl, h⟩, fun ⟨_, h, hf⟩ => (by cases h; exact hf)⟩

theorem mapError_eq_ok_iff {ε ε' β : Type} {x : Except ε β} {f : ε → ε'} {b : β} :
    x.mapError f = .ok b ↔ x = .ok b := by
  cases x with
  | error e => exact ⟨fun h => (by cases h), fun h => (by cases h)⟩
  | ok a => exact ⟨fun h => congrArg Except.ok (Except.ok.inj h),
      fun h => congrArg Except.ok (Except.ok.inj h)⟩

theorem getParam_eq_ok_iff {data : ConfigData α} {cmd p : Text} {v : Json α} :
    getParam data cmd p = .ok v ↔
      ∃ params, data.get? cmd = some params ∧ params.get? p = some v := by
  rw [getParam, mapError_eq_ok_iff, bind_eq_ok_iff]
  simp only [lookup_eq_ok_iff]

/-- The three parameters are numbers, and the bandwidth is not zero. -/
structure Usable (data : ConfigData α) : Prop where
  bandwidth : ∃ slope ramp s r, getParam data "chirpTimingCfg".toList "chirpRfFreqSlope".toList =
      .ok slope ∧ num.float slope = .ok s ∧
    getParam data "chirpComnCfg".toList "chirpRampEndTime".toList = .ok ramp ∧
    num.float ramp = .ok r ∧ num.isZero (num.mul (num.lit 2) (bandwidthHz num s r)) = false
  samples : ∃ v n, getParam data "chirpComnCfg".toList "numOfAdcSamples".toList = .ok v ∧
    num.int v = .ok n

variable {num}

theorem div_eq_ok_iff {x y z : F} :
    num.div x y = .ok z ↔ num.isZero y = false ∧ num.quot x y = z := by
  rw [Numbers.div]
  cases num.isZero y with
  | true => exact ⟨fun h => (by cases h), fun h => absurd h.1 (by decide)⟩
  | false => exact ⟨fun h => ⟨rfl, Except.ok.inj h⟩, fun h => congrArg Except.ok h.2⟩

theorem exists_printBasicConfigInfo_iff {data : ConfigData α} :
    (∃ s, printBasicConfigInfo num data = .ok s) ↔ Usable num data := by
  simp only [printBasicConfigInfo, bind_eq_ok_iff, div_eq_ok_iff]
  constructor
  · rintro ⟨_, slope, hslope, s, hs, ramp, hramp, r, hr, _, ⟨hzero, rfl⟩, v, hv, n, hn, _⟩
    exact ⟨⟨slope, ramp, s, r, hslope, hs, hramp, hr, hzero⟩, v, n, hv, hn⟩
  · rintro ⟨⟨slope, ramp, s, r, hslope, hs, hramp, hr, hzero⟩, v, n, hv, hn⟩
    exact ⟨_, slope, hslope, s, hs, ramp, hramp, r, hr, _, ⟨hzero, rfl⟩, v, hv, n, hn, rfl⟩

/-- The reported bins are half of the samples. -/
theorem nBins_of_printed {data : ConfigData α} {s : Summary F}
    (h : printBasicConfigInfo num data = .ok s) :
    ∃ v n, getParam data "chirpComnCfg".toList "numOfAdcSamples".toList = .ok v ∧
      num.int v = .ok n ∧ s.nBins = n / 2 := by
  simp only [printBasicConfigInfo, bind_eq_ok_iff] at h
  obtain ⟨_, _, _, _, _, _, _, _, _, _, v, hv, n, hn, hs⟩ := h
  exact ⟨v, n, hv, hn, by rw [← Except.ok.inj hs]⟩

def decimal (s : Text) : Option ℕ :=
  if s ≠ [] ∧ s.all Char.isDigit = true then
    some (s.foldl (fun n c => 10 * n + (c.toNat - '0'.toNat)) 0)
  else none

/-- Numbers in decimal digits, and exact products and quotients. -/
def decimalNumbers : Numbers α ℚ where
  float v := match v with
    | .str s => match decimal s with
      | some n => .ok n
      | none => .error (.error (.valueError
          ("could not convert string to float: '".toList ++ s ++ ['\''])))
    | _ => .error (.error .typeError)
  int v := match v with
    | .str s => match decimal s with
      | some n => .ok n
      | none => .error (.error (.valueError
          ("invalid literal for int() with base 10: '".toList ++ s ++ ['\''])))
    | _ => .error (.error .typeError)
  lit q := q
  mul x y := x * y
  quot x y := x / y
  isZero x := x = 0

/-- Data with the same text for every parameter. -/
def uniformData (token : Text) : ConfigData Empty :=
  Dict.ofPairs (configStructure.entries.map fun command =>
    (command.1, Dict.ofPairs (command.2.map fun p => (p, .str token))))

end RadarStream
