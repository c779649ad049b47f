import RadarStream.Script.Main

/-!
# A header or no header

`main` checks the input, the target and the data before it writes, but
`print_basic_config_info` converts and divides behind the write. A configuration
whose summary raises leaves its header in place although the script fails.
-/

namespace RadarStream

open Paths

variable {α F β : Type}

/-- A call that fails changes no file, and one that changes a file writes the complete
header and ends normally. -/
structure AllOrNothing (host : Host α F β) (inv : Invocation) (fs : FileTree β) : Prop where
  failed : ∀ e t, runMain host inv fs = .error e t → e ≠ .exit 0 → t.fs = fs
  changed : (endWorld (runMain host inv fs)).fs ≠ fs →
    ∃ t args content path loc, ∃ hfile : ¬ fs.isDirAt loc = true,
      runMain host inv fs = .ok ⟨⟩ t ∧ inv.args = some args ∧
      configHeader host.py (host.files fs) args.input (inv.headerArgs args) = .ok content ∧
      .wrote path ∈ t.log ∧ fs.locate path = some loc ∧
      t.fs = fs.put loc (host.encode content) hfile

/-- If `main` gets to the write, the summary can be printed, or the header is there
already. -/
def SummaryPrintable (host : Host α F β) (inv : Invocation) (fs : FileTree β) : Prop :=
  ∀ args data content loc, Reaches host inv fs args data content loc →
    Usable host.num data ∨ fs.fileAt loc = some (host.encode content)

section Ends

variable {host : Host α F β} {inv : Invocation} {fs : FileTree β} {args : Args}
  {data : ConfigData α} {content : Text} {loc : Location} {w : World β F}

theorem Headed.fs_eq_iff (h : Headed host inv fs args data content loc w) :
    w.fs = fs ↔ fs.fileAt loc = some (host.encode content) := by
  rw [h.fs_eq]
  exact FileTree.put_eq_self_iff _ _

theorem Reaches.configHeader (h : Reaches host inv fs args data content loc) :
    configHeader host.py (host.files fs) args.input (inv.headerArgs args) = .ok content := by
  rw [RadarStream.configHeader, h.parsed]
  exact h.built

theorem allOrNothing_of_reaches (h : Reaches host inv fs args data content loc)
    (hprint : Usable host.num data ∨ fs.fileAt loc = some (host.encode content)) :
    AllOrNothing host inv fs := by
  rcases h.end_run with ⟨-, t, hrun, ht⟩ | ⟨hnot, e, t, hrun, -, ht⟩
  · constructor
    · intro e t' herror
      exact absurd (hrun.symm.trans herror) (by simp)
    · intro _
      exact ⟨t, args, content, _, loc, h.not_dir, hrun, h.args_parsed, h.configHeader, ht.wrote,
        h.located, ht.fs_eq⟩
  · have hsame : t.fs = fs := ht.fs_eq_iff.mpr (hprint.resolve_left hnot)
    constructor
    · intro e' t' herror _
      obtain ⟨rfl, rfl⟩ := EStateM.Result.error.inj (hrun.symm.trans herror)
      exact hsame
    · intro hchanged
      rw [hrun] at hchanged
      exact absurd hsame hchanged

theorem allOrNothing_of_quiet (hquiet : Quiet fs (endWorld (runMain host inv fs))) :
    AllOrNothing host inv fs := by
  constructor
  · intro e t herror _
    rw [herror] at hquiet
    exact hquiet.fs_eq
  · intro hchanged
    exact absurd hquiet.fs_eq hchanged

theorem allOrNothing_of_summaryPrintable (hprint : SummaryPrintable host inv fs) :
    AllOrNothing host inv fs := by
  rcases reaches_or_quiet host inv fs with ⟨args, data, content, loc, h⟩ | hquiet
  · exact allOrNothing_of_reaches h (hprint _ _ _ _ h)
  · exact allOrNothing_of_quiet hquiet

theorem summaryPrintable_of_allOrNothing (hall : AllOrNothing host inv fs) :
    SummaryPrintable host inv fs := by
  intro args data content loc h
  rcases h.end_run with ⟨husable, -⟩ | ⟨-, e, t, hrun, hcode, ht⟩
  · exact .inl husable
  · exact .inr (ht.fs_eq_iff.mp (hall.failed e t hrun (hcode 0)))

end Ends

/-- In every world a call is all or nothing exactly when no header is written whose
summary cannot be printed. -/
theorem allOrNothing_iff (host : Host α F β) (inv : Invocation) (fs : FileTree β) :
    AllOrNothing host inv fs ↔ SummaryPrintable host inv fs :=
  ⟨summaryPrintable_of_allOrNothing, allOrNothing_of_summaryPrintable⟩

section Zero

theorem getParam_of_cfgParams {conf : Configuration} {data : ConfigData α} {cmd p : Text}
    {expected : List Text}
    (hdata : ∀ command ∈ configStructure.entries,
      data.get? command.1 = some (cfgParams conf command))
    (hcmd : configStructure.get? cmd = some expected) (hp : p ∈ expected) :
    getParam data cmd p = .ok (.str (conf cmd p)) := by
  have hmem := configStructure.mem_of_get? hcmd
  exact getParam_eq_ok_iff.mpr ⟨_, hdata _ hmem, get?_cfgParams hmem hp⟩

def zeroConfiguration : Configuration := fun _ _ => "0".toList

def zeroCfg : Text :=
  configStructure.entries.flatMap fun command =>
    command.1 ++ command.2.flatMap (fun _ => " 0".toList) ++ ['\n']

theorem cfgGives_zeroCfg : CfgGives zeroConfiguration zeroCfg := by
  constructor
  · decide +kernel
  · decide +kernel

/-- Without a slope there is no bandwidth to divide by. -/
theorem not_usable_zero {data : ConfigData ℕ}
    (hdata : ∀ command ∈ configStructure.entries,
      data.get? command.1 = some (cfgParams zeroConfiguration command)) :
    ¬ Usable decimalNumbers data := by
  rintro ⟨⟨slope, ramp, s, r, hslope, hs, hramp, hr, hzero⟩, -⟩
  have hslope' : getParam data "chirpTimingCfg".toList "chirpRfFreqSlope".toList =
      .ok (.str "0".toList) := getParam_of_cfgParams hdata rfl (by decide)
  obtain rfl := Except.ok.inj (hslope.symm.trans hslope')
  obtain rfl : (0 : ℚ) = s := Except.ok.inj hs
  simp [decimalNumbers, bandwidthHz] at hzero

def zeroFiles : Text → Option Text := fun name =>
  if name = "a.cfg".toList then some zeroCfg else none

def zeroArgs : Args := ⟨some "a.cfg".toList, some "./defines.h".toList, false⟩

/-- `chirp_config_to_defines.py a.cfg -o ./defines.h` -/
def zeroCall : Invocation where
  args := some zeroArgs
  argv0 := "chirp_config_to_defines.py".toList
  answer := none
  timestamp := []

/-- The division by a zero bandwidth leaves a new header behind. -/
theorem not_allOrNothing_zeroCall : ¬ AllOrNothing sampleHost zeroCall (rootTree zeroFiles) := by
  intro hall
  have hargs : zeroCall.args = some zeroArgs := rfl
  have hfile : sampleHost.files (rootTree zeroFiles) zeroArgs.input = some zeroCfg := rfl
  have hnew : ¬ (rootTree zeroFiles).isEntry (desiredPath zeroCall (rootTree zeroFiles)
      zeroArgs) = true := by decide
  have hloc : (rootTree zeroFiles).locate (targetPath zeroCall (rootTree zeroFiles) zeroArgs) =
      some ["defines.h".toList] := by decide
  obtain ⟨data, content, h, hdata⟩ := exists_reaches_of_cfgGives cfgGives_zeroCfg hargs rfl
    (by decide) hfile (fun _ h => absurd h hnew) hloc (by decide)
  rcases summaryPrintable_of_allOrNothing hall _ _ _ _ h with husable | hthere
  · exact not_usable_zero hdata husable
  · exact absurd (show (none : Option Text) = _ from hthere) (by simp)

end Zero

end RadarStream
