import RadarStream.Script.Grammar
import RadarStream.Script.Header

/-!
# The two input formats

A configuration gives a token to every parameter of every command. A text gives it
when each command has one line with its tokens and all other lines are noise; a
JSON object gives it when each command has an object with these keys, and values
that print as the tokens. Both parsers then arrive at the same values, so the
headers differ in the line that names the input file and the time.
-/

namespace RadarStream

/-- The token of each parameter of each command. -/
abbrev Configuration := Text → Text → Text

variable {α : Type}

/-- A line that `parse_cfg_file` is to skip: a comment, or one whose first word, if
it has words, is not a supported command. -/
def Noise (line : Text) : Prop :=
  startsWith (strip line) ['%'] = true ∨ ∀ cmd ∈ (split line).head?, cmd ∉ configStructure.keys

instance : DecidablePred Noise := fun _ => inferInstanceAs (Decidable (_ ∨ _))

def GivesCommand (conf : Configuration) (command : Text × List Text) (line : Text) : Prop :=
  split line = command.1 :: command.2.map (conf command.1)

instance (conf : Configuration) (command : Text × List Text) (line : Text) :
    Decidable (GivesCommand conf command line) := inferInstanceAs (Decidable (_ = _))

/-- A `.cfg` text that gives the configuration. -/
structure CfgGives (conf : Configuration) (content : Text) : Prop where
  lines : ∀ line ∈ readLines content,
    Noise line ∨ ∃ command ∈ configStructure.entries, GivesCommand conf command line
  once : ∀ command ∈ configStructure.entries,
    (readLines content).countP (GivesCommand conf command ·) = 1

/-- The members of a JSON object give this command. -/
def MembersGive (py : Python α) (conf : Configuration) (members : List (Text × Json α))
    (command : Text × List Text) : Prop :=
  ∃ params, (Dict.ofPairs members).get? command.1 = some (.dict params) ∧
    (∀ p, p ∈ (Dict.ofPairs params).keys ↔ p ∈ command.2) ∧
    ∀ p ∈ command.2, ∃ v, (Dict.ofPairs params).get? p = some v ∧ py.format v = conf command.1 p

/-- A `.json` text that gives the configuration. -/
def JsonGives (py : Python α) (conf : Configuration) (content : Text) : Prop :=
  ∃ members, py.jsonLoad content = .ok (.dict members) ∧
    ∀ command ∈ configStructure.entries, MembersGive py conf members command

/-- The data hold a command of the configuration. -/
def HoldsCommand (py : Python α) (conf : Configuration) (data : ConfigData α)
    (command : Text × List Text) : Prop :=
  ∃ params, data.get? command.1 = some params ∧
    ∀ p ∈ command.2, ∃ v, params.get? p = some v ∧ py.format v = conf command.1 p

/-- A loop whose steps keep what there is, and add what their element gives, collects
what the elements give. -/
theorem foldlM_collects {σ ε ι κ : Type} {f : σ → ι → Except ε σ} {items : List ι} {ks : List κ}
    (has : κ → σ → Prop) {gives : κ → ι → Prop}
    (hstep : ∀ i ∈ items, ∀ s, ∃ t, f s i = .ok t ∧ ∀ k ∈ ks, has k s ∨ gives k i → has k t)
    (s : σ) : ∃ t, items.foldlM f s = .ok t ∧
      ∀ k ∈ ks, has k s ∨ (∃ i ∈ items, gives k i) → has k t := by
  induction items generalizing s with
  | nil => exact ⟨s, rfl, fun _ _ h => h.resolve_right (by simp)⟩
  | cons i items ih =>
      obtain ⟨t, hrun, hkeep⟩ := hstep i List.mem_cons_self s
      obtain ⟨u, hrest, hcollect⟩ := ih (fun j hj => hstep j (List.mem_cons_of_mem _ hj)) t
      refine ⟨u, by rw [List.foldlM_cons, hrun]; exact hrest, fun k hk h => hcollect k hk ?_⟩
      rcases h with h | ⟨j, hj, h⟩
      · exact Or.inl (hkeep k hk (Or.inl h))
      · rcases List.mem_cons.mp hj with rfl | hj
        · exact Or.inl (hkeep k hk (Or.inr h))
        · exact Or.inr ⟨j, hj, h⟩

section Cfg

variable {conf : Configuration} {command : Text × List Text} {line : Text}

theorem Noise.not_occurs {cmd : Text} {vals : List Text} (h : Noise line) :
    ¬ Occurs line cmd vals := by
  intro hoccurs
  rcases h with hcomment | hwords
  · exact hoccurs.not_comment hcomment
  · exact hwords cmd (by rw [hoccurs.tokens]; rfl) hoccurs.supported

theorem GivesCommand.occurs (h : GivesCommand conf command line)
    (hmem : command ∈ configStructure.entries) :
    Occurs line command.1 (command.2.map (conf command.1)) :=
  occurs_iff.mpr ⟨h, List.mem_map_of_mem hmem⟩

def cfgParams (conf : Configuration) (command : Text × List Text) : Dict Text (Json α) :=
  Dict.ofPairs (command.2.zip ((command.2.map (conf command.1)).map .str))

theorem get?_cfgParams (hmem : command ∈ configStructure.entries) {p : Text}
    (hp : p ∈ command.2) :
    (cfgParams conf command : Dict Text (Json α)).get? p = some (.str (conf command.1 p)) := by
  have hpairs : command.2.zip ((command.2.map (conf command.1)).map Json.str) =
      command.2.map fun p => (p, (.str (conf command.1 p) : Json α)) := by
    rw [List.map_map, List.map_prod_left_eq_zip]
    rfl
  rw [cfgParams, hpairs]
  refine Dict.get?_ofPairs_of_mem ?_ (List.mem_map_of_mem hp)
  rw [List.map_map]
  simpa [Function.comp_def] using nodup_params hmem

theorem CfgGives.not_malformed {content : Text} (h : CfgGives conf content) :
    ∀ line ∈ readLines content, ¬ Malformed line := by
  rintro line hline ⟨cmd, vals, expected, hoccurs, hexpected, hlength⟩
  rcases h.lines line hline with hnoise | ⟨command, hmem, hgives⟩
  · exact hnoise.not_occurs hoccurs
  · obtain ⟨rfl, rfl⟩ := hoccurs.unique (hgives.occurs hmem)
    obtain rfl : expected = command.2 :=
      Option.some.inj (hexpected.symm.trans (get?_configStructure hmem))
    exact hlength (List.length_map _)

theorem CfgGives.lastGiven {content : Text} (h : CfgGives conf content)
    (hmem : command ∈ configStructure.entries) :
    LastGiven (readLines content) command.1 (command.2.map (conf command.1)) := by
  have hpos : 0 < (readLines content).countP (GivesCommand conf command ·) := by
    rw [h.once command hmem]
    exact Nat.one_pos
  obtain ⟨line, hline, hgives⟩ := List.countP_pos_iff.mp hpos
  obtain ⟨vals, hlast⟩ :=
    exists_lastGiven ⟨line, hline, (of_decide_eq_true hgives).occurs hmem⟩
  obtain ⟨line', hline', hoccurs⟩ := hlast.exists_occurs
  rcases h.lines line' hline' with hnoise | ⟨command', hmem', hgives'⟩
  · exact absurd hoccurs hnoise.not_occurs
  · obtain ⟨heq, rfl⟩ := hoccurs.unique (hgives'.occurs hmem')
    obtain rfl := command_eq_of_fst_eq hmem hmem' heq
    exact hlast

theorem parseCfgFile_cfgParams {content : Text} (h : CfgGives conf content) :
    ∃ data : ConfigData α, parseCfgFile content = .ok data ∧
      ∀ command ∈ configStructure.entries,
        data.get? command.1 = some (cfgParams conf command) := by
  obtain ⟨data, hrun, hreads⟩ := parseCfgFile_reads (α := α) h.not_malformed
  refine ⟨data, hrun, fun command hmem => ?_⟩
  refine (hreads _ _).mpr ⟨command.2, _, get?_configStructure hmem, h.lastGiven hmem, ?_⟩
  exact (holdsWords_ofPairs (List.length_map _) hmem).mpr rfl

theorem holdsCommand_of_cfgParams (py : Python α) {data : ConfigData α}
    (hmem : command ∈ configStructure.entries)
    (h : data.get? command.1 = some (cfgParams conf command)) :
    HoldsCommand py conf data command :=
  ⟨_, h, fun _ hp => ⟨_, get?_cfgParams hmem hp, rfl⟩⟩

end Cfg

section JsonFile

variable {py : Python α} {conf : Configuration} {members : List (Text × Json α)}
  {command : Text × List Text}

theorem mapM_lookup {params : Dict Text (Json α)} {expected : List Text}
    (h : ∀ p ∈ expected, ∃ v, params.get? p = some v) :
    ∃ items, (expected.mapM fun p => do return (p, ← lookup params p) : Except PyError _) =
        .ok items ∧ items.map Prod.fst = expected ∧ ∀ e ∈ items, params.get? e.1 = some e.2 := by
  induction expected with
  | nil => exact ⟨[], rfl, rfl, by simp⟩
  | cons p expected ih =>
      obtain ⟨v, hv⟩ := h p List.mem_cons_self
      obtain ⟨items, hrun, hkeys, hvalues⟩ := ih fun p hp => h p (List.mem_cons_of_mem _ hp)
      refine ⟨(p, v) :: items, ?_, by rw [List.map_cons, hkeys], ?_⟩
      · rw [List.mapM_cons, lookup_eq_ok_iff.mpr hv]
        simp only [hrun]
        rfl
      · intro e he
        rcases List.mem_cons.mp he with rfl | he
        · exact hv
        · exact hvalues e he

/-- A command that the object gives is set to values that print as its tokens. -/
theorem parseJsonCommand_of_gives (hcommand : command ∈ configStructure.entries)
    (h : MembersGive py conf members command) (data : ConfigData α) :
    ∃ params, parseJsonCommand py (.dict members) data command =
        .ok (data.set command.1 params) ∧
      ∀ p ∈ command.2, ∃ v, params.get? p = some v ∧ py.format v = conf command.1 p := by
  obtain ⟨params, hparams, hkeys, hvalues⟩ := h
  obtain ⟨items, hrun, hfst, hitems⟩ := mapM_lookup fun p hp => by
    obtain ⟨v, hv, _⟩ := hvalues p hp
    exact ⟨v, hv⟩
  have hcontains : (Json.dict members).contains command.1 = .ok true := by
    have hmem : command.1 ∈ (Dict.ofPairs members).keys := by
      by_contra hnot
      rw [(Dict.get?_eq_none_iff _ _).mpr hnot] at hparams
      cases hparams
    simp [Json.contains, hmem]
  have hget : (Json.dict members).getItem command.1 = .ok (.dict params) :=
    lookup_eq_ok_iff.mpr hparams
  refine ⟨Dict.ofPairs items, ?_, fun p hp => ?_⟩
  · have hsame : (∀ p ∈ (Dict.ofPairs params).keys, p ∈ command.2) ∧
        ∀ p ∈ command.2, p ∈ (Dict.ofPairs params).keys :=
      ⟨fun p => (hkeys p).mp, fun p => (hkeys p).mpr⟩
    have hread : parseJsonParams py command.1 command.2 (.dict params) =
        .ok (Dict.ofPairs items) := by
      simp only [parseJsonParams, if_pos hsame, hrun]
      rfl
    simp only [parseJsonCommand, hcontains, hget]
    change (do return data.set command.1 (← parseJsonParams py command.1 command.2 (.dict params)) :
      Except PyError (ConfigData α)) = _
    rw [hread]
    rfl
  · obtain ⟨v, hv, hformat⟩ := hvalues p hp
    obtain ⟨e, he, rfl⟩ : ∃ e ∈ items, e.1 = p := by
      rw [← hfst] at hp
      exact List.mem_map.mp hp
    have hnodup : (items.map Prod.fst).Nodup := hfst ▸ nodup_params hcommand
    obtain rfl : v = e.2 := Option.some.inj (hv.symm.trans (hitems e he))
    exact ⟨e.2, Dict.get?_ofPairs_of_mem hnodup he, hformat⟩

theorem parseJsonFile_holds {content : Text} (h : JsonGives py conf content) :
    ∃ data, parseJsonFile py content = .ok data ∧
      ∀ command ∈ configStructure.entries, HoldsCommand py conf data command := by
  obtain ⟨members, hload, hmembers⟩ := h
  have hstep : ∀ given ∈ configStructure.entries, ∀ data, ∃ data',
      parseJsonCommand py (.dict members) data given = .ok data' ∧
        ∀ command ∈ configStructure.entries,
          HoldsCommand py conf data command ∨ command = given →
            HoldsCommand py conf data' command := by
    intro given hgiven data
    obtain ⟨params, hrun, hvalues⟩ := parseJsonCommand_of_gives hgiven (hmembers given hgiven) data
    refine ⟨_, hrun, fun command hcommand h => ?_⟩
    rw [HoldsCommand, Dict.get?_set]
    by_cases heq : given.1 = command.1
    · obtain rfl := command_eq_of_fst_eq hgiven hcommand heq
      rw [if_pos rfl]
      exact ⟨params, rfl, hvalues⟩
    · rw [if_neg heq]
      exact h.resolve_right fun h => heq (h ▸ rfl)
  obtain ⟨data, hrun, hcollect⟩ := foldlM_collects
    (fun command data => HoldsCommand py conf data command) hstep (Dict.empty : ConfigData α)
  refine ⟨data, ?_, fun command hcommand =>
    hcollect command hcommand (Or.inr ⟨command, hcommand, rfl⟩)⟩
  rw [parseJsonFile, hload]
  exact hrun

end JsonFile

section Render

variable {py : Python α} {conf : Configuration} {data : ConfigData α} {args : HeaderArgs}

def Piece.expand (conf : Configuration) (args : HeaderArgs) : Piece → Text
  | .lit s => s.toList
  | .guard => guardMacro
  | .headerName => definesHeaderName
  | .scriptName => args.scriptName
  | .baseInput => args.baseInput
  | .timestamp => args.timestamp
  | .param cmd p => conf cmd.toList p.toList

def Line.expand (conf : Configuration) (args : HeaderArgs) (line : Line) : Text :=
  (line.map (Piece.expand conf args)).flatten ++ ['\n']

def Piece.Supported : Piece → Prop
  | .param cmd p => ∃ command ∈ configStructure.entries,
      command.1 = cmd.toList ∧ p.toList ∈ command.2
  | _ => True

instance : DecidablePred Piece.Supported
  | .param _ _ => inferInstanceAs (Decidable (∃ command ∈ _, _))
  | .lit _ | .guard | .headerName | .scriptName | .baseInput | .timestamp => .isTrue trivial

def Piece.Fixed : Piece → Prop
  | .scriptName | .baseInput | .timestamp => False
  | _ => True

instance : DecidablePred Piece.Fixed
  | .scriptName | .baseInput | .timestamp => .isFalse id
  | .lit _ | .guard | .headerName | .param _ _ => .isTrue trivial

theorem supported_of_mem_headerLines :
    ∀ line ∈ headerLines, ∀ piece ∈ line, piece.Supported := by
  decide

theorem fixed_of_mem : ∀ line ∈ linesAbove ++ linesBelow, ∀ piece ∈ line, piece.Fixed := by
  decide

theorem mapM_of_ok {ε ι κ : Type} {f : ι → Except ε κ} {g : ι → κ} {items : List ι}
    (h : ∀ i ∈ items, f i = .ok (g i)) : items.mapM f = .ok (items.map g) := by
  induction items with
  | nil => rfl
  | cons i items ih =>
      rw [List.mapM_cons, h i List.mem_cons_self, ih fun j hj => h j (List.mem_cons_of_mem _ hj)]
      rfl

theorem Piece.render_of_holds {piece : Piece} (hpiece : piece.Supported)
    (hdata : ∀ command ∈ configStructure.entries, HoldsCommand py conf data command) :
    piece.render py data args = .ok (piece.expand conf args) := by
  cases piece with
  | param cmd p =>
      obtain ⟨command, hcommand, hcmd, hp⟩ := hpiece
      obtain ⟨params, hparams, hvalues⟩ := hdata command hcommand
      obtain ⟨v, hv, hformat⟩ := hvalues p.toList hp
      rw [hcmd] at hparams hformat
      rw [Piece.render, lookup_eq_ok_iff.mpr hparams]
      change (do return py.format (← lookup params p.toList) : Except PyError Text) = _
      rw [lookup_eq_ok_iff.mpr hv]
      exact congrArg Except.ok hformat
  | _ => rfl

/-- Data that hold every command make the header of the configuration. -/
theorem definesContent_of_holds
    (hdata : ∀ command ∈ configStructure.entries, HoldsCommand py conf data command) :
    definesContent py data args =
      .ok (headerLines.map (Line.expand conf args)).flatten := by
  have hline : ∀ line ∈ headerLines, Line.render py data args line =
      .ok (Line.expand conf args line) := by
    intro line hline
    rw [Line.render, mapM_of_ok fun piece hpiece =>
      Piece.render_of_holds (supported_of_mem_headerLines line hline piece hpiece) hdata]
    rfl
  rw [definesContent, mapM_of_ok hline]
  rfl

theorem Line.expand_of_fixed {line : Line} (h : ∀ piece ∈ line, piece.Fixed)
    (args args' : HeaderArgs) : Line.expand conf args line = Line.expand conf args' line := by
  have hpiece : ∀ piece ∈ line, piece.expand conf args = piece.expand conf args' := by
    intro piece hpiece
    cases piece with
    | scriptName | baseInput | timestamp => exact (h _ hpiece).elim
    | _ => rfl
  rw [Line.expand, Line.expand, List.map_congr_left hpiece]

/-- The header is the same for all arguments, but for the line of the file. -/
theorem expand_headerLines (conf : Configuration) (args args' : HeaderArgs) :
    (headerLines.map (Line.expand conf args')).flatten =
      (linesAbove.map (Line.expand conf args)).flatten ++ Line.expand conf args' fileLine ++
        (linesBelow.map (Line.expand conf args)).flatten := by
  have habove : linesAbove.map (Line.expand conf args') = linesAbove.map (Line.expand conf args) :=
    List.map_congr_left fun line hline =>
      Line.expand_of_fixed (fixed_of_mem line (List.mem_append_left _ hline)) _ _
  have hbelow : linesBelow.map (Line.expand conf args') = linesBelow.map (Line.expand conf args) :=
    List.map_congr_left fun line hline =>
      Line.expand_of_fixed (fixed_of_mem line (List.mem_append_right _ hline)) _ _
  rw [headerLines, List.map_append, List.map_cons, habove, hbelow,
    List.flatten_append, List.flatten_cons, List.append_assoc]

end Render

section Files

variable {py : Python α} {conf : Configuration} {files : Text → Option Text} {path content : Text}

theorem parseConfigFile_cfg (hpath : endsWith path ".cfg".toList = true)
    (hfile : files path = some content) : parseConfigFile py files path = parseCfgFile content := by
  rw [parseConfigFile, if_pos hpath, openText, hfile]
  rfl

theorem not_json_of_cfg (hcfg : endsWith path ".cfg".toList = true) :
    ¬ endsWith path ".json".toList = true := by
  intro hjson
  rw [endsWith, List.isSuffixOf_iff_suffix] at hcfg hjson
  have hboth := List.suffix_of_suffix_length_le hcfg hjson (by decide)
  revert hboth
  decide

theorem parseConfigFile_json (hpath : endsWith path ".json".toList = true)
    (hfile : files path = some content) :
    parseConfigFile py files path = parseJsonFile py content := by
  have hother : ¬ endsWith path ".cfg".toList = true := fun hcfg => not_json_of_cfg hcfg hpath
  rw [parseConfigFile, if_neg hother, if_pos hpath, openText, hfile]
  rfl

end Files

/-- A `.cfg` text and a `.json` text that give the same configuration make the same
header, the lines of the header with the tokens of the configuration, apart from the line
that names the input file and the time. -/
theorem formats_agree (py : Python α) (conf : Configuration) (files : Text → Option Text)
    {cfgPath jsonPath cfgContent jsonContent : Text}
    (hcfgPath : endsWith cfgPath ".cfg".toList = true) (hcfgFile : files cfgPath = some cfgContent)
    (hcfg : CfgGives conf cfgContent) (hjsonPath : endsWith jsonPath ".json".toList = true)
    (hjsonFile : files jsonPath = some jsonContent) (hjson : JsonGives py conf jsonContent)
    (cfgArgs jsonArgs : HeaderArgs) :
    let above := (linesAbove.map (Line.expand conf cfgArgs)).flatten
    let below := (linesBelow.map (Line.expand conf cfgArgs)).flatten
    configHeader py files cfgPath cfgArgs =
        .ok (above ++ Line.expand conf cfgArgs fileLine ++ below) ∧
      configHeader py files jsonPath jsonArgs =
        .ok (above ++ Line.expand conf jsonArgs fileLine ++ below) := by
  obtain ⟨cfgData, hcfgRun, hcfgParams⟩ := parseCfgFile_cfgParams (α := α) hcfg
  have hcfgData : ∀ command ∈ configStructure.entries, HoldsCommand py conf cfgData command :=
    fun command hmem => holdsCommand_of_cfgParams py hmem (hcfgParams command hmem)
  obtain ⟨jsonData, hjsonRun, hjsonData⟩ := parseJsonFile_holds hjson
  have hheader := expand_headerLines conf cfgArgs
  refine ⟨?_, ?_⟩
  · rw [configHeader, parseConfigFile_cfg hcfgPath hcfgFile, hcfgRun]
    exact (definesContent_of_holds hcfgData).trans (congrArg Except.ok (hheader cfgArgs))
  · rw [configHeader, parseConfigFile_json hjsonPath hjsonFile, hjsonRun]
    exact (definesContent_of_holds hjsonData).trans (congrArg Except.ok (hheader jsonArgs))

def lengthConfiguration : Configuration := fun _ p => digits p.length

def lengthCfg : Text :=
  "% lengths\n\n".toList ++ (configStructure.entries.reverse.flatMap fun command =>
    command.1 ++ command.2.flatMap (fun p => "  ".toList ++ digits p.length) ++ ['\n']) ++
      "guiMonitor 2 1\n".toList

def lengthParams (command : Text × List Text) : Json ℕ :=
  .dict (command.2.reverse.map fun p => (p, .atom p.length))

def lengthMembers : List (Text × Json ℕ) :=
  ("guiMonitor".toList, .atom 2) ::
    configStructure.entries.map fun command => (command.1, lengthParams command)

def objectText (members : List (Text × Text)) : Text :=
  '\x7b' :: ((members.map fun m => '"' :: m.1 ++ "\": ".toList ++ m.2).intersperse
    ", ".toList).flatten ++ ['\x7d']

def lengthJson : Text :=
  objectText (("guiMonitor".toList, digits 2) :: configStructure.entries.map fun command =>
    (command.1, objectText (command.2.reverse.map fun p => (p, digits p.length))))

def lengthPython : Python ℕ where
  jsonLoad content := if content = lengthJson then .ok (.dict lengthMembers)
    else .error (.valueError [])
  str v := match v with
    | .atom n => digits n
    | _ => []
  repr s := '"' :: s ++ ['"']

theorem cfgGives_lengthCfg : CfgGives lengthConfiguration lengthCfg := by
  constructor
  · decide +kernel
  · decide +kernel

theorem jsonGives_lengthJson : JsonGives lengthPython lengthConfiguration lengthJson := by
  have hload : lengthPython.jsonLoad lengthJson = .ok (.dict lengthMembers) := by
    simp only [lengthPython, if_true]
  refine ⟨lengthMembers, hload, fun command hcommand => ?_⟩
  have hnodup : (lengthMembers.map Prod.fst).Nodup := by decide +kernel
  have hmem : (command.1, lengthParams command) ∈ lengthMembers :=
    List.mem_cons_of_mem _ (List.mem_map_of_mem hcommand)
  have hfst : (command.2.reverse.map fun p => (p, (.atom p.length : Json ℕ))).map Prod.fst =
      command.2.reverse := by
    simp [Function.comp_def]
  refine ⟨_, Dict.get?_ofPairs_of_mem hnodup hmem, fun p => ?_, fun p hp => ?_⟩
  · rw [Dict.mem_keys_ofPairs, hfst, List.mem_reverse]
  · refine ⟨.atom p.length, Dict.get?_ofPairs_of_mem ?_ ?_, rfl⟩
    · rw [hfst]
      exact List.nodup_reverse.mpr (nodup_params hcommand)
    · exact List.mem_map_of_mem (List.mem_reverse.mpr hp)

def lengthFiles : Text → Option Text := fun path =>
  if path = "a.cfg".toList then some lengthCfg
  else if path = "b.json".toList then some lengthJson
  else none

theorem formats_agree_length : ∃ above below,
    configHeader lengthPython lengthFiles "a.cfg".toList ⟨[], "a.cfg".toList, []⟩ =
        .ok (above ++ Line.expand lengthConfiguration ⟨[], "a.cfg".toList, []⟩ fileLine ++ below) ∧
      configHeader lengthPython lengthFiles "b.json".toList ⟨[], "b.json".toList, []⟩ =
        .ok (above ++ Line.expand lengthConfiguration ⟨[], "b.json".toList, []⟩ fileLine ++
          below) :=
  ⟨_, _, formats_agree lengthPython lengthConfiguration lengthFiles (by decide) (if_pos rfl)
    cfgGives_lengthCfg (by decide) (by rw [lengthFiles, if_neg (by decide), if_pos rfl])
    jsonGives_lengthJson _ _⟩

end RadarStream
