import RadarStream.Script.JsonGrammar
import RadarStream.Script.Main

/-!
# What an input file leads to

What the parsers accept they hand on with all parameters of a command, so a header is
made exactly when no command is missing, and a `KeyError` names the first one that is
missing in the order of the header. With it `main_outcome` tells for every call, from the
text of the input file, whether it writes a header, and how it stops when it does not.
-/

namespace RadarStream

open FailStop FirstFailure Paths

variable {α F β : Type}

section Data

variable {py : Python α} {data : ConfigData α} {args : HeaderArgs} {e : PyError}

/-- Each command has the parameters of `CONFIG_STRUCTURE`. -/
def WellFormed (data : ConfigData α) : Prop :=
  ∀ cmd params, data.get? cmd = some params →
    ∃ expected, (cmd, expected) ∈ configStructure.entries ∧ params.keys = expected

theorem Reads.wellFormed {lines : List Text} (h : Reads lines data) : WellFormed data := by
  intro cmd params hget
  obtain ⟨expected, vals, hexpected, -, hholds⟩ := (h cmd params).mp hget
  refine ⟨expected, configStructure.mem_of_get? hexpected, ?_⟩
  rw [Dict.keys, hholds.entries, List.map_fst_zip]
  rw [List.length_map, hholds.length]

theorem Reads.mem_keys_iff {lines : List Text} (h : Reads lines data)
    (hlines : ∀ line ∈ lines, ¬ Malformed line) {cmd : Text} :
    cmd ∈ data.keys ↔ ∃ line ∈ lines, ∃ vals, Occurs line cmd vals := by
  constructor
  · intro hmem
    obtain ⟨params, hget⟩ := Option.ne_none_iff_exists'.mp fun hnone =>
      (Dict.get?_eq_none_iff _ _).mp hnone hmem
    obtain ⟨-, vals, -, hlast, -⟩ := (h cmd params).mp hget
    obtain ⟨line, hline, hoccurs⟩ := hlast.exists_occurs
    exact ⟨line, hline, vals, hoccurs⟩
  · rintro ⟨line, hline, vals, hoccurs⟩
    obtain ⟨expected, hmem⟩ := exists_expected hoccurs.supported
    obtain ⟨vals', hlast⟩ := exists_lastGiven ⟨line, hline, hoccurs⟩
    obtain ⟨line', hline', hoccurs'⟩ := hlast.exists_occurs
    have hexpected := configStructure.get?_of_mem hmem
    have hlength : vals'.length = expected.length := by
      by_contra hne
      exact hlines line' hline' ⟨cmd, vals', expected, hoccurs', hexpected, hne⟩
    by_contra hnot
    have hget := (h cmd _).mpr ⟨expected, vals', hexpected, hlast,
      (holdsWords_ofPairs hlength hmem).mpr rfl⟩
    exact absurd (((Dict.get?_eq_none_iff _ _).mpr hnot).symm.trans hget) (by simp)

theorem JsonReads.wellFormed {cfg : Json α} (h : JsonReads cfg configStructure.entries data) :
    WellFormed data := by
  intro cmd params hget
  obtain ⟨expected, hmem, hgives⟩ := (h.gives cmd params).mp hget
  cases hgives with
  | dict _ _ hkeys _ => exact ⟨expected, hmem, hkeys⟩

end Data

section Header

variable {py : Python α} {data : ConfigData α} {args : HeaderArgs} {e : PyError}

def Piece.command? : Piece → Option String
  | .param cmd _ => some cmd
  | _ => none

/-- The commands in the order in which the header first takes a parameter of them. -/
def headerCommands : List String :=
  ["frameCfg", "chirpTimingCfg", "channelCfg", "chirpComnCfg", "factoryCalibCfg", "sensorStart"]

theorem commands_headerLines :
    (headerLines.flatten.filterMap Piece.command?).eraseDups = headerCommands := by
  decide

theorem toList_mem_keys : ∀ cmd ∈ headerCommands, cmd.toList ∈ configStructure.keys := by
  decide

theorem headerCommands_toList : ∀ cmd ∈ configStructure.keys, ∃ c ∈ headerCommands,
    c.toList = cmd := by
  decide

theorem lookup_eq_error_iff {β : Type} {d : Dict Text β} {key : Text} :
    lookup d key = .error e ↔ key ∉ d.keys ∧ e = .keyError key := by
  rw [lookup, ← Dict.get?_eq_none_iff]
  cases d.get? key <;> simp [eq_comm]

/-- A value in braces is missing with its command only. -/
theorem Piece.render_eq_error_iff (h : WellFormed data) {piece : Piece}
    (hpiece : piece.Supported) : piece.render py data args = .error e ↔
      ∃ cmd, piece.command? = some cmd ∧ cmd.toList ∉ data.keys ∧ e = .keyError cmd.toList := by
  cases piece with
  | param cmd p =>
      have hparam : ∀ params, data.get? cmd.toList = some params →
          ∃ v, lookup params p.toList = .ok v := by
        intro params hget
        obtain ⟨command, hcommand, hcmd, hp⟩ := hpiece
        obtain ⟨expected, hmem, hkeys⟩ := h _ _ hget
        obtain rfl := congrArg Prod.snd (command_eq_of_fst_eq hcommand hmem hcmd)
        obtain ⟨v, hv⟩ := Option.ne_none_iff_exists'.mp fun hnone =>
          (Dict.get?_eq_none_iff _ _).mp hnone (hkeys.symm ▸ hp)
        exact ⟨v, lookup_eq_ok_iff.mpr hv⟩
      rw [Piece.render, bind_eq_error_iff, lookup_eq_error_iff]
      simp only [Piece.command?, Option.some.injEq, exists_eq_left', lookup_eq_ok_iff]
      refine or_iff_left ?_
      rintro ⟨params, hget, hrest⟩
      obtain ⟨v, hv⟩ := hparam params hget
      rw [hv] at hrest
      cases hrest
  | _ =>
      constructor
      · intro hrender
        cases hrender
      · rintro ⟨_, hcmd, -⟩
        cases hcmd

theorem Line.render_eq_error_iff {line : Line} : Line.render py data args line = .error e ↔
    ∃ piece, First (Fails (Piece.render py data args)) line piece ∧
      piece.render py data args = .error e := by
  rw [Line.render, bind_pure_eq_error_iff, mapM_eq_error_iff]

theorem fails_line_iff {line : Line} : Fails (Line.render py data args) line ↔
    ∃ piece ∈ line, Fails (Piece.render py data args) piece := by
  rw [← exists_first_iff]
  constructor
  · rintro ⟨e, he⟩
    obtain ⟨piece, hfirst, -⟩ := Line.render_eq_error_iff.mp he
    exact ⟨piece, hfirst⟩
  · rintro ⟨piece, hfirst⟩
    obtain ⟨e, he⟩ := hfirst.holds
    exact ⟨e, Line.render_eq_error_iff.mpr ⟨piece, hfirst, he⟩⟩

theorem definesContent_eq_error_iff_piece : definesContent py data args = .error e ↔
    ∃ piece, First (Fails (Piece.render py data args)) headerLines.flatten piece ∧
      piece.render py data args = .error e := by
  rw [definesContent, bind_pure_eq_error_iff, mapM_eq_error_iff]
  simp only [first_flatten, Line.render_eq_error_iff,
    first_congr (P := Fails (Line.render py data args)) fun line _ => fails_line_iff]
  constructor
  · rintro ⟨line, hline, piece, hpiece, he⟩
    exact ⟨piece, ⟨line, hline, hpiece⟩, he⟩
  · rintro ⟨piece, ⟨line, hline, hpiece⟩, he⟩
    exact ⟨line, hline, piece, hpiece, he⟩

/-- The header is not made exactly when a command is missing; the exception names the
first one. -/
theorem definesContent_eq_error_iff (h : WellFormed data) : definesContent py data args =
    .error e ↔ ∃ cmd, First (fun cmd => cmd.toList ∉ data.keys) headerCommands cmd ∧
      e = .keyError cmd.toList := by
  have hsupported : ∀ piece ∈ headerLines.flatten, piece.Supported := by
    intro piece hpiece
    obtain ⟨line, hline, hmem⟩ := List.mem_flatten.mp hpiece
    exact supported_of_mem_headerLines line hline piece hmem
  have hfails : ∀ piece ∈ headerLines.flatten, Fails (Piece.render py data args) piece ↔
      HasValue Piece.command? (fun cmd => cmd.toList ∉ data.keys) piece := by
    intro piece hpiece
    simp only [Fails, Piece.render_eq_error_iff h (hsupported piece hpiece), HasValue]
    constructor
    · rintro ⟨_, cmd, hcmd, hmissing, -⟩
      exact ⟨cmd, hcmd, hmissing⟩
    · rintro ⟨cmd, hcmd, hmissing⟩
      exact ⟨_, cmd, hcmd, hmissing, rfl⟩
  rw [definesContent_eq_error_iff_piece, ← commands_headerLines]
  simp only [first_eraseDups, first_filterMap, first_congr hfails]
  constructor
  · rintro ⟨piece, hfirst, he⟩
    obtain ⟨cmd, hcmd, -, rfl⟩ :=
      (Piece.render_eq_error_iff h (hsupported piece hfirst.mem)).mp he
    exact ⟨cmd, ⟨piece, hfirst, hcmd⟩, rfl⟩
  · rintro ⟨cmd, ⟨piece, hfirst, hcmd⟩, rfl⟩
    obtain ⟨cmd', hcmd', hmissing⟩ := hfirst.holds
    obtain rfl := Option.some.inj (hcmd.symm.trans hcmd')
    exact ⟨piece, hfirst, (Piece.render_eq_error_iff h (hsupported piece hfirst.mem)).mpr
      ⟨cmd, hcmd, hmissing, rfl⟩⟩

theorem exists_definesContent_iff (h : WellFormed data) :
    (∃ content, definesContent py data args = .ok content) ↔
      ∀ cmd ∈ configStructure.keys, cmd ∈ data.keys := by
  have hall : (∀ cmd ∈ configStructure.keys, cmd ∈ data.keys) ↔
      ¬ ∃ cmd ∈ headerCommands, cmd.toList ∉ data.keys := by
    rw [not_exists]
    constructor
    · rintro hkeys cmd ⟨hcmd, hmissing⟩
      exact hmissing (hkeys _ (toList_mem_keys cmd hcmd))
    · intro hnone cmd hcmd
      obtain ⟨c, hc, rfl⟩ := headerCommands_toList cmd hcmd
      exact not_not.mp fun hmissing => hnone c ⟨hc, hmissing⟩
  rw [hall, ← exists_first_iff]
  cases hcontent : definesContent py data args with
  | ok content =>
      refine iff_of_true ⟨content, rfl⟩ fun ⟨cmd, hfirst⟩ => ?_
      have herror : definesContent py data args = .error (.keyError cmd.toList) :=
        (definesContent_eq_error_iff h).mpr ⟨cmd, hfirst, rfl⟩
      exact absurd (hcontent.symm.trans herror) (by simp)
  | error e =>
      obtain ⟨cmd, hfirst, -⟩ := (definesContent_eq_error_iff h).mp hcontent
      exact iff_of_false (by simp) fun hnone => hnone ⟨cmd, hfirst⟩

end Header

section Input

variable (host : Host α F β) (fs : FileTree β) (args : Args)

/-- The input is a text without malformed lines, or a JSON value that is refused at no
command. -/
def Accepted : Prop :=
  ∃ text, host.files fs args.input = some text ∧
    (endsWith args.input ".cfg".toList = true ∧ (∀ line ∈ readLines text, ¬ Malformed line) ∨
      endsWith args.input ".json".toList = true ∧ ∃ cfg, host.py.jsonLoad text = .ok cfg ∧
        ∀ command ∈ configStructure.entries,
          cfg.Lacks command.1 ∨ ∃ params, cfg.Gives command params)

/-- The input has this command. -/
def Offers (cmd : Text) : Prop :=
  ∃ text, host.files fs args.input = some text ∧
    (endsWith args.input ".cfg".toList = true ∧
        (∃ line ∈ readLines text, ∃ vals, Occurs line cmd vals) ∨
      endsWith args.input ".json".toList = true ∧ ∃ cfg, host.py.jsonLoad text = .ok cfg ∧
        ∃ expected params, (cmd, expected) ∈ configStructure.entries ∧
          cfg.Gives (cmd, expected) params)

/-- Data that the parsers make of the input. -/
structure Parsed (data : ConfigData α) : Prop where
  parsed : parseConfigFile host.py (host.files fs) args.input = .ok data
  wellFormed : WellFormed data
  offers : ∀ cmd, cmd ∈ data.keys ↔ Offers host fs args cmd

variable {host fs args} {data : ConfigData α}

theorem parsed_of_accepted (h : Accepted host fs args) :
    ∃ data, Parsed host fs args data := by
  obtain ⟨text, hfile, ⟨hpath, hlines⟩ | ⟨hpath, cfg, hload, hanswered⟩⟩ := h
  · obtain ⟨data, hrun, hreads⟩ := parseCfgFile_reads (α := α) hlines
    refine ⟨data, (parseConfigFile_cfg hpath hfile).trans hrun, hreads.wellFormed, fun cmd => ?_⟩
    rw [hreads.mem_keys_iff hlines]
    constructor
    · exact fun hoccurs => ⟨text, hfile, .inl ⟨hpath, hoccurs⟩⟩
    · rintro ⟨text', hfile', ⟨-, hoccurs⟩ | ⟨hjson, -⟩⟩
      · obtain rfl := Option.some.inj (hfile.symm.trans hfile')
        exact hoccurs
      · exact absurd hjson (not_json_of_cfg hpath)
  · obtain ⟨data, hrun, hreads⟩ := parseJsonFile_reads host.py text hload hanswered
    refine ⟨data, (parseConfigFile_json hpath hfile).trans hrun, hreads.wellFormed, fun cmd => ?_⟩
    rw [hreads.mem_keys_iff]
    constructor
    · exact fun hgives => ⟨text, hfile, .inr ⟨hpath, cfg, hload, hgives⟩⟩
    · rintro ⟨text', hfile', ⟨hcfg, -⟩ | ⟨-, cfg', hload', hgives⟩⟩
      · exact absurd hpath (not_json_of_cfg hcfg)
      · obtain rfl := Option.some.inj (hfile.symm.trans hfile')
        obtain rfl := Except.ok.inj (hload.symm.trans hload')
        exact hgives

theorem openText_eq_ok_iff {files : Text → Option Text} {path text : Text} :
    openText files path = .ok text ↔ files path = some text := by
  rw [openText]
  cases files path <;> simp

theorem accepted_of_parsed
    (h : parseConfigFile host.py (host.files fs) args.input = .ok data) :
    Accepted host fs args := by
  rw [parseConfigFile] at h
  split at h
  · rename_i hpath
    obtain ⟨text, htext, hrun⟩ := bind_eq_ok_iff.mp h
    refine ⟨text, openText_eq_ok_iff.mp htext, .inl ⟨hpath, fun line hline hbad => ?_⟩⟩
    obtain ⟨message, hraise⟩ := parseCfgFile_rejects (α := α) ⟨line, hline, hbad⟩
    exact absurd (hrun.symm.trans hraise) (by simp)
  · split at h
    · rename_i hpath
      obtain ⟨text, htext, hrun⟩ := bind_eq_ok_iff.mp h
      obtain ⟨cfg, hload, hreads⟩ := (parseJsonFile_eq_ok_iff host.py text).mp hrun
      exact ⟨text, openText_eq_ok_iff.mp htext, .inr ⟨hpath, cfg, hload, hreads.answered⟩⟩
    · cases h

end Input

section Stops

variable (host : Host α F β) (inv : Invocation) (fs : FileTree β)

/-- The call asks for a header, of an input with some command. -/
structure Asks (args : Args) : Prop where
  args_parsed : inv.args = some args
  no_help : args.help = false
  input_given : args.input ≠ []
  accepted : Accepted host fs args
  offers_some : ∃ cmd, Offers host fs args cmd

def Missing (args : Args) (cmd : String) : Prop := ¬ Offers host fs args cmd.toList

/-- How a call stops that writes nothing. The conditions exclude each other. -/
inductive Stops : ScriptStop → Prop
  | commandLine (h : inv.args = none) : Stops (.exit 2)
  | usage {args : Args} (hargs : inv.args = some args) (h : args.help = true ∨ args.input = []) :
      Stops (.exit 0)
  | rejected {args : Args} (hargs : inv.args = some args) (hhelp : args.help = false)
      (hinput : args.input ≠ []) (h : ¬ Accepted host fs args) : Stops (.exit 1)
  | empty {args : Args} (hargs : inv.args = some args) (hhelp : args.help = false)
      (hinput : args.input ≠ []) (h : Accepted host fs args)
      (hnone : ∀ cmd, ¬ Offers host fs args cmd) : Stops (.exit 1)
  | refused {args : Args} (h : Asks host inv fs args) (hanswer : inv.answer ≠ none)
      (hno : ¬ Approved inv fs args) : Stops (.exit 1)
  | noAnswer {args : Args} (h : Asks host inv fs args) (hanswer : inv.answer = none)
      (hno : ¬ Approved inv fs args) : Stops (.raised .eofError)
  | missing {args : Args} {cmd : String} (h : Asks host inv fs args) (hyes : Approved inv fs args)
      (hfirst : First (Missing host fs args) headerCommands cmd) :
      Stops (.raised (.error (.keyError cmd.toList)))
  | noPlace {args : Args} (h : Asks host inv fs args) (hyes : Approved inv fs args)
      (hall : ∀ cmd ∈ configStructure.keys, Offers host fs args cmd)
      (hplace : ∀ loc, fs.locate (targetPath inv fs args) = some loc → fs.isDirAt loc = true) :
      Stops (.raised (.error .osError))

variable {host inv fs} {args : Args} {data : ConfigData α} {content path : Text} {w : World β F}

theorem parsed_of_parse (h : parseConfigFile host.py (host.files fs) args.input = .ok data) :
    Parsed host fs args data := by
  obtain ⟨data', h'⟩ := parsed_of_accepted (accepted_of_parsed h)
  obtain rfl := Except.ok.inj (h.symm.trans h'.parsed)
  exact h'

theorem Parsed.entries_eq_nil_iff (h : Parsed host fs args data) :
    data.entries = [] ↔ ∀ cmd, ¬ Offers host fs args cmd := by
  simp only [← h.offers, ← List.eq_nil_iff_forall_not_mem, Dict.keys, List.map_eq_nil_iff]

variable (inv) in
theorem Parsed.complete_iff (h : Parsed host fs args data) :
    (∃ content, definesContent host.py data (inv.headerArgs args) = .ok content) ↔
      ∀ cmd ∈ configStructure.keys, Offers host fs args cmd := by
  simp only [exists_definesContent_iff h.wellFormed, h.offers]

theorem checkInput_exit : Ends (checkInput inv args) w (fun _ _ => True)
    (fun e _ => e = .exit 0) := by
  rw [checkInput]
  refine .ite (fun _ => ?_) fun _ => .pure trivial
  exact .bind_run (emit_run _ _) (.throw rfl)

theorem readConfig_exit : Ends (readConfig host path) w (fun _ _ => True)
    (fun e _ => e = .exit 1) := by
  rw [readConfig]
  refine .bind_run (get_run _) ?_
  cases parseConfigFile host.py (host.files w.fs) path with
  | error e => exact .bind_run (emit_run _ _) (.throw rfl)
  | ok data =>
      refine .ite (fun _ => ?_) fun _ => .pure trivial
      exact .bind_run (emit_run _ _) (.throw rfl)

theorem askOverwrite_exit : Ends (askOverwrite inv path) w (fun _ _ => True)
    (fun e _ => inv.answer ≠ none ∧ e = .exit 1 ∨ inv.answer = none ∧ e = .raised .eofError) := by
  rw [askOverwrite]
  cases inv.answer with
  | none => exact .throw (.inr ⟨rfl, rfl⟩)
  | some answer =>
      refine .bind_run (emit_run _ _) (.ite (fun _ => ?_) fun _ => .pure trivial)
      exact .throw (.inl ⟨by simp, rfl⟩)

theorem selectOutput_exit : Ends (selectOutput inv args) w (fun _ _ => True)
    (fun e _ => inv.answer ≠ none ∧ e = .exit 1 ∨ inv.answer = none ∧ e = .raised .eofError) := by
  rw [selectOutput]
  refine .bind_run (get_run _) (.ite (fun _ => ?_) fun _ => ?_)
  · exact .bind_run (emit_run _ _) (.pure trivial)
  · refine .ite (fun _ => ?_) fun _ => .pure trivial
    exact .bind askOverwrite_exit fun _ _ _ => .pure trivial

theorem generateDefinesFile_exit : Ends (generateDefinesFile host inv data args path) w
    (fun _ _ => True)
    (fun e _ => (∃ err, definesContent host.py data (inv.headerArgs args) = .error err ∧
        e = .raised (.error err)) ∨
      (∃ content, definesContent host.py data (inv.headerArgs args) = .ok content) ∧
        e = .raised (.error .osError)) := by
  rw [generateDefinesFile]
  cases definesContent host.py data (inv.headerArgs args) with
  | error err => exact .throw (.inl ⟨err, rfl, rfl⟩)
  | ok content =>
      refine Ends.bind_run (get_run _) ?_
      cases w.fs.write path (host.encode content) with
      | none => exact .throw (.inr ⟨⟨content, rfl⟩, rfl⟩)
      | some fs => exact trivial

/-- A call that stops in front of the write stops in one of these ways. -/
theorem generateHeader_stops : Ends (generateHeader host inv) (World.start fs)
    (fun _ _ => True) (fun e _ => Stops host inv fs e) := by
  rw [generateHeader, parseArgs]
  cases hargs : inv.args with
  | none => exact .throw (.commandLine hargs)
  | some args =>
      refine .bind_run rfl ?_
      refine .bind (((checkInput_ends quiet_start).and checkInput_exit).imp_error ?_) ?_
      · rintro _ t ⟨⟨hstop, -⟩, rfl⟩
        exact .usage hargs hstop
      rintro _ _ ⟨⟨⟨hhelp, hinput⟩, rfl⟩, -⟩
      refine .bind (((readConfig_ends quiet_start).and readConfig_exit).imp_error ?_) ?_
      · rintro _ t ⟨⟨hempty, -⟩, rfl⟩
        by_cases haccepted : Accepted host fs args
        · obtain ⟨data, hdata⟩ := parsed_of_accepted haccepted
          exact .empty hargs hhelp hinput haccepted
            (hdata.entries_eq_nil_iff.mp (hempty data hdata.parsed))
        · exact .rejected hargs hhelp hinput haccepted
      rintro data _ ⟨⟨⟨hparse, hnonempty⟩, rfl⟩, -⟩
      have hdata := parsed_of_parse hparse
      have hasks : Asks host inv fs args :=
        ⟨hargs, hhelp, hinput, accepted_of_parsed hparse, by
          rw [Ne, hdata.entries_eq_nil_iff] at hnonempty
          simpa using hnonempty⟩
      refine .bind ((selectOutput_ends.and selectOutput_exit).imp_error ?_) ?_
      · rintro _ t ⟨⟨hno, -⟩, ⟨hanswer, rfl⟩ | ⟨hanswer, rfl⟩⟩
        · exact .refused hasks hanswer hno
        · exact .noAnswer hasks hanswer hno
      rintro _ t ⟨⟨⟨hyes, rfl⟩, ht, -⟩, -⟩
      refine .bind (((generateDefinesFile_ends ht).and generateDefinesFile_exit).imp_error ?_) ?_
      · rintro _ u ⟨⟨hplace, -⟩, ⟨err, herr, rfl⟩ | ⟨⟨content, hcontent⟩, rfl⟩⟩
        · obtain ⟨cmd, hfirst, rfl⟩ := (definesContent_eq_error_iff hdata.wellFormed).mp herr
          simp only [hdata.offers] at hfirst
          exact .missing hasks hyes hfirst
        · exact .noPlace hasks hyes ((hdata.complete_iff inv).mp ⟨content, hcontent⟩)
            fun loc hloc => hplace content loc hcontent hloc
      intro _ u _
      exact .bind_run (emit_run _ _) (.pure trivial)

theorem not_offers_all {cmd : String} (h : First (Missing host fs args) headerCommands cmd) :
    ¬ ∀ cmd ∈ configStructure.keys, Offers host fs args cmd :=
  fun hall => h.holds (hall _ (toList_mem_keys cmd h.mem))

theorem eq_of_args {args args' : Args} (h : inv.args = some args) (h' : inv.args = some args') :
    args = args' := Option.some.inj (h.symm.trans h')

/-- How a call that asks for a header stops: at the prompt, or behind it at a command that
is missing or for want of a place. -/
theorem Asks.stops_cases {e : ScriptStop} (h : Asks host inv fs args)
    (hstops : Stops host inv fs e) :
    (¬ Approved inv fs args ∧ (inv.answer ≠ none ∧ e = .exit 1 ∨
        inv.answer = none ∧ e = .raised .eofError)) ∨
      (Approved inv fs args ∧ ∃ cmd, First (Missing host fs args) headerCommands cmd ∧
        e = .raised (.error (.keyError cmd.toList))) ∨
      (Approved inv fs args ∧ (∀ cmd ∈ configStructure.keys, Offers host fs args cmd) ∧
        (∀ loc, fs.locate (targetPath inv fs args) = some loc → fs.isDirAt loc = true) ∧
        e = .raised (.error .osError)) := by
  cases hstops with
  | commandLine hnone =>
      rw [h.args_parsed] at hnone
      cases hnone
  | usage hargs husage =>
      obtain rfl := eq_of_args h.args_parsed hargs
      rcases husage with hhelp | hinput
      · exact absurd (hhelp.symm.trans h.no_help) (by decide)
      · exact absurd hinput h.input_given
  | rejected hargs _ _ hrejected =>
      obtain rfl := eq_of_args h.args_parsed hargs
      exact absurd h.accepted hrejected
  | empty hargs _ _ _ hnone =>
      obtain rfl := eq_of_args h.args_parsed hargs
      obtain ⟨cmd, hcmd⟩ := h.offers_some
      exact absurd hcmd (hnone cmd)
  | refused h' hanswer hno =>
      obtain rfl := eq_of_args h.args_parsed h'.args_parsed
      exact .inl ⟨hno, .inl ⟨hanswer, rfl⟩⟩
  | noAnswer h' hanswer hno =>
      obtain rfl := eq_of_args h.args_parsed h'.args_parsed
      exact .inl ⟨hno, .inr ⟨hanswer, rfl⟩⟩
  | missing h' hyes hfirst =>
      obtain rfl := eq_of_args h.args_parsed h'.args_parsed
      exact .inr (.inl ⟨hyes, _, hfirst, rfl⟩)
  | noPlace h' hyes hall hplace =>
      obtain rfl := eq_of_args h.args_parsed h'.args_parsed
      exact .inr (.inr ⟨hyes, hall, hplace, rfl⟩)

/-- A call that asks for no header ends with an exit code, by its arguments alone. -/
theorem Stops.of_not_asks {e : ScriptStop} (hasks : ¬ ∃ args, Asks host inv fs args)
    (h : Stops host inv fs e) : (inv.args = none ∧ e = .exit 2) ∨
      ∃ args, inv.args = some args ∧ ((args.help = true ∨ args.input = []) ∧ e = .exit 0 ∨
        (args.help = false ∧ args.input ≠ []) ∧ e = .exit 1) := by
  cases h with
  | commandLine hnone => exact .inl ⟨hnone, rfl⟩
  | usage hargs husage => exact .inr ⟨_, hargs, .inl ⟨husage, rfl⟩⟩
  | rejected hargs hhelp hinput | empty hargs hhelp hinput =>
      exact .inr ⟨_, hargs, .inr ⟨⟨hhelp, hinput⟩, rfl⟩⟩
  | refused h | noAnswer h | missing h | noPlace h => exact absurd ⟨_, h⟩ hasks

theorem Stops.unique {e e' : ScriptStop} (h : Stops host inv fs e) (h' : Stops host inv fs e') :
    e = e' := by
  by_cases hasks : ∃ args, Asks host inv fs args
  · obtain ⟨args, hasks⟩ := hasks
    rcases hasks.stops_cases h with ⟨hno, hprompt⟩ | ⟨hyes, cmd, hfirst, rfl⟩ | ⟨hyes, hall, -, rfl⟩
    · rcases hasks.stops_cases h' with ⟨-, hprompt'⟩ | ⟨hyes', -⟩ | ⟨hyes', -⟩
      · rcases hprompt with ⟨hanswer, rfl⟩ | ⟨hanswer, rfl⟩
        · exact (hprompt'.resolve_right fun h => hanswer h.1).2.symm
        · exact (hprompt'.resolve_left fun h => h.1 hanswer).2.symm
      · exact absurd hyes' hno
      · exact absurd hyes' hno
    · rcases hasks.stops_cases h' with ⟨hno, -⟩ | ⟨-, cmd', hfirst', rfl⟩ | ⟨-, hall, -⟩
      · exact absurd hyes hno
      · rw [hfirst.unique hfirst']
      · exact absurd hall (not_offers_all hfirst)
    · rcases hasks.stops_cases h' with ⟨hno, -⟩ | ⟨-, cmd', hfirst', -⟩ | ⟨-, -, -, rfl⟩
      · exact absurd hyes hno
      · exact absurd hall (not_offers_all hfirst')
      · rfl
  · rcases h.of_not_asks hasks with ⟨hnone, rfl⟩ | ⟨args, hargs, hends⟩
    · rcases h'.of_not_asks hasks with ⟨-, rfl⟩ | ⟨args', hargs', -⟩
      · rfl
      · rw [hnone] at hargs'
        cases hargs'
    · rcases h'.of_not_asks hasks with ⟨hnone, -⟩ | ⟨args', hargs', hends'⟩
      · rw [hnone] at hargs
        cases hargs
      · obtain rfl := eq_of_args hargs hargs'
        rcases hends with ⟨husage, rfl⟩ | ⟨hgiven, rfl⟩
        · refine (hends'.resolve_right fun h => ?_).2.symm
          exact husage.elim (by simp [h.1.1]) h.1.2
        · refine (hends'.resolve_left fun h => ?_).2.symm
          exact h.1.elim (by simp [hgiven.1]) hgiven.2

variable (host inv fs) in
/-- The call asks for a header, of an input with all commands, and nothing is in the way. -/
structure Granted (args : Args) : Prop where
  asks : Asks host inv fs args
  approved : Approved inv fs args
  complete : ∀ cmd ∈ configStructure.keys, Offers host fs args cmd
  place : ∃ loc, fs.locate (targetPath inv fs args) = some loc ∧ ¬ fs.isDirAt loc = true

theorem Granted.not_stops {e : ScriptStop} (h : Granted host inv fs args) :
    ¬ Stops host inv fs e := by
  intro hstops
  obtain ⟨hasks, happroved, hcomplete, loc, hloc, hdir⟩ := h
  rcases hasks.stops_cases hstops with ⟨hno, -⟩ | ⟨-, cmd, hfirst, -⟩ | ⟨-, -, hplace, -⟩
  · exact hno happroved
  · exact not_offers_all hfirst hcomplete
  · exact hdir (hplace loc hloc)

theorem granted_iff_reaches : Granted host inv fs args ↔
    ∃ data content loc, Reaches host inv fs args data content loc := by
  constructor
  · intro h
    obtain ⟨data, hdata⟩ := parsed_of_accepted h.asks.accepted
    obtain ⟨content, hcontent⟩ := (hdata.complete_iff inv).mpr h.complete
    obtain ⟨loc, hloc, hdir⟩ := h.place
    have hnonempty : data.entries ≠ [] := by
      rw [Ne, hdata.entries_eq_nil_iff, not_forall]
      simpa using h.asks.offers_some
    exact ⟨data, content, loc, h.asks.args_parsed, h.asks.no_help, h.asks.input_given,
      hdata.parsed, hnonempty, h.approved, hcontent, hloc, hdir⟩
  · rintro ⟨data, content, loc, h⟩
    have hdata := parsed_of_parse h.parsed
    have hsome : ∃ cmd, Offers host fs args cmd := by
      have hnonempty := h.not_empty
      rw [Ne, hdata.entries_eq_nil_iff, not_forall] at hnonempty
      simpa using hnonempty
    exact ⟨⟨h.args_parsed, h.no_help, h.input_given, accepted_of_parsed h.parsed, hsome⟩,
      h.approved, (hdata.complete_iff inv).mp ⟨content, h.built⟩, loc, h.located, h.not_dir⟩

variable (host inv fs) in
theorem main_stops : Ends (main host inv) (World.start fs) (fun _ _ => True)
    (fun e t => Stops host inv fs e ∨ ∃ path, .wrote path ∈ t.log) := by
  rw [main]
  refine .bind ((generateHeader_ends.and generateHeader_stops).imp_error fun _ _ h => .inl h.2) ?_
  rintro data t ⟨⟨args, content, loc, ht⟩, -⟩
  rw [showBasicConfigInfo]
  cases printBasicConfigInfo host.num data with
  | error e => exact .throw (.inr ⟨_, ht.wrote⟩)
  | ok s => exact trivial

theorem stops_of_quiet {e : ScriptStop} {t : World β F} (hrun : runMain host inv fs = .error e t)
    (ht : Quiet fs t) : Stops host inv fs e := by
  rcases Ends.of_error (main_stops host inv fs) hrun with h | ⟨path, h⟩
  · exact h
  · exact absurd h (ht.not_wrote path)

theorem Stops.run {e : ScriptStop} (h : Stops host inv fs e) :
    ∃ t, runMain host inv fs = .error e t ∧ Quiet fs t := by
  have hnot : ∀ args data content loc, ¬ Reaches host inv fs args data content loc :=
    fun args data content loc hreach =>
      (granted_iff_reaches.mpr ⟨data, content, loc, hreach⟩).not_stops h
  have hends : Ends (main host inv) (World.start fs) _ _ := main_ends
  cases hrun : runMain host inv fs with
  | ok _ t =>
      obtain ⟨_, _, _, _, ht, -⟩ := hends.of_ok hrun
      exact absurd ht.reaches (hnot _ _ _ _)
  | error e' t =>
      rcases hends.of_error hrun with ⟨-, ht⟩ | ⟨_, _, _, _, ht, -⟩
      · obtain rfl := h.unique (stops_of_quiet hrun ht)
        exact ⟨t, rfl, ht⟩
      · exact absurd ht.reaches (hnot _ _ _ _)

end Stops

end RadarStream
