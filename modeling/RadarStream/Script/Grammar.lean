import RadarStream.Script.Parse

/-!
# The grammar of a `.cfg` text

Which texts `parse_cfg_file` accepts and what it makes of them. A line gives a
command when its first word is a supported command and it is no comment; the
loop keeps the last line of each command (`Reads`), and stops at the first one
with a wrong number of words.
-/

namespace RadarStream

variable {α : Type}

section Structure

theorem nodup_params {command : Text × List Text} (h : command ∈ configStructure.entries) :
    command.2.Nodup := by
  have hall : ∀ command ∈ configStructure.entries, command.2.Nodup := by decide
  exact hall command h

theorem head_ne_percent {command : Text × List Text} (h : command ∈ configStructure.entries) :
    command.1.head? ≠ some '%' := by
  have hall : ∀ command ∈ configStructure.entries, command.1.head? ≠ some '%' := by decide
  exact hall command h

theorem get?_configStructure {command : Text × List Text}
    (h : command ∈ configStructure.entries) :
    configStructure.get? command.1 = some command.2 := configStructure.get?_of_mem h

theorem command_eq_of_fst_eq {c c' : Text × List Text} (h : c ∈ configStructure.entries)
    (h' : c' ∈ configStructure.entries) (heq : c.1 = c'.1) : c = c' := by
  have hsome := get?_configStructure h
  rw [heq, get?_configStructure h', Option.some.injEq] at hsome
  exact Prod.ext heq hsome.symm

end Structure

section Lines

variable {line : Text}

/-- A stripped line is a comment exactly when its first word starts with the sign. -/
theorem startsWith_strip {cmd : Text} {vals : List Text} (h : split line = cmd :: vals) :
    strip line ≠ [] ∧ (startsWith (strip line) ['%'] = true ↔ cmd.head? = some '%') := by
  cases hstrip : strip line with
  | nil =>
      have hwords : split line = [] := Words.words_of_strip_eq_nil hstrip
      exact absurd (h.symm.trans hwords) (List.cons_ne_nil _ _)
  | cons c cs =>
      obtain ⟨w, ws, hwords⟩ := Words.words_of_strip_eq_cons hstrip
      obtain rfl : cmd = c :: w := (List.cons.inj (h.symm.trans hwords)).1
      refine ⟨List.cons_ne_nil _ _, ?_⟩
      have hsign : startsWith (c :: cs) ['%'] = ('%' == c) := by
        simp [startsWith, List.isPrefixOf]
      rw [hsign, beq_iff_eq, List.head?_cons, Option.some.injEq]
      exact eq_comm

theorem parseCfgLine_of_skip (h : strip line = [] ∨ startsWith (strip line) ['%'] = true)
    (data : ConfigData α) : parseCfgLine data line = .ok data := by
  simp only [parseCfgLine, if_pos h]
  rfl

theorem parseCfgLine_of_split {cmd : Text} {vals : List Text} (h : split line = cmd :: vals)
    (hcmd : cmd.head? ≠ some '%') (data : ConfigData α) :
    parseCfgLine data line = match configStructure.get? cmd with
      | none => .ok data
      | some expected =>
          if vals.length ≠ expected.length then
            .error (.valueError (argumentsMessage cmd expected.length vals.length))
          else .ok (data.set cmd (Dict.ofPairs (expected.zip (vals.map .str)))) := by
  obtain ⟨hne, hcomment⟩ := startsWith_strip h
  have hskip : ¬ (strip line = [] ∨ startsWith (strip line) ['%'] = true) :=
    fun hskip => hskip.elim hne fun hstart => hcmd (hcomment.mp hstart)
  have hsplit : split (strip line) = cmd :: vals := (Words.words_strip line).trans h
  simp only [parseCfgLine, if_neg hskip, hsplit]
  rfl

/-- A line gives a command with these words behind it. -/
structure Occurs (line cmd : Text) (vals : List Text) : Prop where
  not_blank : strip line ≠ []
  not_comment : ¬ startsWith (strip line) ['%'] = true
  tokens : split line = cmd :: vals
  supported : cmd ∈ configStructure.keys

/-- A line that gives a command with a wrong number of words. -/
def Malformed (line : Text) : Prop :=
  ∃ cmd vals expected, Occurs line cmd vals ∧ configStructure.get? cmd = some expected ∧
    vals.length ≠ expected.length

variable {cmd : Text} {vals expected : List Text}

theorem exists_expected (h : cmd ∈ configStructure.keys) :
    ∃ expected, (cmd, expected) ∈ configStructure.entries := by
  obtain ⟨⟨_, expected⟩, hmem, rfl⟩ := List.mem_map.mp h
  exact ⟨expected, hmem⟩

/-- No supported command looks like a comment. -/
theorem occurs_iff : Occurs line cmd vals ↔
    split line = cmd :: vals ∧ cmd ∈ configStructure.keys := by
  constructor
  · exact fun h => ⟨h.tokens, h.supported⟩
  · rintro ⟨htokens, hcmd⟩
    obtain ⟨expected, hmem⟩ := exists_expected hcmd
    obtain ⟨hne, hcomment⟩ := startsWith_strip htokens
    exact ⟨hne, fun hstart => head_ne_percent hmem (hcomment.mp hstart), htokens, hcmd⟩

theorem Occurs.unique {cmd' : Text} {vals' : List Text} (h : Occurs line cmd vals)
    (h' : Occurs line cmd' vals') : cmd = cmd' ∧ vals = vals' :=
  List.cons.inj (h.tokens.symm.trans h'.tokens)

theorem parseCfgLine_of_occurs (h : Occurs line cmd vals)
    (hexpected : configStructure.get? cmd = some expected) (data : ConfigData α) :
    parseCfgLine data line =
      if vals.length ≠ expected.length then
        .error (.valueError (argumentsMessage cmd expected.length vals.length))
      else .ok (data.set cmd (Dict.ofPairs (expected.zip (vals.map .str)))) := by
  have hhead : cmd.head? ≠ some '%' := head_ne_percent (configStructure.mem_of_get? hexpected)
  rw [parseCfgLine_of_split h.tokens hhead, hexpected]

theorem parseCfgLine_of_not_occurs (h : ∀ cmd vals, ¬ Occurs line cmd vals)
    (data : ConfigData α) : parseCfgLine data line = .ok data := by
  cases hsplit : split line with
  | nil =>
      refine parseCfgLine_of_skip (Or.inl ?_) data
      by_contra hne
      obtain ⟨c, cs, hstrip⟩ := List.exists_cons_of_ne_nil hne
      obtain ⟨w, ws, hcons⟩ := Words.words_of_strip_eq_cons hstrip
      exact absurd (hsplit.symm.trans hcons) (List.cons_ne_nil _ _).symm
  | cons cmd vals =>
      by_cases hhead : cmd.head? = some '%'
      · exact parseCfgLine_of_skip (Or.inr ((startsWith_strip hsplit).2.mpr hhead)) data
      · have hcmd : cmd ∉ configStructure.keys := fun hcmd =>
          h cmd vals (occurs_iff.mpr ⟨hsplit, hcmd⟩)
        rw [parseCfgLine_of_split hsplit hhead, (configStructure.get?_eq_none_iff cmd).mpr hcmd]

end Lines

section Runs

variable {lines : List Text} {line cmd : Text} {vals : List Text}

/-- The last line that gives the command gives it these words. -/
def LastGiven (lines : List Text) (cmd : Text) (vals : List Text) : Prop :=
  ∃ before line after, lines = before ++ line :: after ∧ Occurs line cmd vals ∧
    ∀ l ∈ after, ∀ vals', ¬ Occurs l cmd vals'

theorem LastGiven.exists_occurs (h : LastGiven lines cmd vals) :
    ∃ line ∈ lines, Occurs line cmd vals := by
  obtain ⟨before, line, after, rfl, hoccurs, _⟩ := h
  exact ⟨line, List.mem_append_right _ List.mem_cons_self, hoccurs⟩

theorem lastGiven_append_singleton : LastGiven (lines ++ [line]) cmd vals ↔
    Occurs line cmd vals ∨ (∀ vals', ¬ Occurs line cmd vals') ∧ LastGiven lines cmd vals := by
  constructor
  · rintro ⟨before, l, after, heq, hoccurs, hafter⟩
    rcases List.eq_nil_or_concat after with rfl | ⟨after, l', rfl⟩
    · obtain ⟨_, hline⟩ := List.append_inj' heq rfl
      obtain rfl := (List.cons.inj hline).1
      exact Or.inl hoccurs
    · rw [List.concat_eq_append, ← List.cons_append, ← List.append_assoc] at heq
      obtain ⟨rfl, hline⟩ := List.append_inj' heq rfl
      obtain rfl := (List.cons.inj hline).1
      rw [List.concat_eq_append] at hafter
      exact Or.inr ⟨hafter line (List.mem_append_right _ List.mem_cons_self), before, l, after,
        rfl, hoccurs, fun m hm => hafter m (List.mem_append_left _ hm)⟩
  · rintro (hoccurs | ⟨hlast, before, l, after, rfl, hoccurs, hafter⟩)
    · exact ⟨lines, line, [], rfl, hoccurs, by simp⟩
    · refine ⟨before, l, after ++ [line], by simp, hoccurs, fun m hm => ?_⟩
      rcases List.mem_append.mp hm with hm | hm
      · exact hafter m hm
      · rw [List.mem_singleton.mp hm]
        exact hlast

theorem exists_lastGiven (h : ∃ line ∈ lines, Occurs line cmd vals) :
    ∃ vals', LastGiven lines cmd vals' := by
  induction lines using List.reverseRecOn with
  | nil => exact absurd h (by simp)
  | append_singleton lines line ih =>
      by_cases hlast : ∃ vals', Occurs line cmd vals'
      · obtain ⟨vals', hoccurs⟩ := hlast
        exact ⟨vals', lastGiven_append_singleton.mpr (Or.inl hoccurs)⟩
      · rw [not_exists] at hlast
        obtain ⟨l, hl, hoccurs⟩ := h
        rcases List.mem_append.mp hl with hl | hl
        · obtain ⟨vals', hgiven⟩ := ih ⟨l, hl, hoccurs⟩
          exact ⟨vals', lastGiven_append_singleton.mpr (Or.inr ⟨hlast, hgiven⟩)⟩
        · rw [List.mem_singleton.mp hl] at hoccurs
          exact absurd hoccurs (hlast vals)

/-- The `i`-th word stands under the `i`-th name. -/
structure HoldsWords (expected vals : List Text) (params : Dict Text (Json α)) : Prop where
  length : vals.length = expected.length
  entries : params.entries = expected.zip (vals.map .str)

/-- The data have the commands that the lines give, with the words of their last
lines, and no other. -/
def Reads (lines : List Text) (data : ConfigData α) : Prop :=
  ∀ cmd params, data.get? cmd = some params ↔
    ∃ expected vals, configStructure.get? cmd = some expected ∧ LastGiven lines cmd vals ∧
      HoldsWords expected vals params

inductive CfgOutcome (lines : List Text) : Except PyError (ConfigData α) → Prop
  | rejected (message : Text) (h : ∃ line ∈ lines, Malformed line) :
      CfgOutcome lines (.error (.valueError message))
  | accepted (data : ConfigData α) (h : ∀ line ∈ lines, ¬ Malformed line)
      (hdata : Reads lines data) : CfgOutcome lines (.ok data)

theorem holdsWords_ofPairs {expected : List Text} (hlength : vals.length = expected.length)
    (hmem : (cmd, expected) ∈ configStructure.entries) {params : Dict Text (Json α)} :
    HoldsWords expected vals params ↔
      params = Dict.ofPairs (expected.zip (vals.map .str)) := by
  have hfst : (expected.zip (vals.map (Json.str (α := α)))).map Prod.fst = expected := by
    rw [List.map_fst_zip]
    rw [List.length_map, hlength]
  have hentries := Dict.entries_ofPairs (by rw [hfst]; exact nodup_params hmem)
  constructor
  · exact fun hparams => Dict.eq_of_entries (hparams.entries.trans hentries.symm)
  · rintro rfl
    exact ⟨hlength, hentries⟩

theorem Reads.not_occurs {data : ConfigData α} (h : Reads lines data)
    (hline : ∀ cmd vals, ¬ Occurs line cmd vals) : Reads (lines ++ [line]) data := by
  intro cmd params
  have hlast : ∀ vals, LastGiven (lines ++ [line]) cmd vals ↔ LastGiven lines cmd vals := by
    intro vals
    rw [lastGiven_append_singleton, or_iff_right (hline cmd vals),
      and_iff_right (fun vals' => hline cmd vals')]
  simp only [hlast]
  exact h cmd params

theorem Reads.occurs {data : ConfigData α} (h : Reads lines data) (hline : Occurs line cmd vals)
    {expected : List Text} (hmem : (cmd, expected) ∈ configStructure.entries)
    (hlength : vals.length = expected.length) :
    Reads (lines ++ [line]) (data.set cmd (Dict.ofPairs (expected.zip (vals.map .str)))) := by
  intro cmd' params
  have hexpected := configStructure.get?_of_mem hmem
  rw [Dict.get?_set]
  by_cases heq : cmd = cmd'
  · subst heq
    rw [if_pos rfl, Option.some.injEq, eq_comm, ← holdsWords_ofPairs hlength hmem]
    constructor
    · exact fun hparams => ⟨expected, vals, hexpected,
        lastGiven_append_singleton.mpr (Or.inl hline), hparams⟩
    · rintro ⟨expected', vals', hexpected', hlast, hparams⟩
      obtain rfl : expected = expected' := Option.some.inj (hexpected.symm.trans hexpected')
      rcases lastGiven_append_singleton.mp hlast with hoccurs | ⟨hnone, _⟩
      · obtain rfl := (hline.unique hoccurs).2
        exact hparams
      · exact absurd hline (hnone vals)
  · have hother : ∀ vals', ¬ Occurs line cmd' vals' := fun vals' hoccurs =>
      heq (hline.unique hoccurs).1
    have hlast : ∀ vals', LastGiven (lines ++ [line]) cmd' vals' ↔ LastGiven lines cmd' vals' := by
      intro vals'
      rw [lastGiven_append_singleton, or_iff_right (hother vals'), and_iff_right hother]
    simp only [if_neg heq, hlast]
    exact h cmd' params

/-- One more line keeps what the lines before it gave, unless it gives the command
again. -/
theorem Reads.step {data : ConfigData α} (h : Reads lines data)
    (hlines : ∀ line ∈ lines, ¬ Malformed line) :
    CfgOutcome (lines ++ [line]) (parseCfgLine data line) := by
  have hall : ¬ Malformed line → ∀ l ∈ lines ++ [line], ¬ Malformed l := by
    intro hline l hl
    rcases List.mem_append.mp hl with hl | hl
    · exact hlines l hl
    · rwa [List.mem_singleton.mp hl]
  by_cases hgives : ∃ cmd vals, Occurs line cmd vals
  · obtain ⟨cmd, vals, hoccurs⟩ := hgives
    obtain ⟨expected, hmem⟩ := exists_expected hoccurs.supported
    have hexpected := configStructure.get?_of_mem hmem
    rw [parseCfgLine_of_occurs hoccurs hexpected]
    by_cases hlength : vals.length = expected.length
    · rw [if_neg (not_not.mpr hlength)]
      refine .accepted _ (hall ?_) (h.occurs hoccurs hmem hlength)
      rintro ⟨cmd', vals', expected', hoccurs', hexpected', hbad⟩
      obtain ⟨rfl, rfl⟩ := hoccurs.unique hoccurs'
      obtain rfl : expected = expected' := Option.some.inj (hexpected.symm.trans hexpected')
      exact hbad hlength
    · rw [if_pos hlength]
      exact .rejected _ ⟨line, List.mem_append_right _ (List.mem_singleton.mpr rfl), cmd, vals,
        expected, hoccurs, hexpected, hlength⟩
  · have hnone : ∀ cmd vals, ¬ Occurs line cmd vals := fun cmd vals hoccurs =>
      hgives ⟨cmd, vals, hoccurs⟩
    rw [parseCfgLine_of_not_occurs hnone]
    refine .accepted _ (hall ?_) (h.not_occurs hnone)
    rintro ⟨cmd, vals, _, hoccurs, _⟩
    exact hnone cmd vals hoccurs

theorem parseCfg_outcome (lines : List Text) :
    CfgOutcome lines (lines.foldlM parseCfgLine (Dict.empty : ConfigData α)) := by
  induction lines using List.reverseRecOn with
  | nil =>
      refine .accepted _ (by simp) fun cmd params => ?_
      constructor
      · exact fun hparams => absurd hparams (Option.some_ne_none params).symm
      · rintro ⟨_, _, _, hlast, _⟩
        obtain ⟨line, hline, _⟩ := hlast.exists_occurs
        exact absurd hline (by simp)
  | append_singleton lines line ih =>
      generalize hrun : lines.foldlM parseCfgLine (Dict.empty : ConfigData α) = res at ih
      rw [List.foldlM_append, hrun]
      cases ih with
      | rejected message h =>
          obtain ⟨l, hl, hbad⟩ := h
          exact .rejected message ⟨l, List.mem_append_left _ hl, hbad⟩
      | accepted data h hdata =>
          have hlast : [line].foldlM parseCfgLine data = parseCfgLine data line := by
            rw [List.foldlM_cons]
            exact bind_pure _
          change CfgOutcome _ ([line].foldlM parseCfgLine data)
          rw [hlast]
          exact hdata.step h

theorem parseCfgFile_rejects {content : Text} (h : ∃ line ∈ readLines content, Malformed line) :
    ∃ message, (parseCfgFile content : Except PyError (ConfigData α)) =
      .error (.valueError message) := by
  obtain ⟨line, hline, hbad⟩ := h
  have houtcome := parseCfg_outcome (α := α) (readLines content)
  rw [parseCfgFile]
  generalize (readLines content).foldlM parseCfgLine (Dict.empty : ConfigData α) = res at *
  cases houtcome with
  | rejected message _ => exact ⟨message, rfl⟩
  | accepted data h _ => exact absurd hbad (h line hline)

theorem parseCfgFile_reads {content : Text} (h : ∀ line ∈ readLines content, ¬ Malformed line) :
    ∃ data : ConfigData α, parseCfgFile content = .ok data ∧ Reads (readLines content) data := by
  have houtcome := parseCfg_outcome (α := α) (readLines content)
  rw [parseCfgFile]
  generalize (readLines content).foldlM parseCfgLine (Dict.empty : ConfigData α) = res at *
  cases houtcome with
  | rejected message hbad =>
      obtain ⟨line, hline, hbad⟩ := hbad
      exact absurd hbad (h line hline)
  | accepted data _ hdata => exact ⟨data, rfl, hdata⟩

end Runs

end RadarStream
