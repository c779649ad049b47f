import RadarStream.Script.Grammar

/-!
# Layouts of an assignment

An assignment gives some of the supported commands a token for each parameter. A
text lays it out when its command lines, in any order and with any white space
between the words, are those of the assignment, and its other lines are blank,
comments or commands that are not supported. `parse_cfg_file` reads the assignment
back from all of them.
-/

namespace RadarStream

variable {α : Type}

/-- No character that ends a line. -/
def InLine (s : Text) : Prop := '\n' ∉ s ∧ '\r' ∉ s

def Blank (s : Text) : Prop := InLine s ∧ ∀ c ∈ s, isSpace c = true

/-- A line as it may stand in a text; an argument has its white space in front. -/
inductive LayoutLine where
  | command (lead cmd : Text) (args : List (Text × Text)) (trail : Text)
  | blank (space : Text)
  | comment (lead rest : Text)
  | unsupported (lead word rest : Text)

namespace LayoutLine

def text : LayoutLine → Text
  | .command lead cmd args trail => lead ++ (cmd ++ Words.render args) ++ trail
  | .blank space => space
  | .comment lead rest => lead ++ '%' :: rest
  | .unsupported lead word rest => lead ++ (word ++ rest)

def WellFormed : LayoutLine → Prop
  | .command lead _ args trail => Blank lead ∧ Blank trail ∧
      ∀ arg ∈ args, (arg.1 ≠ [] ∧ Blank arg.1) ∧ Words.IsWord isSpace arg.2
  | .blank space => Blank space
  | .comment lead rest => Blank lead ∧ InLine rest
  | .unsupported lead word rest => Blank lead ∧ Words.IsWord isSpace word ∧
      word ∉ configStructure.keys ∧ InLine rest ∧ ∀ c ∈ rest.head?, isSpace c = true

end LayoutLine

/-- Some of the supported commands, each with a token for every parameter. -/
structure Assignment where
  tokens : Text → Option (List Text)
  complete : ∀ cmd vals, tokens cmd = some vals →
    ∃ expected, configStructure.get? cmd = some expected ∧ vals.length = expected.length
  isWord : ∀ cmd vals, tokens cmd = some vals → ∀ v ∈ vals, Words.IsWord isSpace v

def layoutText (lines : List LayoutLine) : Text := ['\n'].intercalate (lines.map LayoutLine.text)

/-- The lines lay out the assignment. -/
structure Renders (a : Assignment) (lines : List LayoutLine) : Prop where
  wellFormed : ∀ line ∈ lines, line.WellFormed
  tokens : ∀ cmd vals, a.tokens cmd = some vals ↔
    ∃ lead args trail, .command lead cmd args trail ∈ lines ∧ args.map Prod.snd = vals

section Lines

theorem universalNewlines_of_inLine {s : Text} (h : '\r' ∉ s) : universalNewlines s = s := by
  induction s with
  | nil => rfl
  | cons c s ih =>
      rw [List.mem_cons, not_or] at h
      have hc : c ≠ '\r' := fun heq => h.1 heq.symm
      rw [universalNewlines]
      · rw [ih h.2]
      · exact fun _ heq => absurd heq hc
      · exact hc

theorem split_append_newline (line : Text) : split (line ++ ['\n']) = split line :=
  Words.words_append_of_sep line (by simp; decide)

/-- Reading line by line loses no word. -/
theorem exists_readLines_iff {content : Text} (h : '\r' ∉ content) {ws : List Text}
    (hws : ws ≠ []) : (∃ line ∈ readLines content, split line = ws) ↔
      ∃ piece ∈ content.splitOn '\n', split piece = ws := by
  obtain ⟨init, last, hpieces⟩ : ∃ init last, content.splitOn '\n' = init ++ [last] := by
    rcases List.eq_nil_or_concat (content.splitOn '\n') with hnil | ⟨init, last, hconcat⟩
    · exact absurd hnil (List.splitOn_ne_nil _ _)
    · exact ⟨init, last, by rw [hconcat, List.concat_eq_append]⟩
  have hlines : readLines content =
      init.map (· ++ ['\n']) ++ [last].filter (!·.isEmpty) := by
    rw [readLines, universalNewlines_of_inLine h, hpieces]
    simp
  rw [hlines, hpieces]
  constructor
  · rintro ⟨line, hline, hsplit⟩
    rcases List.mem_append.mp hline with hline | hline
    · obtain ⟨piece, hpiece, rfl⟩ := List.mem_map.mp hline
      rw [split_append_newline] at hsplit
      exact ⟨piece, List.mem_append_left _ hpiece, hsplit⟩
    · exact ⟨line, List.mem_append_right _ (List.mem_filter.mp hline).1, hsplit⟩
  · rintro ⟨piece, hpiece, hsplit⟩
    rcases List.mem_append.mp hpiece with hpiece | hpiece
    · exact ⟨piece ++ ['\n'], List.mem_append_left _ (List.mem_map_of_mem hpiece),
        by rw [split_append_newline, hsplit]⟩
    · refine ⟨piece, List.mem_append_right _ (List.mem_filter.mpr ⟨hpiece, ?_⟩), hsplit⟩
      cases piece with
      | nil => exact absurd (hsplit.symm.trans Words.words_nil) hws
      | cons c cs => rfl

end Lines

section InLine

variable {s t : Text}

theorem InLine.append (hs : InLine s) (ht : InLine t) : InLine (s ++ t) := by
  refine ⟨fun h => ?_, fun h => ?_⟩
  · exact (List.mem_append.mp h).elim hs.1 ht.1
  · exact (List.mem_append.mp h).elim hs.2 ht.2

theorem inLine_of_isWord (h : Words.IsWord isSpace s) : InLine s := by
  refine ⟨fun hmem => ?_, fun hmem => ?_⟩
  · exact absurd (h.not_sep _ hmem) (by decide)
  · exact absurd (h.not_sep _ hmem) (by decide)

theorem isWord_of_supported {cmd : Text} (h : cmd ∈ configStructure.keys) :
    Words.IsWord isSpace cmd := by
  have hall : ∀ cmd ∈ configStructure.keys, cmd ≠ [] ∧ cmd.all (!isSpace ·) = true := by decide
  obtain ⟨hne, hletters⟩ := hall cmd h
  exact ⟨hne, fun c hc => by simpa using List.all_eq_true.mp hletters c hc⟩

theorem inLine_render {args : List (Text × Text)}
    (h : ∀ arg ∈ args, (arg.1 ≠ [] ∧ Blank arg.1) ∧ Words.IsWord isSpace arg.2) :
    InLine (Words.render args) := by
  induction args with
  | nil => exact ⟨List.not_mem_nil, List.not_mem_nil⟩
  | cons arg args ih =>
      obtain ⟨⟨_, hgap⟩, hword⟩ := h arg List.mem_cons_self
      have hrest := ih fun arg' harg' => h arg' (List.mem_cons_of_mem arg harg')
      rw [Words.render, List.flatMap_cons]
      exact (hgap.1.append (inLine_of_isWord hword)).append hrest

theorem not_return_mem_intercalate {pieces : List Text} (h : ∀ piece ∈ pieces, '\r' ∉ piece) :
    '\r' ∉ ['\n'].intercalate pieces := by
  induction pieces with
  | nil => simp
  | cons piece pieces ih =>
      have hpiece := h piece List.mem_cons_self
      have hrest := ih fun p hp => h p (List.mem_cons_of_mem piece hp)
      by_cases hnil : pieces = []
      · subst hnil
        simpa using hpiece
      · rw [List.intercalate_cons_of_ne_nil hnil]
        simpa using ⟨hpiece, hrest⟩

end InLine

namespace LayoutLine

variable {l : LayoutLine} {cmd : Text} {vals : List Text}

/-- The command of a line is a supported one. -/
def Supported : LayoutLine → Prop
  | .command _ cmd _ _ => cmd ∈ configStructure.keys
  | _ => True

theorem inLine_text (h : l.WellFormed) (hcmd : l.Supported) : InLine l.text := by
  cases l with
  | command lead cmd args trail =>
      obtain ⟨hlead, htrail, hargs⟩ := h
      have hword := inLine_of_isWord (isWord_of_supported hcmd)
      exact (hlead.1.append (hword.append (inLine_render hargs))).append htrail.1
  | blank space => exact h.1
  | comment lead rest =>
      have hsign : InLine ['%'] := ⟨by decide, by decide⟩
      exact h.1.1.append (hsign.append h.2)
  | unsupported lead word rest =>
      obtain ⟨hlead, hword, _, hrest, _⟩ := h
      exact hlead.1.append ((inLine_of_isWord hword).append hrest)

theorem split_command {lead trail : Text} {args : List (Text × Text)}
    (h : (command lead cmd args trail).WellFormed) (hcmd : cmd ∈ configStructure.keys) :
    split (command lead cmd args trail).text = cmd :: args.map Prod.snd := by
  obtain ⟨hlead, htrail, hargs⟩ := h
  have hitems : ∀ arg ∈ args, Words.IsGap isSpace arg.1 ∧ Words.IsWord isSpace arg.2 := by
    intro arg harg
    obtain ⟨⟨hne, hgap⟩, hword⟩ := hargs arg harg
    exact ⟨⟨hne, hgap.2⟩, hword⟩
  rw [split, text, Words.words_append_of_sep _ htrail.2, Words.words_sep_append _ hlead.2,
    Words.words_append_render hitems, (isWord_of_supported hcmd).words, List.singleton_append]

/-- The words of a line that is no command do not start with a supported one. -/
theorem exists_of_occurs (h : l.WellFormed) (hsupported : l.Supported)
    (hoccurs : Occurs l.text cmd vals) :
    ∃ lead args trail, l = .command lead cmd args trail ∧ args.map Prod.snd = vals := by
  cases l with
  | command lead cmd' args trail =>
      obtain ⟨rfl, rfl⟩ := List.cons.inj ((split_command h hsupported).symm.trans hoccurs.tokens)
      exact ⟨lead, args, trail, rfl, rfl⟩
  | blank space =>
      have hnil : split space = [] := Words.words_eq_nil_iff.mpr h.2
      exact absurd (hnil.symm.trans hoccurs.tokens) (List.cons_ne_nil _ _).symm
  | comment lead rest =>
      have hsplit : split (lead ++ '%' :: rest) = split ('%' :: rest) :=
        Words.words_sep_append _ h.1.2
      have hsign : isSpace '%' = false := by decide
      obtain ⟨w, ws, hwords⟩ := Words.words_cons_of_not_sep hsign rest
      obtain ⟨rfl, _⟩ := List.cons.inj (hwords.symm.trans (hsplit.symm.trans hoccurs.tokens))
      obtain ⟨expected, hmem⟩ := exists_expected hoccurs.supported
      exact absurd rfl (head_ne_percent hmem)
  | unsupported lead word rest =>
      obtain ⟨hlead, hword, hkeys, _, hrest⟩ := h
      have hsplit : split (lead ++ (word ++ rest)) = word :: split rest := by
        rw [split, Words.words_sep_append _ hlead.2]
        cases rest with
        | nil => rw [List.append_nil, hword.words, split, Words.words_nil]
        | cons c rest =>
            have hc : isSpace c = true := hrest c rfl
            rw [Words.words_append_cons word rest hc, hword.words, split,
              Words.words_cons_of_sep hc, List.singleton_append]
      obtain ⟨rfl, _⟩ := List.cons.inj (hsplit.symm.trans hoccurs.tokens)
      exact absurd hoccurs.supported hkeys

end LayoutLine

section Layout

variable {a : Assignment} {ls : List LayoutLine} {cmd : Text} {vals : List Text}

theorem Assignment.supported (a : Assignment) (h : a.tokens cmd = some vals) :
    cmd ∈ configStructure.keys := by
  obtain ⟨expected, hexpected, _⟩ := a.complete cmd vals h
  exact List.mem_map_of_mem (configStructure.mem_of_get? hexpected)

theorem Renders.supported (h : Renders a ls) {l : LayoutLine} (hl : l ∈ ls) : l.Supported := by
  cases l with
  | command lead cmd args trail =>
      exact a.supported ((h.tokens cmd (args.map Prod.snd)).mpr ⟨lead, args, trail, hl, rfl⟩)
  | _ => trivial

theorem Renders.occurs_text_iff (h : Renders a ls) :
    (∃ l ∈ ls, Occurs l.text cmd vals) ↔ a.tokens cmd = some vals := by
  rw [h.tokens]
  constructor
  · rintro ⟨l, hl, hoccurs⟩
    obtain ⟨lead, args, trail, rfl, hvals⟩ :=
      LayoutLine.exists_of_occurs (h.wellFormed l hl) (h.supported hl) hoccurs
    exact ⟨lead, args, trail, hl, hvals⟩
  · rintro ⟨lead, args, trail, hl, rfl⟩
    have hcmd := h.supported hl
    exact ⟨_, hl, occurs_iff.mpr ⟨LayoutLine.split_command (h.wellFormed _ hl) hcmd, hcmd⟩⟩

theorem Renders.exists_readLines_iff (h : Renders a ls) {ws : List Text} (hws : ws ≠ []) :
    (∃ line ∈ readLines (layoutText ls), split line = ws) ↔ ∃ l ∈ ls, split l.text = ws := by
  have hinLine : ∀ piece ∈ ls.map LayoutLine.text, InLine piece := by
    intro piece hpiece
    obtain ⟨l, hl, rfl⟩ := List.mem_map.mp hpiece
    exact LayoutLine.inLine_text (h.wellFormed l hl) (h.supported hl)
  have hreturn : '\r' ∉ layoutText ls :=
    not_return_mem_intercalate fun piece hpiece => (hinLine piece hpiece).2
  rw [RadarStream.exists_readLines_iff hreturn hws]
  by_cases hnil : ls = []
  · subst hnil
    constructor
    · rintro ⟨piece, hpiece, hsplit⟩
      have hempty : piece = [] := by simpa [layoutText] using hpiece
      rw [hempty] at hsplit
      exact absurd (hsplit.symm.trans Words.words_nil) hws
    · rintro ⟨l, hl, _⟩
      exact absurd hl List.not_mem_nil
  · have hpieces : (layoutText ls).splitOn '\n' = ls.map LayoutLine.text :=
      List.splitOn_intercalate '\n' (fun piece hpiece => (hinLine piece hpiece).1)
        (by simpa using hnil)
    rw [hpieces]
    simp

/-- The lines of the text give the commands of the assignment, with its tokens. -/
theorem Renders.occurs_iff (h : Renders a ls) :
    (∃ line ∈ readLines (layoutText ls), Occurs line cmd vals) ↔ a.tokens cmd = some vals := by
  rw [← h.occurs_text_iff]
  simp only [RadarStream.occurs_iff, ← and_assoc]
  simp only [exists_and_right, h.exists_readLines_iff (List.cons_ne_nil cmd vals)]

theorem Renders.not_malformed (h : Renders a ls) :
    ∀ line ∈ readLines (layoutText ls), ¬ Malformed line := by
  rintro line hline ⟨cmd, vals, expected, hoccurs, hexpected, hlength⟩
  obtain ⟨expected', hexpected', hcomplete⟩ :=
    a.complete cmd vals (h.occurs_iff.mp ⟨line, hline, hoccurs⟩)
  obtain rfl : expected = expected' := Option.some.inj (hexpected.symm.trans hexpected')
  exact hlength hcomplete

theorem Renders.lastGiven_iff (h : Renders a ls) :
    LastGiven (readLines (layoutText ls)) cmd vals ↔ a.tokens cmd = some vals := by
  constructor
  · exact fun hlast => h.occurs_iff.mp hlast.exists_occurs
  · intro htokens
    obtain ⟨vals', hlast⟩ := exists_lastGiven (h.occurs_iff.mpr htokens)
    have htokens' := h.occurs_iff.mp hlast.exists_occurs
    obtain rfl : vals = vals' := Option.some.inj (htokens.symm.trans htokens')
    exact hlast

/-- The data are the assignment. -/
def Assignment.HeldBy (a : Assignment) (data : ConfigData α) : Prop :=
  ∀ cmd params, data.get? cmd = some params ↔
    ∃ expected vals, configStructure.get? cmd = some expected ∧ a.tokens cmd = some vals ∧
      HoldsWords expected vals params

theorem Renders.heldBy (h : Renders a ls) {data : ConfigData α}
    (hdata : Reads (readLines (layoutText ls)) data) : a.HeldBy data := by
  intro cmd params
  rw [hdata cmd params]
  simp only [h.lastGiven_iff]

/-- An assignment in the order of `CONFIG_STRUCTURE`, one command a line. -/
def Assignment.lines (a : Assignment) : List LayoutLine :=
  configStructure.keys.filterMap fun cmd => (a.tokens cmd).map fun vals =>
    .command [] cmd (vals.map fun v => ([' '], v)) []

theorem Assignment.renders_lines (a : Assignment) : Renders a a.lines := by
  have hmem : ∀ l ∈ a.lines, ∃ cmd vals, a.tokens cmd = some vals ∧
      l = .command [] cmd (vals.map fun v => ([' '], v)) [] := by
    intro l hl
    obtain ⟨cmd, _, hline⟩ := List.mem_filterMap.mp hl
    obtain ⟨vals, hvals, rfl⟩ := Option.map_eq_some_iff.mp hline
    exact ⟨cmd, vals, hvals, rfl⟩
  have hsnd : ∀ vals : List Text, (vals.map fun v => ([' '], v)).map Prod.snd = vals := by
    intro vals
    simp [Function.comp_def]
  have hnil : Blank [] := ⟨⟨List.not_mem_nil, List.not_mem_nil⟩, by simp⟩
  have hsep : isSpace ' ' = true := by decide
  have hspace : Blank [' '] := ⟨⟨by decide, by decide⟩, by simpa using hsep⟩
  constructor
  · intro l hl
    obtain ⟨cmd, vals, hvals, rfl⟩ := hmem l hl
    refine ⟨hnil, hnil, fun arg harg => ?_⟩
    obtain ⟨v, hv, rfl⟩ := List.mem_map.mp harg
    exact ⟨⟨List.cons_ne_nil _ _, hspace⟩, a.isWord cmd vals hvals v hv⟩
  · intro cmd vals
    constructor
    · intro hvals
      refine ⟨[], vals.map fun v => ([' '], v), [], ?_, hsnd vals⟩
      refine List.mem_filterMap.mpr ⟨cmd, a.supported hvals, ?_⟩
      rw [hvals]
      rfl
    · rintro ⟨lead, args, trail, hl, rfl⟩
      obtain ⟨cmd', vals, hvals, heq⟩ := hmem _ hl
      cases heq
      rw [hsnd, hvals]

end Layout

/-- `parse_cfg_file` raises a `ValueError` exactly for a line with a wrong number of
words, otherwise it keeps the last line of each command, and it reads every layout
of an assignment back. -/
theorem parseCfgFile_grammar (α : Type) :
    (∀ content, (∃ message, (parseCfgFile content : Except PyError (ConfigData α)) =
        .error (.valueError message)) ↔ ∃ line ∈ readLines content, Malformed line) ∧
    (∀ content, (∀ line ∈ readLines content, ¬ Malformed line) →
      ∃ data : ConfigData α, parseCfgFile content = .ok data ∧ Reads (readLines content) data) ∧
    (∀ a ls, Renders a ls →
      ∃ data : ConfigData α, parseCfgFile (layoutText ls) = .ok data ∧ a.HeldBy data) ∧
    ∀ a : Assignment, ∃ ls, Renders a ls := by
  refine ⟨fun content => ⟨?_, parseCfgFile_rejects⟩, fun _ => parseCfgFile_reads,
    fun a ls h => ?_, fun a => ⟨a.lines, a.renders_lines⟩⟩
  · rintro ⟨message, hrun⟩
    by_contra hnone
    obtain ⟨data, hok, _⟩ := parseCfgFile_reads (α := α) fun line hline hbad =>
      hnone ⟨line, hline, hbad⟩
    rw [hrun] at hok
    cases hok
  · obtain ⟨data, hrun, hdata⟩ := parseCfgFile_reads h.not_malformed
    exact ⟨data, hrun, h.heldBy hdata⟩

end RadarStream
