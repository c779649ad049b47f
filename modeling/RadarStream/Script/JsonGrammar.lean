import Mathlib.Data.List.Perm.Basic
import RadarStream.Library.FirstFailure
import RadarStream.Script.Formats
import RadarStream.Script.Summary

/-!
# The grammar of a `.json` text

Which values of `json.load` are accepted by `parse_json_file` and what it makes of them.
A value lacks a command of `CONFIG_STRUCTURE`, gives its parameters, or is refused there.
The loop collects what is given (`JsonReads`) and stops at the first refusal.
-/

namespace RadarStream

open FirstFailure

variable {α : Type}

section Commands

/-- `cmd in cfg` is false. -/
inductive Json.Lacks (cmd : Text) : Json α → Prop
  | dict {members : List (Text × Json α)} (h : cmd ∉ members.map Prod.fst) :
      Lacks cmd (.dict members)
  | list {items : List (Json α)} (h : .str cmd ∉ items) : Lacks cmd (.list items)
  | str {s : Text} (h : ¬ cmd <:+: s) : Lacks cmd (.str s)

/-- The members of an object are the parameters of a command, in any order. -/
def SameKeys (given : List (Text × Json α)) (expected : List Text) : Prop :=
  ∀ p, p ∈ given.map Prod.fst ↔ p ∈ expected

/-- An object gives a command: the parameters in their order, with the values that the
object has for them. -/
inductive Json.Gives (command : Text × List Text) : Json α → Dict Text (Json α) → Prop
  | dict {members given : List (Text × Json α)} {params : Dict Text (Json α)}
      (hcmd : (Dict.ofPairs members).get? command.1 = some (.dict given))
      (hsame : SameKeys given command.2) (hkeys : params.keys = command.2)
      (hvalues : ∀ p ∈ command.2, params.get? p = (Dict.ofPairs given).get? p) :
      Gives command (.dict members) params

/-- The exception that a value raises at a command: `in` on a number, a list or a text
that is asked for a key, a member without keys, or with other keys. -/
inductive Json.Refused (py : Python α) (command : Text × List Text) : Json α → PyError → Prop
  | atom (a : α) : Refused py command (.atom a) .typeError
  | list {items : List (Json α)} (h : .str command.1 ∈ items) :
      Refused py command (.list items) .typeError
  | str {s : Text} (h : command.1 <:+: s) : Refused py command (.str s) .typeError
  | value {members : List (Text × Json α)} {v : Json α}
      (hcmd : (Dict.ofPairs members).get? command.1 = some v) (h : ∀ given, v ≠ .dict given) :
      Refused py command (.dict members) .attributeError
  | keys {members given : List (Text × Json α)}
      (hcmd : (Dict.ofPairs members).get? command.1 = some (.dict given))
      (h : ¬ SameKeys given command.2) :
      Refused py command (.dict members)
        (.valueError (keysMessage py command.1 command.2 (Dict.ofPairs given).keys))

variable {py : Python α} {cfg : Json α} {command : Text × List Text} {data : ConfigData α}
  {params params' : Dict Text (Json α)} {e : PyError}

theorem sameKeys_iff {given : List (Text × Json α)} {expected : List Text} :
    (∀ p ∈ (Dict.ofPairs given).keys, p ∈ expected) ∧
      (∀ p ∈ expected, p ∈ (Dict.ofPairs given).keys) ↔ SameKeys given expected := by
  simp only [Dict.mem_keys_ofPairs, SameKeys, iff_def, forall_and]

theorem get?_ofPairs_eq_none_iff {members : List (Text × Json α)} {cmd : Text} :
    (Dict.ofPairs members).get? cmd = none ↔ cmd ∉ members.map Prod.fst := by
  rw [Dict.get?_eq_none_iff, Dict.mem_keys_ofPairs]

theorem Json.Gives.unique (h : cfg.Gives command params) (h' : cfg.Gives command params') :
    params = params' := by
  cases h with
  | dict hcmd _ hkeys hvalues =>
      cases h' with
      | dict hcmd' _ hkeys' hvalues' =>
          obtain rfl := Json.dict.inj (Option.some.inj (hcmd.symm.trans hcmd'))
          refine Dict.eq_of_get? (hkeys.trans hkeys'.symm) fun p hp => ?_
          rw [hkeys] at hp
          exact (hvalues p hp).trans (hvalues' p hp).symm

theorem Json.Refused.unique {e' : PyError} (h : cfg.Refused py command e)
    (h' : cfg.Refused py command e') : e = e' := by
  cases h with
  | atom | list | str =>
      cases h'
      rfl
  | value hcmd hnot =>
      cases h' with
      | value => rfl
      | keys hcmd' _ => exact absurd (Option.some.inj (hcmd.symm.trans hcmd')) (hnot _)
  | keys hcmd _ =>
      cases h' with
      | value hcmd' hnot => exact absurd (Option.some.inj (hcmd'.symm.trans hcmd)) (hnot _)
      | keys hcmd' _ =>
          obtain rfl := Json.dict.inj (Option.some.inj (hcmd.symm.trans hcmd'))
          rfl

theorem Json.Gives.not_refused (h : cfg.Gives command params) : ¬ cfg.Refused py command e := by
  intro hrefused
  cases h with
  | dict hcmd hsame _ _ =>
      cases hrefused with
      | value hcmd' hnot => exact hnot _ (Option.some.inj (hcmd'.symm.trans hcmd))
      | keys hcmd' hnot =>
          obtain rfl := Json.dict.inj (Option.some.inj (hcmd'.symm.trans hcmd))
          exact hnot hsame

theorem Json.Lacks.not_refused (h : cfg.Lacks command.1) : ¬ cfg.Refused py command e := by
  intro hrefused
  cases h with
  | dict hnot =>
      have hnone := get?_ofPairs_eq_none_iff.mpr hnot
      cases hrefused with
      | value hcmd _ => exact absurd (hnone.symm.trans hcmd) (by simp)
      | keys hcmd _ => exact absurd (hnone.symm.trans hcmd) (by simp)
  | list hnot =>
      cases hrefused with
      | list h => exact hnot h
  | str hnot =>
      cases hrefused with
      | str h => exact hnot h

theorem Json.Lacks.not_gives (h : cfg.Lacks command.1) : ¬ cfg.Gives command params := by
  intro hgives
  cases hgives with
  | dict hcmd _ _ _ =>
      cases h with
      | dict hnot => exact absurd ((get?_ofPairs_eq_none_iff.mpr hnot).symm.trans hcmd) (by simp)

theorem parseJsonParams_of_not_dict {v : Json α} (h : ∀ given, v ≠ .dict given) :
    parseJsonParams py command.1 command.2 v = .error .attributeError := by
  cases v with
  | dict given => exact absurd rfl (h given)
  | atom | str | list => rfl

theorem parseJsonParams_of_not_sameKeys {given : List (Text × Json α)}
    (h : ¬ SameKeys given command.2) : parseJsonParams py command.1 command.2 (.dict given) =
      .error (.valueError (keysMessage py command.1 command.2 (Dict.ofPairs given).keys)) := by
  simp only [parseJsonParams, if_neg (mt sameKeys_iff.mp h)]
  rfl

theorem parseJsonParams_of_sameKeys {given : List (Text × Json α)} (hnodup : command.2.Nodup)
    (h : SameKeys given command.2) :
    ∃ params, parseJsonParams py command.1 command.2 (.dict given) = .ok params ∧
      params.keys = command.2 ∧
      ∀ p ∈ command.2, params.get? p = (Dict.ofPairs given).get? p := by
  have hvalue : ∀ p ∈ command.2, ∃ v, (Dict.ofPairs given).get? p = some v := fun p hp =>
    Option.ne_none_iff_exists'.mp fun hnone => get?_ofPairs_eq_none_iff.mp hnone ((h p).mpr hp)
  obtain ⟨items, hrun, hfst, hitems⟩ := mapM_lookup hvalue
  have hentries := Dict.entries_ofPairs (by rw [hfst]; exact hnodup)
  refine ⟨Dict.ofPairs items, ?_, ?_, fun p hp => ?_⟩
  · simp only [parseJsonParams, if_pos (sameKeys_iff.mpr h), hrun]
    rfl
  · rw [Dict.keys, hentries, hfst]
  · obtain ⟨item, hitem, rfl⟩ : ∃ item ∈ items, item.1 = p := by
      rw [← hfst] at hp
      exact List.mem_map.mp hp
    rw [hitems item hitem]
    exact Dict.get?_ofPairs_of_mem (by rw [hfst]; exact hnodup) hitem

/-- What `parse_json_file` does at a command. -/
inductive CommandOutcome (py : Python α) (cfg : Json α) (command : Text × List Text) : Prop
  | lacks (h : cfg.Lacks command.1) (hrun : ∀ data, parseJsonCommand py cfg data command = .ok data)
  | gives (params : Dict Text (Json α)) (h : cfg.Gives command params)
      (hrun : ∀ data, parseJsonCommand py cfg data command = .ok (data.set command.1 params))
  | refused (e : PyError) (h : cfg.Refused py command e)
      (hrun : ∀ data, parseJsonCommand py cfg data command = .error e)

theorem parseJsonCommand_of_contains {b : Bool} (h : cfg.contains command.1 = .ok b) :
    parseJsonCommand py cfg data command =
      if b then (do
        let params ← cfg.getItem command.1
        return data.set command.1 (← parseJsonParams py command.1 command.2 params))
      else .ok data := by
  cases b <;> simp only [parseJsonCommand, h] <;> rfl

theorem parseJsonCommand_of_getItem_error (h : cfg.contains command.1 = .ok true)
    (hget : cfg.getItem command.1 = .error e) :
    parseJsonCommand py cfg data command = .error e := by
  rw [parseJsonCommand_of_contains h, hget]
  rfl

theorem parseJsonCommand_of_getItem {v : Json α} (h : cfg.contains command.1 = .ok true)
    (hget : cfg.getItem command.1 = .ok v) : parseJsonCommand py cfg data command =
      (do return data.set command.1 (← parseJsonParams py command.1 command.2 v)) := by
  rw [parseJsonCommand_of_contains h, hget]
  rfl

theorem commandOutcome_dict (members : List (Text × Json α)) (hnodup : command.2.Nodup) :
    CommandOutcome py (.dict members) command := by
  have hcontains : (Json.dict members).contains command.1 =
      .ok (decide (command.1 ∈ (Dict.ofPairs members).keys)) := rfl
  cases hcmd : (Dict.ofPairs members).get? command.1 with
  | none =>
      have hnot := (Dict.get?_eq_none_iff _ _).mp hcmd
      refine .lacks (.dict (get?_ofPairs_eq_none_iff.mp hcmd)) fun data => ?_
      rw [decide_eq_false hnot] at hcontains
      exact parseJsonCommand_of_contains hcontains
  | some v =>
      have hmem : command.1 ∈ (Dict.ofPairs members).keys := by
        by_contra hnot
        exact absurd (((Dict.get?_eq_none_iff _ _).mpr hnot).symm.trans hcmd) (by simp)
      rw [decide_eq_true hmem] at hcontains
      have hget : (Json.dict members).getItem command.1 = .ok v := lookup_eq_ok_iff.mpr hcmd
      have hrun : ∀ data, parseJsonCommand py (.dict members) data command =
          (do return data.set command.1 (← parseJsonParams py command.1 command.2 v)) :=
        fun data => parseJsonCommand_of_getItem hcontains hget
      by_cases hdict : ∃ given, v = .dict given
      · obtain ⟨given, rfl⟩ := hdict
        by_cases hsame : SameKeys given command.2
        · obtain ⟨params, hparams, hkeys, hvalues⟩ := parseJsonParams_of_sameKeys hnodup hsame
          refine .gives params (.dict hcmd hsame hkeys hvalues) fun data => ?_
          rw [hrun, hparams]
          rfl
        · refine .refused _ (.keys hcmd hsame) fun data => ?_
          rw [hrun, parseJsonParams_of_not_sameKeys hsame]
          rfl
      · rw [not_exists] at hdict
        refine .refused _ (.value hcmd hdict) fun data => ?_
        rw [hrun, parseJsonParams_of_not_dict hdict]
        rfl

theorem contains_list (items : List (Json α)) (cmd : Text) :
    ∃ b, (Json.list items).contains cmd = .ok b ∧ (b = true ↔ .str cmd ∈ items) := by
  refine ⟨_, rfl, ?_⟩
  rw [List.any_eq_true]
  constructor
  · rintro ⟨item, hitem, heq⟩
    cases item with
    | str s =>
        obtain rfl : s = cmd := by simpa using heq
        exact hitem
    | atom | list | dict => simp at heq
  · exact fun hmem => ⟨_, hmem, by simp⟩

variable (py) in
theorem commandOutcome (cfg : Json α) (hnodup : command.2.Nodup) :
    CommandOutcome py cfg command := by
  cases cfg with
  | dict members => exact commandOutcome_dict members hnodup
  | atom a => exact .refused _ (.atom a) fun data => rfl
  | list items =>
      obtain ⟨b, hcontains, hb⟩ := contains_list items command.1
      cases b with
      | true =>
          exact .refused _ (.list (hb.mp rfl)) fun data =>
            parseJsonCommand_of_getItem_error hcontains rfl
      | false =>
          exact .lacks (.list fun hmem => absurd (hb.mpr hmem) (by simp)) fun data =>
            parseJsonCommand_of_contains hcontains
  | str s =>
      have hcontains : (Json.str s : Json α).contains command.1 =
        .ok (decide (command.1 <:+: s)) := rfl
      by_cases hmem : command.1 <:+: s
      · rw [decide_eq_true hmem] at hcontains
        exact .refused _ (.str hmem) fun data => parseJsonCommand_of_getItem_error hcontains rfl
      · rw [decide_eq_false hmem] at hcontains
        exact .lacks (.str hmem) fun data => parseJsonCommand_of_contains hcontains

theorem parseJsonCommand_eq_error_iff (hnodup : command.2.Nodup) :
    parseJsonCommand py cfg data command = .error e ↔ cfg.Refused py command e := by
  cases commandOutcome py cfg hnodup with
  | lacks h hrun => simp [hrun, h.not_refused]
  | gives params h hrun => simp [hrun, h.not_refused]
  | refused e' h hrun =>
      rw [hrun, Except.error.injEq]
      exact ⟨fun heq => heq ▸ h, fun h' => h.unique h'⟩

end Commands

section Runs

variable {py : Python α} {cfg : Json α} {commands : List (Text × List Text)}
  {command : Text × List Text} {data data' : ConfigData α}

/-- The data have the commands of the list that the value gives, in the order of the
list, and no other; and there is none that the value neither lacks nor gives. -/
structure JsonReads (cfg : Json α) (commands : List (Text × List Text)) (data : ConfigData α) :
    Prop where
  answered : ∀ command ∈ commands, cfg.Lacks command.1 ∨ ∃ params, cfg.Gives command params
  order : data.keys.Sublist (commands.map Prod.fst)
  gives : ∀ cmd params, data.get? cmd = some params ↔
    ∃ expected, (cmd, expected) ∈ commands ∧ cfg.Gives (cmd, expected) params

theorem JsonReads.not_mem_keys (h : JsonReads cfg commands data) {cmd : Text}
    (hnew : cmd ∉ commands.map Prod.fst) : cmd ∉ data.keys :=
  fun hmem => hnew (h.order.subset hmem)

theorem JsonReads.append (h : JsonReads cfg commands data)
    (hcommand : cfg.Lacks command.1 ∨ ∃ params, cfg.Gives command params) :
    ∀ c ∈ commands ++ [command], cfg.Lacks c.1 ∨ ∃ params, cfg.Gives c params := by
  intro c hc
  rcases List.mem_append.mp hc with hc | hc
  · exact h.answered c hc
  · rw [List.mem_singleton.mp hc]
    exact hcommand

theorem JsonReads.lacks (h : JsonReads cfg commands data) (hlacks : cfg.Lacks command.1) :
    JsonReads cfg (commands ++ [command]) data where
  answered := h.append (Or.inl hlacks)
  order := by
    rw [List.map_append]
    exact h.order.trans (List.sublist_append_left _ _)
  gives cmd params := by
    rw [h.gives]
    refine exists_congr fun expected => ?_
    rw [List.mem_append, List.mem_singleton]
    constructor
    · rintro ⟨hmem, hgives⟩
      exact ⟨Or.inl hmem, hgives⟩
    · rintro ⟨hmem | heq, hgives⟩
      · exact ⟨hmem, hgives⟩
      · rw [heq] at hgives
        exact absurd hgives hlacks.not_gives

theorem JsonReads.set (h : JsonReads cfg commands data) (hnew : command.1 ∉ commands.map Prod.fst)
    {params : Dict Text (Json α)} (hparams : cfg.Gives command params) :
    JsonReads cfg (commands ++ [command]) (data.set command.1 params) where
  answered := h.append (Or.inr ⟨params, hparams⟩)
  order := by
    rw [Dict.keys, data.entries_set_of_not_mem (h.not_mem_keys hnew), List.map_append,
      List.map_append]
    exact h.order.append (List.Sublist.refl _)
  gives cmd params' := by
    rw [Dict.get?_set]
    by_cases hcmd : command.1 = cmd
    · rw [if_pos hcmd, Option.some.injEq]
      constructor
      · rintro rfl
        subst hcmd
        exact ⟨command.2, List.mem_append_right _ (List.mem_singleton.mpr rfl), hparams⟩
      · rintro ⟨expected, hmem, hgives⟩
        rcases List.mem_append.mp hmem with hmem | hmem
        · exact absurd (List.mem_map_of_mem hmem) (hcmd ▸ hnew)
        · rw [List.mem_singleton.mp hmem] at hgives
          exact hparams.unique hgives
    · rw [if_neg hcmd, h.gives]
      refine exists_congr fun expected => and_congr_left fun _ => ?_
      rw [List.mem_append, List.mem_singleton]
      refine (or_iff_left fun heq => ?_).symm
      exact hcmd (congrArg Prod.fst heq).symm

theorem parseJson_reads (hnames : (commands.map Prod.fst).Nodup)
    (hparams : ∀ command ∈ commands, command.2.Nodup)
    (hrun : commands.foldlM (parseJsonCommand py cfg) Dict.empty = .ok data) :
    JsonReads cfg commands data := by
  induction commands using List.reverseRecOn generalizing data with
  | nil =>
      obtain rfl := Except.ok.inj hrun
      exact ⟨by simp, List.Sublist.refl _, fun cmd params => ⟨fun h => (by cases h), by simp⟩⟩
  | append_singleton commands command ih =>
      rw [List.map_append, List.nodup_append] at hnames
      obtain ⟨hnames, -, hapart⟩ := hnames
      have hnew : command.1 ∉ commands.map Prod.fst := fun hmem =>
        hapart command.1 hmem command.1 (List.mem_singleton.mpr rfl) rfl
      rw [List.foldlM_append, bind_eq_ok_iff] at hrun
      obtain ⟨before, hbefore, hlast⟩ := hrun
      have hreads := ih hnames (fun c hc => hparams c (List.mem_append_left _ hc)) hbefore
      have hstep : parseJsonCommand py cfg before command = .ok data := by
        rw [List.foldlM_cons, bind_eq_ok_iff] at hlast
        obtain ⟨after, hafter, hdone⟩ := hlast
        exact hafter.trans hdone
      have hnodup := hparams command (List.mem_append_right _ (List.mem_singleton.mpr rfl))
      cases commandOutcome py cfg hnodup with
      | lacks h hrun =>
          obtain rfl := Except.ok.inj ((hrun before).symm.trans hstep)
          exact hreads.lacks h
      | gives params h hrun =>
          obtain rfl := Except.ok.inj ((hrun before).symm.trans hstep)
          exact hreads.set hnew h
      | refused e h hrun => exact absurd ((hrun before).symm.trans hstep) (by simp)

theorem JsonReads.mem_keys_iff (h : JsonReads cfg commands data) {cmd : Text} :
    cmd ∈ data.keys ↔ ∃ expected params, (cmd, expected) ∈ commands ∧
      cfg.Gives (cmd, expected) params := by
  constructor
  · intro hmem
    obtain ⟨params, hget⟩ := Option.ne_none_iff_exists'.mp fun hnone =>
      (Dict.get?_eq_none_iff _ _).mp hnone hmem
    obtain ⟨expected, hcmd, hgives⟩ := (h.gives cmd params).mp hget
    exact ⟨expected, params, hcmd, hgives⟩
  · rintro ⟨expected, params, hcmd, hgives⟩
    by_contra hnot
    have hget := (h.gives cmd params).mpr ⟨expected, hcmd, hgives⟩
    exact absurd (((Dict.get?_eq_none_iff _ _).mpr hnot).symm.trans hget) (by simp)

theorem JsonReads.unique (hnames : (commands.map Prod.fst).Nodup)
    (h : JsonReads cfg commands data) (h' : JsonReads cfg commands data') : data = data' := by
  have hsame : ∀ cmd, cmd ∈ data.keys ↔ cmd ∈ data'.keys := fun cmd =>
    h.mem_keys_iff.trans h'.mem_keys_iff.symm
  have hperm := (List.perm_ext_iff_of_nodup data.nodup data'.nodup).mpr hsame
  have hkeys : data.keys = data'.keys :=
    (List.Nodup.perm_iff_eq_of_sublist hnames h.order h'.order).mp hperm
  refine Dict.eq_of_get? hkeys fun cmd _ => ?_
  refine Option.ext fun params => ?_
  exact (h.gives cmd params).trans (h'.gives cmd params).symm

end Runs

section Files

variable (py : Python α) (content : Text)

theorem foldlM_parseJsonCommand_eq_error_iff {py : Python α} {cfg : Json α} {e : PyError} :
    configStructure.entries.foldlM (parseJsonCommand py cfg) Dict.empty = .error e ↔
      ∃ command, First (fun c => ∃ e, cfg.Refused py c e) configStructure.entries command ∧
        cfg.Refused py command e :=
  foldlM_eq_error_iff (fun _ hc _ _ => parseJsonCommand_eq_error_iff (nodup_params hc)) _

theorem parseJsonFile_eq_ok_iff {data : ConfigData α} : parseJsonFile py content = .ok data ↔
    ∃ cfg, py.jsonLoad content = .ok cfg ∧ JsonReads cfg configStructure.entries data := by
  rw [parseJsonFile, bind_eq_ok_iff]
  refine exists_congr fun cfg => and_congr_right fun _ => ⟨?_, fun hreads => ?_⟩
  · exact parseJson_reads configStructure.nodup fun _ => nodup_params
  · cases hrun : configStructure.entries.foldlM (parseJsonCommand py cfg) Dict.empty with
    | ok data' =>
        have hreads' := parseJson_reads configStructure.nodup (fun _ => nodup_params) hrun
        exact congrArg Except.ok (hreads'.unique configStructure.nodup hreads)
    | error e =>
        obtain ⟨command, hfirst, hrefused⟩ := foldlM_parseJsonCommand_eq_error_iff.mp hrun
        rcases hreads.answered command hfirst.mem with hlacks | ⟨params, hgives⟩
        · exact absurd hrefused hlacks.not_refused
        · exact absurd hrefused hgives.not_refused

theorem parseJsonFile_eq_error_iff {e : PyError} : parseJsonFile py content = .error e ↔
    py.jsonLoad content = .error e ∨ ∃ cfg, py.jsonLoad content = .ok cfg ∧ ∃ command,
      First (fun c => ∃ e, cfg.Refused py c e) configStructure.entries command ∧
        cfg.Refused py command e := by
  rw [parseJsonFile, bind_eq_error_iff]
  simp only [foldlM_parseJsonCommand_eq_error_iff]

theorem parseJsonFile_reads {cfg : Json α} (hload : py.jsonLoad content = .ok cfg)
    (hanswered : ∀ command ∈ configStructure.entries,
      cfg.Lacks command.1 ∨ ∃ params, cfg.Gives command params) :
    ∃ data, parseJsonFile py content = .ok data ∧
      JsonReads cfg configStructure.entries data := by
  cases hrun : parseJsonFile py content with
  | ok data =>
      obtain ⟨cfg', hload', hreads⟩ := (parseJsonFile_eq_ok_iff py content).mp hrun
      obtain rfl := Except.ok.inj (hload.symm.trans hload')
      exact ⟨data, rfl, hreads⟩
  | error e =>
      rcases (parseJsonFile_eq_error_iff py content).mp hrun with hraise | ⟨cfg', hload', hfirst⟩
      · exact absurd (hload.symm.trans hraise) (by simp)
      · obtain rfl := Except.ok.inj (hload.symm.trans hload')
        obtain ⟨command, hfirst, hrefused⟩ := hfirst
        rcases hanswered command hfirst.mem with hlacks | ⟨params, hgives⟩
        · exact absurd hrefused hlacks.not_refused
        · exact absurd hrefused hgives.not_refused

/-- `parse_json_file` for every text: it returns the commands that the object gives, in
the order of `CONFIG_STRUCTURE`, and raises what `json.load` raises or what the first
command raises that is refused. -/
theorem parseJsonFile_grammar :
    (∀ data, parseJsonFile py content = .ok data ↔ ∃ cfg, py.jsonLoad content = .ok cfg ∧
      JsonReads cfg configStructure.entries data) ∧
    ∀ e, parseJsonFile py content = .error e ↔ py.jsonLoad content = .error e ∨
      ∃ cfg, py.jsonLoad content = .ok cfg ∧ ∃ command,
        First (fun c => ∃ e, cfg.Refused py c e) configStructure.entries command ∧
          cfg.Refused py command e :=
  ⟨fun _ => parseJsonFile_eq_ok_iff py content, fun _ => parseJsonFile_eq_error_iff py content⟩

end Files

end RadarStream
