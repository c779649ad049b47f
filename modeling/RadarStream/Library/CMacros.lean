import RadarStream.Library.CTokens
import RadarStream.Library.Dict

/-!
# Macros and constant expressions

`readMacros` follows the directives of a header that has nothing but object-like
macros and the groups of `#ifndef`, and `valueOf` expands a macro and evaluates it as a
constant expression of numbers, casts to `float`, calls, and the operators `-`, `*`,
`/`, `+` and `<<`, with the precedences of C. A redefinition of a macro is an error,
and so is whatever C leaves undefined. What is read from a template holds for every
filling of it (`readMacros_fill`).

Floating-point arithmetic is exact here: a literal with a decimal point, a product and a
quotient are the rational numbers they name, and a cast to `float` keeps its operand. C
rounds all of these to `float` or `double`; integers are computed as C does.
-/

namespace CText

section Lines

variable {κ ν : Type}

def isNewline : Token κ → Bool
  | .newline => true
  | .number _ | .ident _ | .punct _ | .shiftLeft | .invalid _ | .hole _ => false

def lines (ts : List (Token κ)) : List (List (Token κ)) := ts.splitOnP isNewline

variable (f : Filling κ ν)

theorem splitOnP_append_of_none {α : Type} {p : α → Bool} {xs : List α}
    (h : ∀ x ∈ xs, p x = false) (ys : List α) :
    (xs ++ ys).splitOnP p = (ys.splitOnP p).modifyHead (xs ++ ·) := by
  induction xs with
  | nil =>
      change _ = (ys.splitOnP p).modifyHead id
      rw [List.modifyHead_id, List.nil_append, id_eq]
  | cons x xs ih =>
      have hx : p x = false := h x List.mem_cons_self
      rw [List.cons_append, List.splitOnP_cons_eq_if_modifyHead, hx, if_neg Bool.false_ne_true,
        ih fun y hy => h y (List.mem_cons_of_mem _ hy), List.modifyHead_modifyHead]
      rfl

theorem isNewline_of_isPlain {t : Token κ} (h : t.isPlain = true) : isNewline t = false := by
  cases t <;> first | rfl | cases h

theorem fill_newline {t : Token κ} (h : isNewline t = false) :
    ∀ u ∈ t.fill f, isNewline u = false := by
  cases t with
  | hole k =>
      intro u hu
      exact isNewline_of_isPlain (List.all_eq_true.mp (f.spells k).plain u hu)
  | newline => cases h
  | number v | ident name | punct c | shiftLeft | invalid word =>
      intro u hu
      obtain rfl := List.mem_singleton.mp hu
      rfl

/-- The lines of a filled template are the filled lines. -/
theorem lines_fillTokens (ts : List (Token κ)) :
    lines (fillTokens f ts) = (lines ts).map (fillTokens f) := by
  induction ts with
  | nil => rfl
  | cons t ts ih =>
      have hcons : fillTokens f (t :: ts) = t.fill f ++ fillTokens f ts := List.flatMap_cons
      rw [lines, lines, hcons, List.splitOnP_cons_eq_if_modifyHead]
      split
      · rename_i ht
        obtain rfl : t = .newline := by cases t <;> first | rfl | cases ht
        rw [List.map_cons, fillTokens_nil, ← lines.eq_def ts, ← ih]
        have hnewline : isNewline (.newline : Token Empty) = true := rfl
        exact List.splitOnP_append_cons [] (fillTokens f ts) hnewline
      · rename_i ht
        rw [splitOnP_append_of_none (fill_newline f (Bool.eq_false_iff.mpr ht)), ← lines, ih, lines]
        cases ts.splitOnP isNewline with
        | nil => rfl
        | cons line rest =>
            rw [List.map_cons, List.modifyHead_cons, List.modifyHead_cons, List.map_cons]
            rfl

end Lines

section Directives

variable {κ ν : Type}

abbrev Macros (κ : Type) := Dict (List Char) (List (Token κ))

/-- The macros defined so far, and the groups that are open, the innermost first: are
their lines read? -/
structure Reader (κ : Type) where
  macros : Macros κ
  groups : List Bool

def Reader.active (r : Reader κ) : Bool := r.groups.all id

variable [DecidableEq κ]

def Reader.define (r : Reader κ) (name : List Char) (body : List (Token κ)) : Option (Reader κ) :=
  if r.active = true then
    match r.macros.get? name with
    | none => some { r with macros := r.macros.set name body }
    | some old => if old = body then some r else none
  else some r

def Reader.openGroup (r : Reader κ) (name : List Char) : Reader κ :=
  { r with groups := decide (name ∉ r.macros.keys) :: r.groups }

def Reader.closeGroup (r : Reader κ) : Option (Reader κ) :=
  match r.groups with
  | _ :: groups => some { r with groups := groups }
  | [] => none

def Reader.directive (r : Reader κ) (name : List Char) (rest : List (Token κ)) :
    Option (Reader κ) :=
  if name = "define".toList then
    match rest with
    | .ident macroName :: body => r.define macroName body
    | _ => none
  else if name = "ifndef".toList then
    match rest with
    | [.ident macroName] => some (r.openGroup macroName)
    | _ => none
  else if name = "endif".toList then
    match rest with
    | [] => r.closeGroup
    | _ => none
  else none

def readLine (r : Reader κ) : List (Token κ) → Option (Reader κ)
  | [] => some r
  | .punct '#' :: .ident name :: rest => r.directive name rest
  | _ => none

/-- The macros behind a header, when `macros` are those in front of it. -/
def readMacros (macros : Macros κ) (ts : List (Token κ)) : Option (Macros κ) := do
  let r ← (lines ts).foldlM readLine ⟨macros, []⟩
  if r.groups = [] then return r.macros else none

variable (f : Filling κ ν)

def fillMacros (macros : Macros κ) : Macros Empty := macros.map (fillTokens f)

def Reader.fill (r : Reader κ) : Reader Empty := ⟨fillMacros f r.macros, r.groups⟩

section Fill

variable {f} {r r' : Reader κ}

theorem define_fill {name : List Char} {body : List (Token κ)}
    (h : r.define name body = some r') :
    (r.fill f).define name (fillTokens f body) = some (r'.fill f) := by
  have hget : (r.fill f).macros.get? name = (r.macros.get? name).map (fillTokens f) :=
    Dict.get?_map _ _ _
  rw [Reader.define] at h ⊢
  by_cases hactive : r.active = true
  · rw [if_pos hactive] at h
    rw [if_pos (show (r.fill f).active = true from hactive), hget]
    cases hname : r.macros.get? name with
    | none =>
        rw [hname] at h
        obtain rfl := Option.some.inj h
        have hset : (fillMacros f r.macros).set name (fillTokens f body) =
            fillMacros f (r.macros.set name body) := (Dict.map_set _ _ _ _).symm
        exact congrArg (fun macros => some (⟨macros, r.groups⟩ : Reader Empty)) hset
    | some old =>
        simp only [hname] at h
        split at h
        · rename_i hold
          obtain rfl := Option.some.inj h
          rw [Option.map_some, hold]
          exact if_pos rfl
        · cases h
  · rw [if_neg hactive] at h
    obtain rfl := Option.some.inj h
    exact if_neg hactive

omit [DecidableEq κ] in
theorem openGroup_fill (name : List Char) :
    (r.fill f).openGroup name = (r.openGroup name).fill f := by
  have hkeys : (fillMacros f r.macros).keys = r.macros.keys := Dict.keys_map _ _
  simp only [Reader.openGroup, Reader.fill, hkeys]

omit [DecidableEq κ] in
theorem closeGroup_fill (h : r.closeGroup = some r') :
    (r.fill f).closeGroup = some (r'.fill f) := by
  obtain ⟨macros, groups⟩ := r
  cases groups with
  | nil => cases h
  | cons g groups =>
      obtain rfl := Option.some.inj h
      rfl

theorem directive_fill {name : List Char} {rest : List (Token κ)}
    (h : r.directive name rest = some r') :
    (r.fill f).directive name (fillTokens f rest) = some (r'.fill f) := by
  unfold Reader.directive at h ⊢
  split at h
  · rw [if_pos (by assumption)]
    split at h
    · exact define_fill h
    · cases h
  · rw [if_neg (by assumption)]
    split at h
    · rw [if_pos (by assumption)]
      split at h
      · obtain rfl := Option.some.inj h
        exact congrArg some (openGroup_fill _)
      · cases h
    · rw [if_neg (by assumption)]
      split at h
      · rw [if_pos (by assumption)]
        split at h
        · exact closeGroup_fill h
        · cases h
      · cases h

theorem readLine_fill {ts : List (Token κ)} (h : readLine r ts = some r') :
    readLine (r.fill f) (fillTokens f ts) = some (r'.fill f) := by
  unfold readLine at h
  split at h
  · obtain rfl := Option.some.inj h
    rfl
  · exact directive_fill h
  · cases h

theorem foldlM_readLine_fill {ls : List (List (Token κ))} (h : ls.foldlM readLine r = some r') :
    (ls.map (fillTokens f)).foldlM readLine (r.fill f) = some (r'.fill f) := by
  induction ls generalizing r with
  | nil =>
      obtain rfl := Option.some.inj h
      rfl
  | cons line ls ih =>
      rw [List.foldlM_cons, Option.bind_eq_bind, Option.bind_eq_some_iff] at h
      obtain ⟨s, hline, hrest⟩ := h
      rw [List.map_cons, List.foldlM_cons, readLine_fill hline]
      exact ih hrest

end Fill

/-- What is read from a template holds for every filling of it. -/
theorem readMacros_fill {macros macros' : Macros κ} {ts : List (Token κ)}
    (h : readMacros macros ts = some macros') :
    readMacros (fillMacros f macros) (fillTokens f ts) = some (fillMacros f macros') := by
  rw [readMacros, Option.bind_eq_bind, Option.bind_eq_some_iff] at h
  obtain ⟨r, hlines, hr⟩ := h
  have hfill := foldlM_readLine_fill (f := f) hlines
  rw [← lines_fillTokens] at hfill
  have hstart : (⟨macros, []⟩ : Reader κ).fill f = ⟨fillMacros f macros, []⟩ := rfl
  rw [hstart] at hfill
  rw [readMacros, hfill]
  split at hr
  · rename_i hgroups
    obtain rfl := Option.some.inj hr
    exact if_pos hgroups
  · cases hr

end Directives

/-- The line that opens the group of a guard. -/
def guardLine {κ : Type} (guard : List Char) : List (Token κ) :=
  [.punct '#', .ident "ifndef".toList, .ident guard]

def endLine {κ : Type} : List (Token κ) := [.punct '#', .ident "endif".toList]

/-- Is this a line that does nothing where lines are not read? -/
def isSkipped {κ : Type} : List (Token κ) → Bool
  | [] => true
  | .punct '#' :: .ident name :: .ident _ :: _ => name = "define".toList
  | _ => false

section Guard

variable {κ ν : Type} {guard : List Char} {body : List (List (Token κ))}

theorem isSkipped_fillTokens (f : Filling κ ν) {line : List (Token κ)}
    (h : isSkipped line = true) : isSkipped (fillTokens f line) = true := by
  unfold isSkipped at h
  split at h
  · rfl
  · exact h
  · cases h

variable [DecidableEq κ]

theorem readLine_of_isSkipped {r : Reader κ} (hr : r.active = false) {line : List (Token κ)}
    (h : isSkipped line = true) : readLine r line = some r := by
  unfold isSkipped at h
  split at h
  · rfl
  · rename_i name macroName rest
    have hdefine : name = "define".toList := of_decide_eq_true h
    have hskip : r.define macroName rest = some r := by
      rw [Reader.define, hr]
      rfl
    exact (if_pos hdefine).trans hskip
  · cases h

theorem foldlM_readLine_of_isSkipped {r : Reader κ} (hr : r.active = false)
    (h : body.all isSkipped = true) : body.foldlM readLine r = some r := by
  induction body with
  | nil => rfl
  | cons line body ih =>
      rw [List.all_cons, Bool.and_eq_true] at h
      rw [List.foldlM_cons, readLine_of_isSkipped hr h.1]
      exact ih h.2

/-- A header with a guard defines nothing when it is read again. -/
theorem readMacros_of_guard {ts : List (Token κ)}
    (hlines : lines ts = [] :: guardLine guard :: (body ++ [endLine, []]))
    (hbody : body.all isSkipped = true) {macros : Macros κ} (hguard : guard ∈ macros.keys) :
    readMacros macros ts = some macros := by
  have hopen : readLine ⟨macros, []⟩ (guardLine guard) = some ⟨macros, [false]⟩ := by
    change some (Reader.openGroup ⟨macros, []⟩ guard) = _
    rw [Reader.openGroup, decide_eq_false (not_not_intro hguard)]
  have hskip : body.foldlM readLine (⟨macros, [false]⟩ : Reader κ) = some ⟨macros, [false]⟩ :=
    foldlM_readLine_of_isSkipped rfl hbody
  have hrest : (body ++ [endLine, []]).foldlM readLine (⟨macros, [false]⟩ : Reader κ) =
      some ⟨macros, []⟩ := by
    rw [List.foldlM_append, hskip]
    rfl
  have hrun : (lines ts).foldlM readLine (⟨macros, []⟩ : Reader κ) = some ⟨macros, []⟩ := by
    rw [hlines]
    change (guardLine guard :: (body ++ [endLine, []])).foldlM readLine _ = _
    rw [List.foldlM_cons, hopen]
    exact hrest
  rw [readMacros, hrun]
  rfl

end Guard

section Expressions

/-- The arithmetic of `int`, where an overflow has no result. -/
def Value.int? (n : ℤ) : Option Value :=
  if -2 ^ 31 ≤ n ∧ n < 2 ^ 31 then some (.int n) else none

def Value.toRat : Value → ℚ
  | .int n => n
  | .real q => q

def Value.neg : Value → Option Value
  | .int n => int? (-n)
  | .real q => some (.real (-q))

def Value.lift (onInt : ℤ → ℤ → Option Value) (onReal : ℚ → ℚ → Option Value) :
    Value → Value → Option Value
  | .int m, .int n => onInt m n
  | .int m, .real q => onReal m q
  | .real p, .int n => onReal p n
  | .real p, .real q => onReal p q

def Value.add : Value → Value → Option Value :=
  lift (fun m n => int? (m + n)) fun p q => some (.real (p + q))

def Value.sub : Value → Value → Option Value :=
  lift (fun m n => int? (m - n)) fun p q => some (.real (p - q))

/-- The product, of numbers with a fraction without the rounding of C. -/
def Value.mul : Value → Value → Option Value :=
  lift (fun m n => int? (m * n)) fun p q => some (.real (p * q))

/-- Integers divide towards zero, numbers with a fraction without the rounding of C. -/
def Value.div : Value → Value → Option Value :=
  lift (fun m n => if n = 0 then none else int? (m.tdiv n))
    fun p q => if q = 0 then none else some (.real (p / q))

def Value.shl : Value → Value → Option Value :=
  lift (fun m n => if 0 ≤ m ∧ 0 ≤ n ∧ n < 32 then int? (m * 2 ^ n.toNat) else none)
    fun _ _ => none

/-- The level of an operator between two operands, and what it does. -/
def binary? : Token Empty → Option (ℕ × (Value → Value → Option Value))
  | .shiftLeft => some (0, Value.shl)
  | .punct c =>
      if c = '+' then some (1, Value.add)
      else if c = '-' then some (1, Value.sub)
      else if c = '*' then some (2, Value.mul)
      else if c = '/' then some (2, Value.div)
      else none
  | .number _ | .ident _ | .invalid _ | .newline => none

/-- The value of a number with its sign. -/
def Constant.value? (c : Constant) : Option Value :=
  if c.negative = true then c.magnitude.neg else some c.magnitude

variable (calls : List Char → Value → Option Value)

mutual

/-- A number, a call, a cast, a sign before an operand, or an expression in parentheses. -/
def operand : ℕ → List (Token Empty) → Option (Value × List (Token Empty))
  | 0, _ => none
  | _ + 1, .number v :: ts => some (v, ts)
  | fuel + 1, .ident name :: .punct '(' :: ts => do
      match ← expression fuel 0 ts with
      | (v, .punct ')' :: ts) => return (← calls name v, ts)
      | _ => none
  | fuel + 1, .punct '-' :: ts => do
      let (v, ts) ← operand fuel ts
      return (← v.neg, ts)
  | fuel + 1, .punct '(' :: .ident name :: .punct ')' :: ts => do
      let (v, ts) ← operand fuel ts
      -- the operand as it is: C would round it to single precision
      if name = "float".toList then some (.real v.toRat, ts) else none
  | fuel + 1, .punct '(' :: ts => do
      match ← expression fuel 0 ts with
      | (v, .punct ')' :: ts) => some (v, ts)
      | _ => none
  | _ + 1, _ => none

/-- Operands between operators of at least this level. -/
def expression : ℕ → ℕ → List (Token Empty) → Option (Value × List (Token Empty))
  | 0, _, _ => none
  | fuel + 1, level, ts => do
      let (v, ts) ← operand fuel ts
      applied fuel level v ts

/-- The operators of at least this level that follow their left operand. -/
def applied : ℕ → ℕ → Value → List (Token Empty) → Option (Value × List (Token Empty))
  | 0, _, _, _ => none
  | _ + 1, _, v, [] => some (v, [])
  | fuel + 1, level, v, t :: ts =>
      match binary? t with
      | some (operator, apply) =>
          if level ≤ operator then do
            let (w, ts) ← expression fuel (operator + 1) ts
            applied fuel level (← apply v w) ts
          else some (v, t :: ts)
      | none => some (v, t :: ts)

end

/-- The value of tokens that are one expression. -/
def evaluate (ts : List (Token Empty)) : Option Value :=
  match expression calls (3 * ts.length + 3) 0 ts with
  | some (v, []) => some v
  | _ => none

theorem Constant.tokens_cases {c : Constant} {v : Value} (h : c.value? = some v) :
    c.tokens = [.number v] ∨ ∃ m, c.tokens = [.punct '-', .number m] ∧ m.neg = some v := by
  rw [value?] at h
  rw [tokens]
  split at h
  · exact .inr ⟨c.magnitude, if_pos (by assumption), h⟩
  · obtain rfl := Option.some.inj h
    exact .inl (if_neg (by assumption))

theorem Value.real_mul (q : ℚ) (v : Value) :
    mul (.real q) v = some (.real (q * v.toRat)) := by
  cases v <;> rfl

theorem Value.mul_real (v : Value) (q : ℚ) :
    mul v (.real q) = some (.real (v.toRat * q)) := by
  cases v <;> rfl

theorem Value.real_div {q : ℚ} {v : Value} (h : v.toRat ≠ 0) :
    div (.real q) v = some (.real (q / v.toRat)) := by
  cases v with
  | int n => exact if_neg h
  | real r => exact if_neg h

theorem Value.mul_int (m n : ℤ) : mul (.int m) (.int n) = int? (m * n) := rfl

theorem Value.div_int (m : ℤ) {n : ℤ} (h : n ≠ 0) :
    div (.int m) (.int n) = int? (m.tdiv n) := if_neg h

theorem Value.shl_int {m n : ℤ} (h : 0 ≤ m ∧ 0 ≤ n ∧ n < 32) :
    shl (.int m) (.int n) = int? (m * 2 ^ n.toNat) := if_pos h

theorem Value.int?_natCast {n : ℕ} (h : n < 2 ^ 31) : int? n = some (.int n) := by
  have hrange : -2 ^ 31 ≤ (n : ℤ) ∧ (n : ℤ) < 2 ^ 31 := by omega
  rw [int?, if_pos hrange]

end Expressions

section Expansion

variable {κ ν : Type}

/-- A token with its macro replaced, but for the macros `inside` which it stands; `rest`
goes on in the body. -/
def replaceToken (macros : Macros κ) (rest : List (List Char) → List (Token κ) → List (Token κ))
    (inside : List (List Char)) : Token κ → List (Token κ)
  | .ident name =>
      if name ∈ inside then [.ident name]
      else match macros.get? name with
        | some body => rest (name :: inside) body
        | none => [.ident name]
  | .number v => [.number v]
  | .punct c => [.punct c]
  | .shiftLeft => [.shiftLeft]
  | .invalid word => [.invalid word]
  | .newline => [.newline]
  | .hole k => [.hole k]

def replace (macros : Macros κ) : ℕ → List (List Char) → List (Token κ) → List (Token κ)
  | 0, _, ts => ts
  | depth + 1, inside, ts => ts.flatMap (replaceToken macros (replace macros depth) inside)

/-- The tokens a macro stands for. -/
def expansion (macros : Macros κ) (name : List Char) : List (Token κ) :=
  replace macros (macros.entries.length + 1) [] [.ident name]

def valueOf (calls : List Char → Value → Option Value) (macros : Macros Empty)
    (name : List Char) : Option Value := evaluate calls (expansion macros name)

variable (f : Filling κ ν)

theorem flatMap_replaceToken_of_isPlain {macros : Macros κ}
    {rest : List (List Char) → List (Token κ) → List (Token κ)} {inside : List (List Char)}
    {ts : List (Token κ)} (h : ts.all Token.isPlain = true) :
    ts.flatMap (replaceToken macros rest inside) = ts := by
  induction ts with
  | nil => rfl
  | cons t ts ih =>
      rw [List.all_cons, Bool.and_eq_true] at h
      rw [List.flatMap_cons, ih h.2]
      cases t <;> first | rfl | cases h.1

theorem replaceToken_fill {macros : Macros κ}
    {rest : List (List Char) → List (Token κ) → List (Token κ)}
    {rest' : List (List Char) → List (Token Empty) → List (Token Empty)}
    (hrest : ∀ inside ts, rest' inside (fillTokens f ts) = fillTokens f (rest inside ts))
    (inside : List (List Char)) (t : Token κ) :
    (t.fill f).flatMap (replaceToken (fillMacros f macros) rest' inside) =
      fillTokens f (replaceToken macros rest inside t) := by
  cases t with
  | ident name =>
      have hget : (fillMacros f macros).get? name = (macros.get? name).map (fillTokens f) :=
        Dict.get?_map _ _ _
      rw [Token.fill, List.flatMap_singleton, replaceToken, replaceToken, hget]
      split
      · rfl
      · cases macros.get? name with
        | none => rfl
        | some body => exact hrest _ body
  | hole k =>
      have hplain : (f.tokens k).flatMap (replaceToken (fillMacros f macros) rest' inside) =
          f.tokens k := flatMap_replaceToken_of_isPlain (f.spells k).plain
      exact hplain.trans (List.append_nil _).symm
  | number v | punct c | shiftLeft | invalid word | newline => rfl

/-- Replacing the macros of a filled template gives the filled replacement. -/
theorem replace_fillTokens (macros : Macros κ) (depth : ℕ) (inside : List (List Char))
    (ts : List (Token κ)) : replace (fillMacros f macros) depth inside (fillTokens f ts) =
      fillTokens f (replace macros depth inside ts) := by
  induction depth generalizing inside ts with
  | zero => rfl
  | succ depth ih =>
      rw [replace, replace]
      induction ts with
      | nil => rfl
      | cons t ts ihts =>
          have hcons : fillTokens f (t :: ts) = t.fill f ++ fillTokens f ts := List.flatMap_cons
          rw [hcons, List.flatMap_append, ihts, List.flatMap_cons, fillTokens_append,
            replaceToken_fill f ih]

/-- What a macro of a filled template stands for is read off the template. -/
theorem expansion_fillMacros (macros : Macros κ) (name : List Char) :
    expansion (fillMacros f macros) name = fillTokens f (expansion macros name) := by
  have hlength : (fillMacros f macros).entries.length = macros.entries.length :=
    List.length_map _
  rw [expansion, hlength]
  exact replace_fillTokens f macros _ [] [.ident name]

end Expansion

end CText
