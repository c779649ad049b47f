import Mathlib.Algebra.Field.Rat
import Mathlib.Data.List.Basic

/-!
# The tokens of a C text

`lex` cuts a C text into the tokens of its lines, without the comments. Numbers have
their value, integers unbounded and floating-point numbers exact. The texts are
those without string and character literals, without lines that end in a backslash
and without numbers with an exponent.

A `Part` of a template is text or a hole. `lexTemplate` lexes a template once, with
the holes in its code as tokens of their own; `lex_fillText` says that this is what
`lex` makes of the text of every `Filling` of the holes.
-/

namespace CText

/-- A number of a constant expression. -/
inductive Value where
  | int (n : ℤ)
  | real (q : ℚ)
deriving DecidableEq

/-- `κ` are the holes of a template. -/
inductive Token (κ : Type) where
  | number (v : Value)
  | ident (name : List Char)
  | punct (c : Char)
  | shiftLeft
  | invalid (word : List Char)
  | newline
  | hole (k : κ)
deriving DecidableEq

section Number

def isHexDigit (c : Char) : Bool := c.isDigit || ('a' ≤ c && c ≤ 'f') || ('A' ≤ c && c ≤ 'F')

def hexDigitValue (c : Char) : ℕ :=
  if c.isDigit then c.toNat - '0'.toNat
  else if c ≤ 'F' then c.toNat - 'A'.toNat + 10
  else c.toNat - 'a'.toNat + 10

def hexValue (ds : List Char) : ℕ := ds.foldl (fun n c => 16 * n + hexDigitValue c) 0

/-- An integer constant in decimal digits; a leading zero makes it octal. -/
def intConstant (ds : List Char) : Option Value :=
  if ds.head? = some '0' then
    if ds.all (· < '8') then some (.int (Nat.ofDigitChars 8 ds 0)) else none
  else if ds = [] then none
  else some (.int (Nat.ofDigitChars 10 ds 0))

def realConstant (whole fraction : List Char) : Option Value :=
  if fraction.all Char.isDigit then
    some (.real (Nat.ofDigitChars 10 (whole ++ fraction) 0 / 10 ^ fraction.length))
  else none

/-- The value of a word that starts with a digit. -/
def number? (word : List Char) : Option Value :=
  match word with
  | '0' :: 'x' :: ds =>
      if ds ≠ [] ∧ ds.all isHexDigit = true then some (.int (hexValue ds)) else none
  | _ =>
      let whole := word.takeWhile Char.isDigit
      match word.dropWhile Char.isDigit with
      | [] => intConstant whole
      | ['U'] => intConstant whole
      | '.' :: fraction => realConstant whole fraction
      | _ => none

end Number

/-- Where the lexer stands: in a word, behind a `<` or a `/`, or in a comment, there
behind a star or not. -/
inductive Mode where
  | code (word : List Char)
  | less
  | slash
  | lineComment
  | blockComment
  | star
deriving DecidableEq

def isWordChar (c : Char) : Bool := c.isAlphanum || c = '_' || c = '.'

section Lex

variable {κ : Type}

def wordToken (word : List Char) : Token κ :=
  if word.head?.any Char.isDigit = true then
    match number? word with
    | some v => .number v
    | none => .invalid word
  else .ident word

/-- The tokens of a word that has ended. -/
def wordTokens (word : List Char) : List (Token κ) := if word = [] then [] else [wordToken word]

def emit (ts : List (Token κ)) (r : List (Token κ) × Mode) : List (Token κ) × Mode :=
  (ts ++ r.1, r.2)

/-- A character of the code that is in no word. -/
def feedCode (c : Char) : List (Token κ) × Mode :=
  if c = '/' then ([], .slash)
  else if c = '<' then ([], .less)
  else if c = '\n' then ([.newline], .code [])
  else if c = ' ' ∨ c = '\t' then ([], .code [])
  else ([.punct c], .code [])

def feedWord (word : List Char) (c : Char) : List (Token κ) × Mode :=
  if isWordChar c = true then ([], .code (word ++ [c])) else emit (wordTokens word) (feedCode c)

def feed : Mode → Char → List (Token κ) × Mode
  | .code word, c => feedWord word c
  | .less, c => if c = '<' then ([.shiftLeft], .code []) else emit [.punct '<'] (feedWord [] c)
  | .slash, c =>
      if c = '/' then ([], .lineComment)
      else if c = '*' then ([], .blockComment)
      else emit [.punct '/'] (feedWord [] c)
  | .lineComment, c => if c = '\n' then ([.newline], .code []) else ([], .lineComment)
  | .blockComment, c => if c = '*' then ([], .star) else ([], .blockComment)
  | .star, c =>
      if c = '/' then ([], .code [])
      else if c = '*' then ([], .star)
      else ([], .blockComment)

def lexFrom : Mode → List Char → List (Token κ) × Mode
  | m, [] => ([], m)
  | m, c :: cs => emit (feed m c).1 (lexFrom (feed (κ := κ) m c).2 cs)

/-- The tokens that are due at the end of a text. -/
def flush : Mode → List (Token κ)
  | .code word => wordTokens word
  | .less => [.punct '<']
  | .slash => [.punct '/']
  | .lineComment | .blockComment | .star => []

def lex (s : List Char) : List (Token κ) :=
  let r := lexFrom (.code []) s
  r.1 ++ flush r.2

theorem emit_emit (ts us : List (Token κ)) (r : List (Token κ) × Mode) :
    emit ts (emit us r) = emit (ts ++ us) r := by
  rw [emit, emit, emit, List.append_assoc]

theorem emit_nil (r : List (Token κ) × Mode) : emit [] r = r := rfl

/-- Lexing goes on where it stopped. -/
theorem lexFrom_append (m : Mode) (s t : List Char) : (lexFrom m (s ++ t) : List (Token κ) × Mode) =
    emit (lexFrom m s).1 (lexFrom (lexFrom (κ := κ) m s).2 t) := by
  induction s generalizing m with
  | nil => rfl
  | cons c s ih =>
      rw [List.cons_append, lexFrom, lexFrom, ih, emit_emit]
      rfl

/-- A comment to the end of the line has no tokens. -/
theorem lexFrom_lineComment {s : List Char} (h : '\n' ∉ s) :
    (lexFrom .lineComment s : List (Token κ) × Mode) = ([], .lineComment) := by
  induction s with
  | nil => rfl
  | cons c s ih =>
      rw [List.mem_cons, not_or] at h
      have hc : (feed .lineComment c : List (Token κ) × Mode) = ([], .lineComment) :=
        if_neg fun heq => h.1 heq.symm
      rw [lexFrom, hc, emit_nil]
      exact ih h.2

/-- A comment that is closed by a star and a slash goes on without a slash. -/
theorem lexFrom_blockComment {s : List Char} (h : '/' ∉ s) {m : Mode}
    (hm : m = .blockComment ∨ m = .star) :
    (lexFrom m s : List (Token κ) × Mode) = ([], .blockComment) ∨
      (lexFrom m s : List (Token κ) × Mode) = ([], .star) := by
  induction s generalizing m with
  | nil => exact hm.imp (fun h => by rw [h]; rfl) fun h => by rw [h]; rfl
  | cons c s ih =>
      rw [List.mem_cons, not_or] at h
      have hslash : ¬ c = '/' := fun heq => h.1 heq.symm
      have hc : (feed m c : List (Token κ) × Mode) =
          if c = '*' then ([], .star) else ([], .blockComment) := by
        rcases hm with rfl | rfl
        · rfl
        · exact if_neg hslash
      rw [lexFrom, hc]
      split
      · exact ih h.2 (.inr rfl)
      · exact ih h.2 (.inl rfl)

theorem lexFrom_word {s : List Char} (h : s.all isWordChar = true) (word : List Char) :
    (lexFrom (.code word) s : List (Token κ) × Mode) = ([], .code (word ++ s)) := by
  induction s generalizing word with
  | nil => rw [List.append_nil, lexFrom]
  | cons c s ih =>
      rw [List.all_cons, Bool.and_eq_true] at h
      have hc : (feed (.code word) c : List (Token κ) × Mode) = ([], .code (word ++ [c])) :=
        if_pos h.1
      rw [lexFrom, hc, emit_nil, ih h.2, List.append_assoc, List.singleton_append]

end Lex

/-- A number with or without a minus in front. -/
structure Constant where
  negative : Bool
  magnitude : Value
deriving DecidableEq

def magnitude? (s : List Char) : Option Value :=
  if s.head?.any Char.isDigit = true ∧ s.all isWordChar = true then number? s else none

def constant? : List Char → Option Constant
  | '-' :: s => (magnitude? s).map (⟨true, ·⟩)
  | s => (magnitude? s).map (⟨false, ·⟩)

def Constant.tokens (c : Constant) : List (Token Empty) :=
  if c.negative = true then [.punct '-', .number c.magnitude] else [.number c.magnitude]

/-- Is this a number or a character of its own? -/
def Token.isPlain {κ : Type} : Token κ → Bool
  | .number _ | .punct _ => true
  | .ident _ | .shiftLeft | .invalid _ | .newline | .hole _ => false

/-- A text of one line has these plain tokens, and the last one is a word. -/
structure Spells (s : List Char) (ts : List (Token Empty)) : Prop where
  inLine : '\n' ∉ s
  plain : ts.all Token.isPlain = true
  lexed : ∃ us word, lexFrom (.code []) s = (us, .code word) ∧ us ++ wordTokens word = ts

section Constants

variable {s : List Char}

theorem spells_of_magnitude? {v : Value} (h : magnitude? s = some v) : Spells s [.number v] := by
  obtain ⟨⟨hdigit, hword⟩, hnumber⟩ := Option.ite_none_right_eq_some.mp h
  refine ⟨fun hmem => ?_, rfl, [], s, lexFrom_word hword [], ?_⟩
  · have hnewline := List.all_eq_true.mp hword _ hmem
    revert hnewline
    decide
  · have hne : s ≠ [] := by
      rintro rfl
      cases hdigit
    rw [List.nil_append, wordTokens, if_neg hne, wordToken, if_pos hdigit, hnumber]

theorem spells_minus {v : Value} (h : Spells s [.number v]) :
    Spells ('-' :: s) [.punct '-', .number v] := by
  obtain ⟨us, word, hlex, htokens⟩ := h.lexed
  refine ⟨fun hmem => ?_, rfl, .punct '-' :: us, word, ?_, ?_⟩
  · rcases List.mem_cons.mp hmem with hnewline | hmem
    · revert hnewline
      decide
    · exact h.inLine hmem
  · have hminus : (feed (.code []) '-' : List (Token Empty) × Mode) = ([.punct '-'], .code []) := by
      decide
    rw [lexFrom, hminus, hlex]
    rfl
  · rw [List.cons_append, htokens]

theorem spells_constant {c : Constant} (h : constant? s = some c) : Spells s c.tokens := by
  unfold constant? at h
  split at h
  · obtain ⟨v, hv, rfl⟩ := Option.map_eq_some_iff.mp h
    exact spells_minus (spells_of_magnitude? hv)
  · obtain ⟨v, hv, rfl⟩ := Option.map_eq_some_iff.mp h
    exact spells_of_magnitude? hv

end Constants

/-- A piece of a template: text, a hole for a number, or a note in a comment. -/
inductive Part (κ ν : Type) where
  | text (s : List Char)
  | hole (k : κ)
  | note (n : ν)
deriving DecidableEq

/-- What the holes and the notes of a template are filled with. Nothing in a note ends
a comment. -/
structure Filling (κ ν : Type) where
  hole : κ → List Char
  note : ν → List Char
  tokens : κ → List (Token Empty)
  spells : ∀ k, Spells (hole k) (tokens k)
  note_open : ∀ n, '/' ∉ note n

/-- Where the lexer of a template stands: where the lexer does, behind a hole, or
behind a note in a comment. -/
inductive TemplateMode where
  | known (m : Mode)
  | behindHole
  | behindNote
deriving DecidableEq

section Template

variable {κ ν : Type}

def feedTemplate : TemplateMode → Char → Option (List (Token κ) × TemplateMode)
  | .known m, c => some ((feed m c).1, .known (feed (κ := κ) m c).2)
  | .behindHole, c =>
      if isWordChar c = true then none
      else some ((feedCode c).1, .known (feedCode (κ := κ) c).2)
  | .behindNote, c =>
      if c = '/' then none
      else if c = '*' then some ([], .known .star)
      else some ([], .known .blockComment)

def feedTemplateText : TemplateMode → List Char → Option (List (Token κ) × TemplateMode)
  | m, [] => some ([], m)
  | m, c :: cs => do
      let (ts, m) ← feedTemplate m c
      let (us, m) ← feedTemplateText m cs
      return (ts ++ us, m)

/-- A hole stands in the code or in a comment to the end of the line, a note in a
comment of the other kind. -/
def feedPart (m : TemplateMode) : Part κ ν → Option (List (Token κ) × TemplateMode)
  | .text s => feedTemplateText m s
  | .hole k =>
      if m = .known (.code []) then some ([.hole k], .behindHole)
      else if m = .known .lineComment then some ([], m)
      else none
  | .note _ =>
      if m = .known .blockComment ∨ m = .known .star ∨ m = .behindNote then some ([], .behindNote)
      else none

def lexTemplateFrom : TemplateMode → List (Part κ ν) → Option (List (Token κ) × TemplateMode)
  | m, [] => some ([], m)
  | m, p :: ps => do
      let (ts, m) ← feedPart m p
      let (us, m) ← lexTemplateFrom m ps
      return (ts ++ us, m)

def flushTemplate : TemplateMode → List (Token κ)
  | .known m => flush m
  | .behindHole | .behindNote => []

def lexTemplate (ps : List (Part κ ν)) : Option (List (Token κ)) := do
  let (ts, m) ← lexTemplateFrom (.known (.code [])) ps
  return ts ++ flushTemplate m

/-- The text of a template that is filled. -/
def Part.fill (f : Filling κ ν) : Part κ ν → List Char
  | .text s => s
  | .hole k => f.hole k
  | .note n => f.note n

def fillText (f : Filling κ ν) (ps : List (Part κ ν)) : List Char := ps.flatMap (Part.fill f)

def Token.fill (f : Filling κ ν) : Token κ → List (Token Empty)
  | .number v => [.number v]
  | .ident name => [.ident name]
  | .punct c => [.punct c]
  | .shiftLeft => [.shiftLeft]
  | .invalid word => [.invalid word]
  | .newline => [.newline]
  | .hole k => f.tokens k

def fillTokens (f : Filling κ ν) (ts : List (Token κ)) : List (Token Empty) :=
  ts.flatMap (Token.fill f)

section Fill

variable (f : Filling κ ν)

@[simp] theorem fillTokens_nil : fillTokens f [] = [] := rfl

@[simp] theorem fillTokens_append (ts us : List (Token κ)) :
    fillTokens f (ts ++ us) = fillTokens f ts ++ fillTokens f us := List.flatMap_append

theorem fillTokens_wordTokens (word : List Char) :
    fillTokens f (wordTokens word) = wordTokens word := by
  rw [wordTokens, wordTokens]
  split
  · rfl
  · rw [wordToken, wordToken]
    split
    · cases number? word <;> rfl
    · rfl

/-- What is emitted for a character does not depend on the holes. -/
def Same (r : List (Token κ) × Mode) (r' : List (Token Empty) × Mode) : Prop :=
  r' = (fillTokens f r.1, r.2)

theorem same_emit {ts : List (Token κ)} {us : List (Token Empty)} {r : List (Token κ) × Mode}
    {r' : List (Token Empty) × Mode} (h : fillTokens f ts = us) (hr : Same f r r') :
    Same f (emit ts r) (emit us r') := by
  rw [Same, emit, emit, fillTokens_append, h, hr]

theorem same_feedCode (c : Char) : Same f (feedCode c) (feedCode c) := by
  rw [feedCode, feedCode]
  repeat' split
  all_goals rfl

theorem same_feedWord (word : List Char) (c : Char) :
    Same f (feedWord word c) (feedWord word c) := by
  rw [feedWord, feedWord]
  split
  · rfl
  · exact same_emit f (fillTokens_wordTokens f word) (same_feedCode f c)

theorem same_feed (m : Mode) (c : Char) : Same f (feed m c) (feed m c) := by
  cases m with
  | code word => exact same_feedWord f word c
  | less | slash =>
      rw [feed, feed]
      repeat' split
      all_goals first | rfl | exact same_emit f rfl (same_feedWord f [] c)
  | lineComment | blockComment | star =>
      rw [feed, feed]
      repeat' split
      all_goals rfl

theorem fillTokens_flush (m : Mode) : fillTokens f (flush m) = flush m := by
  cases m with
  | code word => exact fillTokens_wordTokens f word
  | _ => rfl

end Fill

/-- The lexer of the template, with tokens `ts` and in `m`, is where the lexer of the
filled text is, with tokens `us` and in `m'`. Behind a hole the last word of the hole is
still open. -/
def Agrees (f : Filling κ ν) (r : List (Token κ) × TemplateMode)
    (r' : List (Token Empty) × Mode) : Prop :=
  match r.2 with
  | .known m => r'.2 = m ∧ r'.1 = fillTokens f r.1
  | .behindHole => ∃ word, r'.2 = .code word ∧ r'.1 ++ wordTokens word = fillTokens f r.1
  | .behindNote => (r'.2 = .blockComment ∨ r'.2 = .star) ∧ r'.1 = fillTokens f r.1

section Simulation

variable {f : Filling κ ν} {ts : List (Token κ)} {m : TemplateMode} {us : List (Token Empty)}
  {m' : Mode}

theorem Agrees.char (h : Agrees f (ts, m) (us, m')) {c : Char} {r : List (Token κ) × TemplateMode}
    (hc : feedTemplate m c = some r) :
    Agrees f (ts ++ r.1, r.2) (emit us (feed m' c)) := by
  cases m with
  | known m =>
      obtain ⟨hm, hus⟩ : m' = m ∧ us = fillTokens f ts := h
      subst hm hus
      obtain rfl := Option.some.inj hc
      have hsame := same_feed f m' c
      rw [hsame]
      exact ⟨rfl, (fillTokens_append f _ _).symm⟩
  | behindHole =>
      obtain ⟨word, hm, hus⟩ := h
      obtain rfl : m' = .code word := hm
      rw [feedTemplate] at hc
      split at hc
      · cases hc
      · rename_i hbreak
        obtain rfl := Option.some.inj hc
        have hsame := same_feedCode f c
        have hfeed : (feed (.code word) c : List (Token Empty) × Mode) =
            emit (wordTokens word) (feedCode c) := if_neg hbreak
        rw [hfeed, emit_emit, hsame]
        refine ⟨rfl, ?_⟩
        rw [fillTokens_append, ← hus]
        rfl
  | behindNote =>
      obtain ⟨hm, hus⟩ := h
      obtain rfl : us = fillTokens f ts := hus
      rw [feedTemplate] at hc
      split at hc
      · cases hc
      · rename_i hslash
        have hfeed : (feed m' c : List (Token Empty) × Mode) =
            if c = '*' then ([], .star) else ([], .blockComment) := by
          rcases hm with hm | hm
          · obtain rfl : m' = .blockComment := hm
            rfl
          · obtain rfl : m' = .star := hm
            exact if_neg hslash
        rw [hfeed]
        split at hc
        · obtain rfl := Option.some.inj hc
          rw [if_pos (by assumption)]
          exact ⟨rfl, by simp [emit]⟩
        · obtain rfl := Option.some.inj hc
          rw [if_neg (by assumption)]
          exact ⟨rfl, by simp [emit]⟩

theorem Agrees.text (h : Agrees f (ts, m) (us, m')) {s : List Char}
    {r : List (Token κ) × TemplateMode} (hs : feedTemplateText m s = some r) :
    Agrees f (ts ++ r.1, r.2) (emit us (lexFrom m' s)) := by
  induction s generalizing ts m us m' r with
  | nil =>
      obtain rfl := Option.some.inj hs
      simpa [emit, lexFrom] using h
  | cons c s ih =>
      rw [feedTemplateText, Option.bind_eq_bind, Option.bind_eq_some_iff] at hs
      obtain ⟨r₁, hc, hs⟩ := hs
      obtain ⟨r₂, hrest, hr⟩ := Option.bind_eq_some_iff.mp hs
      obtain rfl := Option.some.inj hr
      have hnext := ih (h.char hc) hrest
      rw [lexFrom, emit_emit, ← List.append_assoc]
      exact hnext

theorem Agrees.part (h : Agrees f (ts, m) (us, m')) {p : Part κ ν}
    {r : List (Token κ) × TemplateMode} (hp : feedPart m p = some r) :
    Agrees f (ts ++ r.1, r.2) (emit us (lexFrom m' (p.fill f))) := by
  cases p with
  | text s => exact h.text hp
  | hole k =>
      rw [feedPart] at hp
      split at hp
      · rename_i hm
        subst hm
        obtain rfl := Option.some.inj hp
        obtain ⟨hm', hus⟩ := h
        obtain rfl : m' = .code [] := hm'
        obtain rfl : us = fillTokens f ts := hus
        obtain ⟨vs, word, hlex, htokens⟩ := (f.spells k).lexed
        refine ⟨word, congrArg Prod.snd hlex, ?_⟩
        have hout : (lexFrom (.code []) (f.hole k) : List (Token Empty) × Mode).1 = vs :=
          congrArg Prod.fst hlex
        rw [fillTokens_append]
        change (fillTokens f ts ++ (lexFrom (.code []) (f.hole k)).1) ++ wordTokens word =
          fillTokens f ts ++ (f.tokens k ++ [])
        rw [hout, List.append_assoc, htokens, List.append_nil]
      · split at hp
        · rename_i hm
          subst hm
          obtain rfl := Option.some.inj hp
          obtain ⟨hm', hus⟩ := h
          obtain rfl : m' = .lineComment := hm'
          have hlex := lexFrom_lineComment (κ := Empty) (f.spells k).inLine
          rw [Part.fill, hlex]
          refine ⟨rfl, ?_⟩
          simpa [emit] using hus
        · cases hp
  | note n =>
      rw [feedPart] at hp
      split at hp
      · rename_i hm
        obtain rfl := Option.some.inj hp
        have hcomment : (m' = .blockComment ∨ m' = .star) ∧ us = fillTokens f ts := by
          rcases hm with rfl | rfl | rfl
          · exact ⟨.inl h.1, h.2⟩
          · exact ⟨.inr h.1, h.2⟩
          · exact h
        obtain ⟨hm', hus⟩ := hcomment
        rcases lexFrom_blockComment (κ := Empty) (f.note_open n) hm' with hlex | hlex
        · rw [Part.fill, hlex]
          exact ⟨.inl rfl, by simpa [emit] using hus⟩
        · rw [Part.fill, hlex]
          exact ⟨.inr rfl, by simpa [emit] using hus⟩
      · cases hp

theorem Agrees.parts (h : Agrees f (ts, m) (us, m')) {ps : List (Part κ ν)}
    {r : List (Token κ) × TemplateMode} (hps : lexTemplateFrom m ps = some r) :
    Agrees f (ts ++ r.1, r.2) (emit us (lexFrom m' (fillText f ps))) := by
  induction ps generalizing ts m us m' r with
  | nil =>
      obtain rfl := Option.some.inj hps
      simpa [emit, lexFrom, fillText] using h
  | cons p ps ih =>
      rw [lexTemplateFrom, Option.bind_eq_bind, Option.bind_eq_some_iff] at hps
      obtain ⟨r₁, hp, hps⟩ := hps
      obtain ⟨r₂, hrest, hr⟩ := Option.bind_eq_some_iff.mp hps
      obtain rfl := Option.some.inj hr
      have hnext := ih (h.part hp) hrest
      rw [fillText, List.flatMap_cons, lexFrom_append, emit_emit, ← List.append_assoc]
      exact hnext

/-- A template is lexed once for all fillings. -/
theorem lex_fillText {ps : List (Part κ ν)} (f : Filling κ ν) (h : lexTemplate ps = some ts) :
    lex (fillText f ps) = fillTokens f ts := by
  obtain ⟨⟨us, m⟩, hps, hts⟩ := Option.bind_eq_some_iff.mp h
  obtain rfl := Option.some.inj hts
  have hstart : Agrees f ([], .known (.code [])) ([], .code []) := ⟨rfl, rfl⟩
  have hend := hstart.parts hps
  rw [List.nil_append, emit_nil] at hend
  rw [lex, fillTokens_append]
  cases m with
  | known m =>
      obtain ⟨hm, hus⟩ := hend
      rw [hm, hus, flushTemplate, fillTokens_flush]
  | behindHole =>
      obtain ⟨word, hm, hus⟩ := hend
      rw [hm, flushTemplate, fillTokens_nil, List.append_nil, ← hus]
      rfl
  | behindNote =>
      obtain ⟨hm, hus⟩ := hend
      rw [flushTemplate, fillTokens_nil, List.append_nil, ← hus]
      rcases hm with hm | hm <;> (rw [hm]; exact List.append_nil _)

end Simulation

end Template

end CText
