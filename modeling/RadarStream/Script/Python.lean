import Mathlib.Data.List.Infix
import RadarStream.Library.Dict
import RadarStream.Library.Words

/-!
# What the script takes from Python

Strings, lines of a text file, values of `json.load` and exceptions, as far as
`chirp_config_to_defines.py` uses them: `strip`, `split`, `startsWith` and
`endsWith` are the methods of `str`, `lookup` and `getItem` are `d[key]`, and
`contains` is `key in value`. A value that is neither a string nor a
list nor a dictionary is an atom; what `json.load` makes of a text, and how
Python prints a value, are given by a `Python`.
-/

namespace RadarStream

abbrev Text := List Char

instance : LawfulBEq Text := inferInstance

/-- A white space of `str.strip` and `str.split`. -/
def isSpace (c : Char) : Bool :=
  let n := c.toNat
  (0x09 ≤ n ∧ n ≤ 0x0d) ∨ (0x1c ≤ n ∧ n ≤ 0x20) ∨ n = 0x85 ∨ n = 0xa0 ∨ n = 0x1680 ∨
    (0x2000 ≤ n ∧ n ≤ 0x200a) ∨ n = 0x2028 ∨ n = 0x2029 ∨ n = 0x202f ∨ n = 0x205f ∨ n = 0x3000

def strip (s : Text) : Text := Words.strip isSpace s

def split (s : Text) : List Text := Words.words isSpace s

/-- `str.startswith` and `str.endswith`. -/
def startsWith (s t : Text) : Bool := t.isPrefixOf s

def endsWith (s t : Text) : Bool := t.isSuffixOf s

/-- The line ends of a file opened in text mode. -/
def universalNewlines : Text → Text
  | '\r' :: '\n' :: cs => '\n' :: universalNewlines cs
  | '\r' :: cs => '\n' :: universalNewlines cs
  | c :: cs => c :: universalNewlines cs
  | [] => []

/-- The lines of a file, each with its line end. -/
def readLines (content : Text) : List Text :=
  let pieces := (universalNewlines content).splitOn '\n'
  pieces.dropLast.map (· ++ ['\n']) ++ pieces.getLast?.toList.filter (!·.isEmpty)

/-- `str` of an integer that is not negative. -/
def digits (n : ℕ) : Text := Nat.toDigits 10 n

/-- The values of `json.load`; the members of an object as they are written. -/
inductive Json (α : Type) where
  | atom (a : α)
  | str (s : Text)
  | list (items : List (Json α))
  | dict (members : List (Text × Json α))

inductive PyError where
  | valueError (message : Text)
  | keyError (key : Text)
  | indexError
  | typeError
  | attributeError
  | osError
deriving DecidableEq

/-- What the standard library decides: `json.load` of a text, `str` of a value that
is no string, and `repr` of a string. -/
structure Python (α : Type) where
  jsonLoad : Text → Except PyError (Json α)
  str : Json α → Text
  repr : Text → Text

namespace Python

variable {α : Type} (py : Python α)

/-- A value in an f-string. -/
def format : Json α → Text
  | .str s => s
  | v => py.str v

/-- A list of strings in an f-string. -/
def formatList (items : List Text) : Text :=
  '[' :: ((items.map py.repr).intersperse ", ".toList).flatten ++ [']']

end Python

variable {α β : Type}

def lookup (d : Dict Text β) (key : Text) : Except PyError β :=
  match d.get? key with
  | some v => .ok v
  | none => .error (.keyError key)

theorem lookup_eq_ok_iff {d : Dict Text β} {k : Text} {v : β} :
    lookup d k = .ok v ↔ d.get? k = some v := by
  rw [lookup]
  cases d.get? k with
  | none => exact ⟨fun h => (by cases h), fun h => (by cases h)⟩
  | some w => exact ⟨fun h => congrArg some (Except.ok.inj h),
      fun h => congrArg Except.ok (Option.some.inj h)⟩

def Json.contains (key : Text) : Json α → Except PyError Bool
  | .dict members => .ok (key ∈ (Dict.ofPairs members).keys)
  | .list items => .ok (items.any fun item => match item with
      | .str s => s = key
      | _ => false)
  | .str s => .ok (key <:+: s)
  | .atom _ => .error .typeError

def Json.getItem (key : Text) : Json α → Except PyError (Json α)
  | .dict members => lookup (Dict.ofPairs members) key
  | _ => .error .typeError

/-- `open(path, 'r')`, with the texts of the files that exist. -/
def openText (files : Text → Option Text) (path : Text) : Except PyError Text :=
  match files path with
  | some content => .ok content
  | none => .error .osError

end RadarStream
