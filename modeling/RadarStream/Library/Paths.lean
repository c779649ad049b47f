import Mathlib.Data.List.DropRight
import Mathlib.Logic.Function.Basic

/-!
# Paths

Paths are texts; `dirname`, `basename`, `join`, `normpath` and `abspath` work on
the text alone. A `FileTree` has directories and files at locations, which are the
names on the way from the root, and a working directory. `locate` follows a path
through a tree: an empty component and `.` stay, `..` goes up, and every step
starts from a directory.
-/

namespace Paths

abbrev Location := List (List Char)

section Texts

/-- The text behind the last slash. -/
def basename (p : List Char) : List Char := p.rtakeWhile (· ≠ '/')

/-- The text up to the last slash, without slashes at its end unless it has nothing
else. -/
def dirname (p : List Char) : List Char :=
  let head := p.rdropWhile (· ≠ '/')
  if head.all (· = '/') then head else head.rdropWhile (· = '/')

def join (p q : List Char) : List Char :=
  if q.head? = some '/' then q
  else if p = [] ∨ p.getLast? = some '/' then p ++ q
  else p ++ '/' :: q

def components (p : List Char) : List (List Char) := p.splitOn '/'

/-- The components without those that stay, and without those that `..` takes back. -/
def normalize (absolute : Bool) (comps : List (List Char)) : List (List Char) :=
  comps.foldl (fun acc comp =>
    if comp = [] ∨ comp = ['.'] then acc
    else if comp ≠ ['.', '.'] ∨ (absolute = false ∧ acc = []) ∨ acc.getLast? = some ['.', '.'] then
      acc ++ [comp]
    else acc.dropLast) []

/-- Two slashes in front are kept, more are one. -/
def normpath (p : List Char) : List Char :=
  let slashes := (p.takeWhile (· = '/')).length
  let initial := if slashes = 2 then ['/', '/'] else if slashes = 0 then [] else ['/']
  let path := initial ++ ['/'].intercalate (normalize (slashes ≠ 0) (components p))
  if path = [] then ['.'] else path

def abspath (cwd p : List Char) : List Char :=
  normpath (if p.head? = some '/' then p else join cwd p)

theorem components_append_cons (p q : List Char) :
    components (p ++ '/' :: q) = components p ++ components q := by
  have hslash : (fun c : Char => c == '/') '/' = true := rfl
  rw [components, components, components, List.splitOn_eq_splitOnP, List.splitOn_eq_splitOnP,
    List.splitOn_eq_splitOnP]
  exact List.splitOnP_append_cons p q hslash

theorem components_of_not_mem {p : List Char} (h : '/' ∉ p) : components p = [p] :=
  List.splitOn_eq_singleton h

theorem components_append_slashes (p : List Char) (n : ℕ) :
    components (p ++ List.replicate n '/') = components p ++ List.replicate n [] := by
  induction n with
  | zero => simp
  | succ n ih =>
      have hlast := components_append_cons (p ++ List.replicate n '/') []
      have hnil : components [] = [[]] := rfl
      rw [List.replicate_succ', List.replicate_succ', ← List.append_assoc, ← List.append_assoc,
        hlast, ih, hnil]

/-- A path with a slash is what is in front of its last one, and its last name. -/
theorem exists_of_slash_mem {p : List Char} (h : '/' ∈ p) :
    ∃ init, p = init ++ '/' :: basename p ∧ p.rdropWhile (· ≠ '/') = init ++ ['/'] := by
  have hne : p.rdropWhile (· ≠ '/') ≠ [] := by
    rw [Ne, List.rdropWhile_eq_nil_iff]
    exact fun hall => absurd (hall '/' h) (by simp)
  have hlast : (p.rdropWhile (· ≠ '/')).getLast hne = '/' := by
    have hnot := List.rdropWhile_last_not (· ≠ '/') p hne
    simpa using hnot
  have hhead : p.rdropWhile (· ≠ '/') = (p.rdropWhile (· ≠ '/')).dropLast ++ ['/'] := by
    conv_lhs => rw [← List.dropLast_append_getLast hne, hlast]
  refine ⟨(p.rdropWhile (· ≠ '/')).dropLast, ?_, hhead⟩
  have hsplit := List.rdropWhile_append_rtakeWhile (p := (· ≠ '/')) (l := p)
  conv_lhs => rw [← hsplit, hhead]
  rw [List.append_assoc, List.singleton_append, basename]

/-- What `rdropWhile` takes away are slashes. -/
theorem exists_rdropWhile_slash (p : List Char) :
    ∃ n, p = p.rdropWhile (· = '/') ++ List.replicate n '/' := by
  refine ⟨(p.rtakeWhile (· = '/')).length, ?_⟩
  have hslashes : p.rtakeWhile (· = '/') = List.replicate (p.rtakeWhile (· = '/')).length '/' := by
    refine List.eq_replicate_iff.mpr ⟨rfl, fun c hc => ?_⟩
    simpa using List.mem_rtakeWhile_imp hc
  rw [← hslashes, List.rdropWhile_append_rtakeWhile]

theorem slash_not_mem_basename (p : List Char) : '/' ∉ basename p := by
  intro hmem
  have hne := List.mem_rtakeWhile_imp hmem
  simp at hne

end Texts

/-- A name that a component may stand for. -/
structure Proper (name : List Char) : Prop where
  ne_nil : name ≠ []
  ne_here : name ≠ ['.']
  ne_up : name ≠ ['.', '.']
  no_slash : '/' ∉ name

/-- Directories and files, and a working directory. -/
@[ext]
structure FileTree (γ : Type) where
  isDirAt : Location → Bool
  fileAt : Location → Option γ
  cwd : Location
  root : isDirAt [] = true
  parent : ∀ l name, isDirAt (l ++ [name]) = true → isDirAt l = true ∧ Proper name
  apart : ∀ l, isDirAt l = true → fileAt l = none
  cwd_isDir : isDirAt cwd = true

namespace FileTree

variable {γ : Type} (t : FileTree γ)

/-- Where a component leads from a location. -/
def step (l : Location) (comp : List Char) : Option Location :=
  if t.isDirAt l = true then
    if comp = [] ∨ comp = ['.'] then some l
    else if comp = ['.', '.'] then some l.dropLast
    else some (l ++ [comp])
  else none

def walk : Location → List (List Char) → Option Location
  | l, [] => some l
  | l, comp :: comps => (t.step l comp).bind fun m => walk m comps

/-- Where a path starts. -/
def origin (p : List Char) : Location := if p.head? = some '/' then [] else t.cwd

def locate (p : List Char) : Option Location :=
  if p = [] then none else t.walk (t.origin p) (components p)

def isDir (p : List Char) : Bool := (t.locate p).any t.isDirAt

def isEntry (p : List Char) : Bool :=
  (t.locate p).any fun l => t.isDirAt l || (t.fileAt l).isSome

def read (p : List Char) : Option γ := (t.locate p).bind t.fileAt

def getcwd : List Char := '/' :: ['/'].intercalate t.cwd

/-- The tree with a file at a location that is no directory. -/
def put (l : Location) (content : γ) (h : ¬ t.isDirAt l = true) : FileTree γ :=
  { t with
    fileAt := Function.update t.fileAt l (some content)
    apart := by
      intro m hm
      have hne : m ≠ l := fun heq => h (heq ▸ hm)
      rw [Function.update_of_ne hne]
      exact t.apart m hm }

/-- A path can be opened for writing when it leads to a location that is no
directory. -/
def write (p : List Char) (content : γ) : Option (FileTree γ) :=
  match t.locate p with
  | none => none
  | some l => if h : t.isDirAt l = true then none else some (t.put l content h)

variable {t} {l m : Location} {comp : List Char} {comps : List (List Char)} {p : List Char}

@[simp] theorem put_fileAt (content : γ) (h : ¬ t.isDirAt l = true) :
    (t.put l content h).fileAt l = some content := by
  rw [put]
  exact Function.update_self l (some content) t.fileAt

/-- Putting a file changes nothing exactly when it is there already. -/
theorem put_eq_self_iff (content : γ) (h : ¬ t.isDirAt l = true) :
    t.put l content h = t ↔ t.fileAt l = some content := by
  constructor
  · intro heq
    rw [← put_fileAt content h, heq]
  · intro hfile
    refine FileTree.ext rfl ?_ rfl
    change Function.update t.fileAt l (some content) = t.fileAt
    rw [← hfile, Function.update_eq_self]

theorem isDirAt_of_step (h : t.step l comp = some m) : t.isDirAt l = true := by
  by_contra hdir
  rw [step, if_neg hdir] at h
  exact absurd h (Option.some_ne_none m).symm

theorem step_nil (h : t.isDirAt l = true) : t.step l [] = some l := by
  rw [step, if_pos h, if_pos (Or.inl rfl)]

theorem step_of_proper (h : t.isDirAt l = true) (hcomp : Proper comp) :
    t.step l comp = some (l ++ [comp]) := by
  have hstay : ¬ (comp = [] ∨ comp = ['.']) := by
    rintro (rfl | rfl)
    · exact hcomp.ne_nil rfl
    · exact hcomp.ne_here rfl
  rw [step, if_pos h, if_neg hstay, if_neg hcomp.ne_up]

theorem walk_append (comps comps' : List (List Char)) :
    t.walk l (comps ++ comps') = (t.walk l comps).bind fun m => t.walk m comps' := by
  induction comps generalizing l with
  | nil => rfl
  | cons comp comps ih =>
      rw [List.cons_append, walk, walk]
      cases t.step l comp with
      | none => rfl
      | some m => exact ih

theorem walk_singleton : t.walk l [comp] = t.step l comp := by
  rw [walk]
  cases t.step l comp <;> rfl

/-- Components that stay lead nowhere else. -/
theorem walk_replicate_nil {n : ℕ} (h : t.walk l (List.replicate n []) = some m) : m = l := by
  induction n with
  | zero => exact (Option.some.inj h).symm
  | succ n ih =>
      rw [List.replicate_succ, walk] at h
      obtain ⟨l', hstep, hrest⟩ := Option.bind_eq_some_iff.mp h
      rw [step_nil (isDirAt_of_step hstep)] at hstep
      obtain rfl := Option.some.inj hstep
      exact ih hrest

theorem isDirAt_of_append (l m : Location) (h : t.isDirAt (l ++ m) = true) :
    t.isDirAt l = true := by
  induction m using List.reverseRecOn with
  | nil => rwa [List.append_nil] at h
  | append_singleton m name ih =>
      rw [← List.append_assoc] at h
      exact ih (t.parent _ _ h).1

theorem proper_of_mem (h : t.isDirAt l = true) {name : List Char} (hname : name ∈ l) :
    Proper name := by
  obtain ⟨before, after, rfl⟩ := List.append_of_mem hname
  rw [List.append_cons] at h
  exact (t.parent before name (isDirAt_of_append _ after h)).2

/-- The names of a directory lead to it. -/
theorem walk_location (l m : Location) (h : t.isDirAt (l ++ m) = true) :
    t.walk l m = some (l ++ m) := by
  induction m generalizing l with
  | nil => rw [List.append_nil, walk]
  | cons name m ih =>
      have hassoc : l ++ name :: m = l ++ [name] ++ m := by simp
      rw [hassoc] at h ⊢
      obtain ⟨hdir, hname⟩ := t.parent l name (isDirAt_of_append _ m h)
      rw [walk, step_of_proper hdir hname]
      exact ih _ h

theorem write_of_locate_eq_none (h : t.locate p = none) (content : γ) :
    t.write p content = none := by
  rw [write, h]

theorem write_of_isDirAt (h : t.locate p = some l) (hdir : t.isDirAt l = true) (content : γ) :
    t.write p content = none := by
  rw [write, h]
  exact dif_pos hdir

theorem write_of_not_isDirAt (h : t.locate p = some l) (hdir : ¬ t.isDirAt l = true)
    (content : γ) : t.write p content = some (t.put l content hdir) := by
  rw [write, h]
  exact dif_neg hdir

theorem ne_nil_of_locate (h : t.locate p = some l) : p ≠ [] := by
  rintro rfl
  cases h

theorem isDir_eq_of_locate (h : t.locate p = some l) : t.isDir p = t.isDirAt l := by
  rw [isDir, h]
  rfl

theorem isDir_of_locate (h : t.locate p = some l) (hdir : t.isDirAt l = true) :
    t.isDir p = true := (isDir_eq_of_locate h).trans hdir

theorem isEntry_of_locate (h : t.locate p = some l) :
    t.isEntry p = (t.isDirAt l || (t.fileAt l).isSome) := by
  rw [isEntry, h]
  rfl

theorem origin_append {q : List Char} (hq : q ≠ []) (rest : List Char) :
    t.origin (q ++ rest) = t.origin q := by
  cases q with
  | nil => exact absurd rfl hq
  | cons c q => rfl

/-- Slashes behind a path to a directory lead to the same directory. -/
theorem locate_of_append_slashes {n : ℕ} (hp : p ≠ [])
    (h : t.walk (t.origin p) (components (p ++ List.replicate n '/')) = some l) :
    t.locate p = some l := by
  rw [components_append_slashes, walk_append] at h
  obtain ⟨m, hwalk, hrest⟩ := Option.bind_eq_some_iff.mp h
  rw [locate, if_neg hp, hwalk, walk_replicate_nil hrest]

/-- A path with a slash leads somewhere only when its `dirname` is a directory. -/
theorem isDir_dirname (h : t.locate p = some l) (hslash : '/' ∈ p) :
    t.isDir (dirname p) = true := by
  obtain ⟨init, hp, hhead⟩ := exists_of_slash_mem hslash
  have hne := ne_nil_of_locate h
  have hcomps : components p = components init ++ [basename p] := by
    conv_lhs => rw [hp]
    rw [components_append_cons, components_of_not_mem (slash_not_mem_basename p)]
  rw [locate, if_neg hne, hcomps, walk_append] at h
  obtain ⟨d, hwalk, hstep⟩ := Option.bind_eq_some_iff.mp h
  rw [walk_singleton] at hstep
  have hdir := isDirAt_of_step hstep
  -- the text in front of the name leads to the same directory, with its slash
  have hslashed : t.walk (t.origin p) (components (init ++ ['/'])) = some d := by
    have hnil : components [] = [[]] := rfl
    rw [components_append_cons init [], hnil, walk_append, hwalk]
    exact (walk_singleton).trans (step_nil hdir)
  have hsplit : p = init ++ ['/'] ++ basename p := by simpa using hp
  refine isDir_of_locate (l := d) ?_ hdir
  rw [dirname, hhead]
  split
  · rw [hsplit, origin_append (by simp)] at hslashed
    rw [locate, if_neg (by simp), hslashed]
  · rename_i hall
    obtain ⟨n, hn⟩ := exists_rdropWhile_slash (init ++ ['/'])
    generalize (init ++ ['/']).rdropWhile (· = '/') = q at hn ⊢
    have hqne : q ≠ [] := by
      rintro rfl
      refine hall (List.all_eq_true.mpr fun c hc => ?_)
      rw [hn, List.nil_append] at hc
      simpa using List.eq_of_mem_replicate hc
    rw [hsplit, hn, List.append_assoc, origin_append hqne] at hslashed
    exact locate_of_append_slashes hqne hslashed

theorem locate_of_not_mem (hp : p ≠ []) (hslash : '/' ∉ p) :
    t.locate p = t.step t.cwd p := by
  have horigin : t.origin p = t.cwd := by
    rw [origin, if_neg]
    intro hhead
    exact hslash (List.mem_of_mem_head? hhead)
  rw [locate, if_neg hp, horigin, components_of_not_mem hslash, walk_singleton]

theorem isDirAt_dropLast (h : t.isDirAt l = true) : t.isDirAt l.dropLast = true := by
  rcases List.eq_nil_or_concat l with rfl | ⟨front, last, rfl⟩
  · exact h
  · rw [List.concat_eq_append] at h ⊢
    rw [List.dropLast_concat]
    exact (t.parent front last h).1

/-- A name that is no directory is looked up in the working directory. -/
theorem locate_of_not_isDir (hp : p ≠ []) (hslash : '/' ∉ p) (hdir : ¬ t.isDir p = true) :
    t.locate p = some (t.cwd ++ [p]) := by
  have hstep := locate_of_not_mem (t := t) hp hslash
  have hhere : p ≠ ['.'] := by
    rintro rfl
    rw [step, if_pos t.cwd_isDir, if_pos (Or.inr rfl)] at hstep
    exact hdir (isDir_of_locate hstep t.cwd_isDir)
  have hup : p ≠ ['.', '.'] := by
    rintro rfl
    rw [step, if_pos t.cwd_isDir, if_neg (by decide), if_pos rfl] at hstep
    exact hdir (isDir_of_locate hstep (isDirAt_dropLast t.cwd_isDir))
  rw [hstep, step_of_proper t.cwd_isDir ⟨hp, hhere, hup, hslash⟩]

theorem intercalate_append_singleton (l : Location) (name : List Char) (h : l ≠ []) :
    ['/'].intercalate (l ++ [name]) = ['/'].intercalate l ++ '/' :: name := by
  induction l with
  | nil => exact absurd rfl h
  | cons first l ih =>
      rw [List.cons_append, List.intercalate_cons_of_ne_nil (by simp)]
      by_cases hl : l = []
      · subst hl
        simp
      · rw [ih hl, List.intercalate_cons_of_ne_nil hl, List.append_assoc, List.append_assoc,
          List.append_assoc]

theorem join_getcwd (t : FileTree γ) {name : List Char} (h : Proper name) :
    join t.getcwd name = '/' :: ['/'].intercalate (t.cwd ++ [name]) := by
  have hhead : ¬ name.head? = some '/' := fun hhead => h.no_slash (List.mem_of_mem_head? hhead)
  rw [join, if_neg hhead]
  rcases List.eq_nil_or_concat t.cwd with hnil | ⟨l, last, hcwd⟩
  · rw [getcwd, hnil]
    simp
  · rw [List.concat_eq_append] at hcwd
    have hlast : Proper last := (t.parent l last (hcwd ▸ t.cwd_isDir)).2
    have hcwdne : t.cwd ≠ [] := by
      rw [hcwd]
      simp
    obtain ⟨front, hfront⟩ : ∃ front, t.getcwd = front ++ last := by
      rw [getcwd, hcwd]
      by_cases hl : l = []
      · subst hl
        exact ⟨['/'], by simp⟩
      · rw [intercalate_append_singleton l last hl]
        exact ⟨'/' :: (['/'].intercalate l ++ ['/']), by simp⟩
    have hslash : ¬ (t.getcwd = [] ∨ t.getcwd.getLast? = some '/') := by
      rintro (hnil | hend)
      · exact absurd hnil (List.cons_ne_nil _ _)
      · obtain ⟨c, hc⟩ := Option.ne_none_iff_exists'.mp
          (mt List.getLast?_eq_none_iff.mp hlast.ne_nil)
        rw [hfront, List.getLast?_append, hc, Option.some_or, ← hc] at hend
        exact hlast.no_slash (List.mem_of_getLast? hend)
    rw [if_neg hslash, getcwd, intercalate_append_singleton t.cwd name hcwdne]
    rfl

/-- A file of the working directory is found under its whole path. -/
theorem locate_join_getcwd (t : FileTree γ) {name : List Char} (h : Proper name) :
    t.locate (join t.getcwd name) = some (t.cwd ++ [name]) := by
  have hnames : ∀ n ∈ t.cwd ++ [name], '/' ∉ n := by
    intro n hn
    rcases List.mem_append.mp hn with hn | hn
    · exact (proper_of_mem t.cwd_isDir hn).no_slash
    · rw [List.mem_singleton.mp hn]
      exact h.no_slash
  have hcomps : components ('/' :: ['/'].intercalate (t.cwd ++ [name])) =
      [] :: (t.cwd ++ [name]) := by
    have hcons := components_append_cons [] (['/'].intercalate (t.cwd ++ [name]))
    rw [List.nil_append] at hcons
    rw [hcons, components, components, List.splitOn_intercalate '/' hnames (by simp)]
    rfl
  have hwalk := walk_location [] t.cwd t.cwd_isDir
  rw [List.nil_append] at hwalk
  have horigin : t.origin ('/' :: ['/'].intercalate (t.cwd ++ [name])) = [] := if_pos rfl
  rw [join_getcwd t h, locate, if_neg (List.cons_ne_nil _ _), hcomps, horigin, walk,
    step_nil t.root]
  change t.walk [] (t.cwd ++ [name]) = _
  rw [walk_append, hwalk]
  exact (walk_singleton).trans (step_of_proper t.cwd_isDir h)

end FileTree

end Paths
