/-
Keys that are looked up while files change.

Whatever happens to the files of a process, and whatever format they are written in, a key is looked
up in the value that the file at its path had when it could first be read and parsed. What a look-up
answers can so be told from the history of the files and of the look-ups, without the values that
were kept.

* `KeyCache.lookUp_of_leads` — what is answered where the pieces of a key lead in a value.
* `KeyReader.cache_run` — the value that is kept for a path is the one that was parsed first.
* `KeyReader.first_value_is_kept` — what is answered after any history, and what makes no difference
  to it.
-/
import RemoteCall.Config.KeyCache
import RemoteCall.Proofs.Config.Paths
import RemoteCall.Yaml.Untyped

namespace RemoteCall

/-! ## Keys in a value -/

namespace Yaml.Value

/-- Names lead from one value to another, each name through the first entry that has it as its key.
A mapping with a tag is still one. -/
inductive Leads : Value → List String → Value → Prop where
  | here (v : Value) : Leads v [] v
  | enter {v inner target : Value} {before after : List (Value × Value)} {name : String}
      {names : List String}
      (mapping : v.untagged = .mapping (before ++ (.string name, inner) :: after))
      (first : ∀ entry ∈ before, entry.1 ≠ .string name) (rest : Leads inner names target) :
      Leads v (name :: names) target

variable {v target : Value} {name : String} {names : List String}

theorem same_string_iff {k : Value} : same k (.string name) = true ↔ k = .string name := by
  cases k <;> simp [same]

/-- The value under a name is the one of the first entry that has it as its key. -/
theorem get_of_entry {inner : Value} {before after : List (Value × Value)}
    (mapping : v.untagged = .mapping (before ++ (.string name, inner) :: after))
    (first : ∀ entry ∈ before, entry.1 ≠ .string name) : v.get name = inner := by
  have hfind : (before ++ (.string name, inner) :: after).find?
      (fun entry => same entry.1 (.string name)) = some (.string name, inner) := by
    refine List.find?_eq_some_iff_append.mpr ⟨same_string_iff.mpr rfl, before, after, rfl, ?_⟩
    intro entry hentry
    rw [Bool.not_eq_true', ← Bool.not_eq_true, same_string_iff]
    exact first entry hentry
  rw [get, mapping]
  simp only [hfind, Option.map_some, Option.getD_some]

/-- Without such an entry it is null. -/
theorem entry_or_null (v : Value) (name : String) :
    (∃ before after, v.untagged = .mapping (before ++ (.string name, v.get name) :: after) ∧
      ∀ entry ∈ before, entry.1 ≠ .string name) ∨ v.get name = .null := by
  cases hv : v.untagged with
  | mapping entries =>
    cases hfind : entries.find? (fun entry => same entry.1 (.string name)) with
    | none =>
      right
      rw [get, hv]
      simp only [hfind, Option.map_none, Option.getD_none]
    | some entry =>
      left
      obtain ⟨hkey, before, after, rfl, hbefore⟩ := List.find?_eq_some_iff_append.mp hfind
      have hfirst : ∀ entry ∈ before, entry.1 ≠ .string name := by
        intro other hother hsame
        have hnot := hbefore other hother
        rw [same_string_iff.mpr hsame] at hnot
        cases hnot
      have hentry : entry = (.string name, entry.2) := Prod.ext (same_string_iff.mp hkey) rfl
      rw [hentry] at hv
      rw [get_of_entry hv hfirst, ← hentry]
      exact ⟨before, after, rfl, hfirst⟩
  | _ =>
    right
    rw [get, hv]

/-- Where the names lead, the look-up goes. -/
theorem Leads.foldl_get (h : v.Leads names target) : names.foldl get v = target := by
  induction h with
  | here v => rfl
  | enter mapping first rest ih => rw [List.foldl_cons, get_of_entry mapping first, ih]

theorem foldl_get_null (names : List String) : names.foldl get .null = .null := by
  induction names with
  | nil => rfl
  | cons name names ih => rwa [List.foldl_cons, show get .null name = .null from rfl]

/-- Where they lead nowhere, it finds null. -/
theorem foldl_get_of_not_leads (h : ∀ target, ¬v.Leads names target) :
    names.foldl get v = .null := by
  induction names generalizing v with
  | nil => exact absurd (.here v) (h v)
  | cons name names ih =>
    rw [List.foldl_cons]
    rcases entry_or_null v name with ⟨before, after, hmapping, hfirst⟩ | hnull
    · exact ih fun target htarget => h target (.enter hmapping hfirst htarget)
    · rw [hnull, foldl_get_null]

end Yaml.Value

namespace KeyCache

theorem pieces_eq_iff {key : String} {names : List String} : pieces key = names ↔
    names ≠ [] ∧ (∀ name ∈ names, '.' ∉ name.toList) ∧ ".".intercalate names = key :=
  Text.map_splitOn_eq_iff

/-- What a look-up answers at the value that its key leads to: nothing at null, the text of a
scalar, and a fault at a collection or at a value with a tag. -/
def answerAt (format : Yaml.Format) (key : String) : Yaml.Value → Except KeyFault (Option String)
  | .null => .ok none
  | .bool b => .ok (some (if b then "true" else "false"))
  | .int n => .ok (some (toString n))
  | .float x => .ok (some (format.floatText x))
  | .string text => .ok (some text)
  | .sequence _ | .mapping _ | .tagged _ _ => .error (.notAScalar key)

variable {format : Yaml.Format} {value target : Yaml.Value} {key : String}

theorem lookUp_eq_answerAt :
    lookUp format value key = answerAt format key ((pieces key).foldl Yaml.Value.get value) := by
  rw [lookUp]
  cases (pieces key).foldl Yaml.Value.get value <;> rfl

theorem lookUp_of_leads (h : value.Leads (pieces key) target) :
    lookUp format value key = answerAt format key target := by
  rw [lookUp_eq_answerAt, h.foldl_get]

theorem lookUp_of_not_leads (h : ∀ target, ¬value.Leads (pieces key) target) :
    lookUp format value key = .ok none := by
  rw [lookUp_eq_answerAt, Yaml.Value.foldl_get_of_not_leads h]
  rfl

theorem lookUp_ne_load (format : Yaml.Format) (value : Yaml.Value) (key : String)
    (cause : LoadFault) : lookUp format value key ≠ .error (.load cause) := by
  rw [lookUp]
  split
  · nofun
  · nofun

end KeyCache

/-! ## Histories -/

/-- The format of the files of a process, the files, and the values that it has kept of them. -/
structure KeyReader where
  format : Yaml.Format
  files : FileTree := {}
  cache : KeyCache := ∅

namespace KeyReader

/-- What happens: the files change, in whatever way, or a key is looked up in the file at a path. -/
inductive Deed where
  | change (change : FileTree → FileTree)
  | read (path key : String)

/-- A file is written. -/
def Deed.write (path : String) (bytes : Bytes) : Deed :=
  .change fun files => files.write path bytes

/-- A file is removed. -/
def Deed.remove (path : String) : Deed :=
  .change fun files => files.remove path

/-- What a look-up is answered with. -/
def answer (r : KeyReader) (path key : String) : Except KeyFault (Option String) :=
  (r.cache.read r.format r.files path key).1

/-- What a deed leaves. -/
def after (r : KeyReader) : Deed → KeyReader
  | .change change => { r with files := change r.files }
  | .read path key => { r with cache := (r.cache.read r.format r.files path key).2 }

/-- What deeds leave. -/
def run (r : KeyReader) (deeds : List Deed) : KeyReader :=
  deeds.foldl after r

/-- The answers of the look-ups among some deeds, in their order. -/
def answers (r : KeyReader) : List Deed → List (Except KeyFault (Option String))
  | [] => []
  | .change change :: rest => (r.after (.change change)).answers rest
  | .read path key :: rest => r.answer path key :: (r.after (.read path key)).answers rest

/-- The files after some deeds, which no look-up changes. -/
def filesAfter (files : FileTree) : List Deed → FileTree
  | [] => files
  | .change change :: rest => filesAfter (change files) rest
  | .read _ _ :: rest => filesAfter files rest

/-- There is a file at a path, and this is its value. -/
def Holds (format : Yaml.Format) (files : FileTree) (path : String) (value : Yaml.Value) : Prop :=
  ∃ bytes, files.file? path = some (some bytes) ∧ format.value? bytes = some value

/-- The first look-up at a path that found a value to keep, whatever its key was, found this one. -/
def FirstParsed (format : Yaml.Format) (files : FileTree) (deeds : List Deed) (path : String)
    (value : Yaml.Value) : Prop :=
  ∃ before other key later, deeds = before ++ .read other key :: later ∧
    Path.Same other path ∧ Holds format (filesAfter files before) other value ∧
    ∀ earlier spelled looked between, before = earlier ++ .read spelled looked :: between →
      Path.Same spelled path → ∀ v, ¬Holds format (filesAfter files earlier) spelled v

/-- The value of the file at a path, if there is a file that has one. -/
def value? (format : Yaml.Format) (files : FileTree) (path : String) : Option Yaml.Value :=
  (files.file? path).bind fun content => (KeyCache.parse format content).toOption

/-- The value that was first parsed at a path, if any was. -/
def firstParsed? (format : Yaml.Format) (path : String) : FileTree → List Deed → Option Yaml.Value
  | _, [] => none
  | files, .change change :: rest => firstParsed? format path (change files) rest
  | files, .read other _ :: rest =>
    if Path.Same other path then
      (value? format files other).or (firstParsed? format path files rest)
    else firstParsed? format path files rest

variable {format : Yaml.Format} {r : KeyReader} {files : FileTree} {deeds more : List Deed}
  {path other key : String} {value : Yaml.Value}

/-! ## One look-up -/

theorem value?_eq_some_iff :
    value? format files path = some value ↔ Holds format files path value := by
  rw [value?, Holds, Option.bind_eq_some_iff]
  constructor
  · rintro ⟨content, hfile, hparse⟩
    cases content with
    | none => cases hparse
    | some bytes =>
      refine ⟨bytes, hfile, ?_⟩
      rw [KeyCache.parse] at hparse
      cases hvalue : format.value? bytes with
      | none =>
        rw [hvalue] at hparse
        cases hparse
      | some parsed =>
        rw [hvalue] at hparse
        exact hparse
  · rintro ⟨bytes, hfile, hvalue⟩
    refine ⟨some bytes, hfile, ?_⟩
    rw [KeyCache.parse, hvalue]
    rfl

/-- Of what is kept a look-up changes nothing but the value of its own path, and that only if there
is none yet and the file has one. -/
theorem cache_read (r : KeyReader) (other key path : String) :
    (r.after (.read other key)).cache[Path.key path]? =
      if Path.Same other path then r.cache[Path.key path]?.or (value? r.format r.files other)
      else r.cache[Path.key path]? := by
  simp only [← Path.key_eq_iff]
  show (r.cache.load r.format r.files other).2[Path.key path]? = _
  rw [KeyCache.load, value?]
  cases r.files.file? other with
  | none => simp
  | some content =>
    cases hkept : r.cache[Path.key other]? with
    | some value =>
      simp only
      split
      · next hsame => rw [← hsame, hkept, Option.some_or]
      · rfl
    | none =>
      cases hparse : KeyCache.parse r.format content with
      | error cause => simp [hparse, Except.toOption]
      | ok value =>
        simp only [Table.getElem?_insert_eq, Option.bind_some, hparse, Except.toOption]
        by_cases hsame : Path.key other = Path.key path
        · rw [if_pos hsame.symm, if_pos hsame, ← hsame, hkept, Option.none_or]
        · rw [if_neg (Ne.symm hsame), if_neg hsame]

/-- Without a file there is no answer, whatever was kept. -/
theorem answer_of_no_file (h : r.files.file? path = none) :
    r.answer path key = .error (.load (.notAFile path)) := by
  rw [answer, KeyCache.read, KeyCache.load, h]
  rfl

/-- With one, the answer is found in the value that is kept by then. -/
theorem answer_of_value (h : r.files.file? path ≠ none)
    (kept : r.cache[Path.key path]?.or (value? r.format r.files path) = some value) :
    r.answer path key = KeyCache.lookUp r.format value key := by
  obtain ⟨content, hfile⟩ := Option.ne_none_iff_exists'.mp h
  rw [answer, KeyCache.read, KeyCache.load, hfile]
  cases hcache : r.cache[Path.key path]? with
  | some cached =>
    rw [hcache, Option.some_or] at kept
    cases kept
    rfl
  | none =>
    rw [hcache, Option.none_or, value?, hfile, Option.bind_some] at kept
    cases hparse : KeyCache.parse r.format content with
    | error cause =>
      rw [hparse] at kept
      cases kept
    | ok parsed =>
      rw [hparse] at kept
      cases kept
      simp only [hparse]
      rfl

/-- If nothing is kept by then, the fault of the file is the answer. -/
theorem answer_of_no_value {content : Option Bytes} (h : r.files.file? path = some content)
    (nothing : r.cache[Path.key path]?.or (value? r.format r.files path) = none) :
    ∃ cause, KeyCache.parse r.format content = .error cause ∧
      r.answer path key = .error (.load cause) := by
  obtain ⟨hcache, hvalue⟩ := Option.or_eq_none_iff.mp nothing
  rw [value?, h, Option.bind_some] at hvalue
  cases hparse : KeyCache.parse r.format content with
  | ok parsed =>
    rw [hparse] at hvalue
    cases hvalue
  | error cause =>
    refine ⟨cause, rfl, ?_⟩
    rw [answer, KeyCache.read, KeyCache.load, h, hcache]
    simp only [hparse]
    rfl

/-- A look-up that finds no value leaves everything as it is. -/
theorem after_of_fault {cause : LoadFault} (h : r.answer path key = .error (.load cause)) :
    r.after (.read path key) = r := by
  have hfault : (r.cache.load r.format r.files path).1.bind
      (fun v => KeyCache.lookUp r.format v key) = .error (.load cause) := h
  have hcache : (r.cache.load r.format r.files path).2 = r.cache := by
    unfold KeyCache.load at hfault ⊢
    cases hfile : r.files.file? path with
    | none => rfl
    | some content =>
      cases hkept : r.cache[Path.key path]? with
      | some value => rfl
      | none =>
        cases hparse : KeyCache.parse r.format content with
        | error cause => simp only [hparse]
        | ok value =>
          -- only here a value is kept, and a look-up in a value never has such a fault
          simp only [hfile, hkept, hparse] at hfault
          exact absurd hfault (KeyCache.lookUp_ne_load r.format value key cause)
  show { r with cache := (r.cache.load r.format r.files path).2 } = r
  rw [hcache]

/-- No more than the files and what is kept for its own path counts for a look-up. -/
theorem answer_congr {r' : KeyReader} (hformat : r.format = r'.format)
    (hfiles : r.files = r'.files) (hcache : r.cache[Path.key path]? = r'.cache[Path.key path]?) :
    r.answer path key = r'.answer path key := by
  have hload : (r.cache.load r.format r.files path).1 =
      (r'.cache.load r'.format r'.files path).1 := by
    rw [KeyCache.load, KeyCache.load, hformat, hfiles, hcache]
    split
    · rfl
    · split
      · rfl
      · split <;> rfl
  show (r.cache.load r.format r.files path).1.bind _ =
    (r'.cache.load r'.format r'.files path).1.bind _
  rw [hload, hformat]

/-! ## Runs -/

theorem format_run (r : KeyReader) (deeds : List Deed) : (r.run deeds).format = r.format := by
  induction deeds generalizing r with
  | nil => rfl
  | cons deed rest ih =>
    rw [run, List.foldl_cons]
    cases deed with
    | change change => exact ih _
    | read other key => exact ih _

theorem files_run (r : KeyReader) (deeds : List Deed) :
    (r.run deeds).files = filesAfter r.files deeds := by
  induction deeds generalizing r with
  | nil => rfl
  | cons deed rest ih =>
    rw [run, List.foldl_cons]
    cases deed with
    | change change => exact ih _
    | read other key => exact ih _

/-- What was kept stays, and of a path for which nothing was kept it is the value that was parsed
first. -/
theorem cache_run (r : KeyReader) (deeds : List Deed) (path : String) :
    (r.run deeds).cache[Path.key path]? =
      r.cache[Path.key path]?.or (firstParsed? r.format path r.files deeds) := by
  -- by induction from the front, as the reader goes: what is kept is carried along on the left
  induction deeds generalizing r with
  | nil => exact (Option.or_none).symm
  | cons deed rest ih =>
    have hrest := ih (r.after deed)
    rw [run, List.foldl_cons]
    cases deed with
    | change change => exact hrest
    | read other key =>
      rw [cache_read] at hrest
      refine hrest.trans ?_
      rw [firstParsed?]
      split
      · exact Option.or_assoc
      · rfl

/-- A look-up at the end of a history is one more deed of it. -/
theorem firstParsed?_append_read (format : Yaml.Format) (path key : String) (files : FileTree)
    (deeds : List Deed) : firstParsed? format path files (deeds ++ [.read path key]) =
      (firstParsed? format path files deeds).or (value? format (filesAfter files deeds) path) := by
  induction deeds generalizing files with
  | nil => simp [firstParsed?, filesAfter, Path.Same]
  | cons deed rest ih =>
    cases deed with
    | change change => exact ih _
    | read other looked =>
      rw [List.cons_append, firstParsed?, firstParsed?, filesAfter, ih]
      split
      · exact Option.or_assoc.symm
      · rfl

/-! ## The first value -/

/-- The first deed either is the look-up in question, or it finds nothing and the others decide. -/
theorem firstParsed_cons {deed : Deed} :
    FirstParsed format files (deed :: more) path value ↔
      (∃ other key, deed = .read other key ∧ Path.Same other path ∧
        Holds format files other value) ∨
      ((∀ other key, deed = .read other key → Path.Same other path →
          ∀ v, ¬Holds format files other v) ∧
        FirstParsed format (filesAfter files [deed]) more path value) := by
  have hfiles : ∀ deeds, filesAfter files (deed :: deeds) =
      filesAfter (filesAfter files [deed]) deeds := by
    intro deeds
    cases deed <;> rfl
  constructor
  · rintro ⟨before, other, key, later, heq, hsame, hholds, hfirst⟩
    -- whether anything happened before the look-up that found the value
    cases before with
    | nil =>
      obtain ⟨rfl, -⟩ := List.cons.inj heq
      exact .inl ⟨other, key, rfl, hsame, hholds⟩
    | cons first before =>
      obtain ⟨rfl, rfl⟩ := List.cons.inj heq
      refine .inr ⟨?_, before, other, key, later, rfl, hsame, hfiles before ▸ hholds, ?_⟩
      · rintro spelled looked rfl hsame v
        exact hfirst [] spelled looked before rfl hsame v
      · rintro earlier spelled looked between rfl hsame v
        rw [← hfiles]
        exact hfirst (deed :: earlier) spelled looked between rfl hsame v
  · rintro (⟨other, key, rfl, hsame, hholds⟩ |
      ⟨hnone, before, other, key, later, rfl, hsame, hholds, hfirst⟩)
    · refine ⟨[], other, key, more, rfl, hsame, hholds, ?_⟩
      intro earlier spelled looked between heq
      exact absurd heq.symm (List.append_ne_nil_of_right_ne_nil earlier (List.cons_ne_nil _ _))
    · refine ⟨deed :: before, other, key, later, rfl, hsame, (hfiles before).symm ▸ hholds, ?_⟩
      intro earlier spelled looked between heq hsame v
      cases earlier with
      | nil =>
        obtain ⟨rfl, -⟩ := List.cons.inj heq
        exact hnone spelled looked rfl hsame v
      | cons first earlier =>
        obtain ⟨rfl, rfl⟩ := List.cons.inj heq
        rw [hfiles]
        exact hfirst earlier spelled looked between rfl hsame v

theorem firstParsed_read : FirstParsed format files (.read other key :: more) path value ↔
    (Path.Same other path ∧ Holds format files other value) ∨
      ((Path.Same other path → ∀ v, ¬Holds format files other v) ∧
        FirstParsed format files more path value) := by
  rw [firstParsed_cons]
  constructor
  · rintro (⟨_, _, ⟨⟩, hsame, hholds⟩ | ⟨hnone, hmore⟩)
    · exact .inl ⟨hsame, hholds⟩
    · exact .inr ⟨hnone other key rfl, hmore⟩
  · rintro (⟨hsame, hholds⟩ | ⟨hnone, hmore⟩)
    · exact .inl ⟨other, key, rfl, hsame, hholds⟩
    · refine .inr ⟨?_, hmore⟩
      rintro _ _ ⟨⟩
      exact hnone

theorem firstParsed_change {change : FileTree → FileTree} :
    FirstParsed format files (.change change :: more) path value ↔
      FirstParsed format (change files) more path value := by
  rw [firstParsed_cons]
  constructor
  · rintro (⟨_, _, ⟨⟩, -⟩ | ⟨-, hmore⟩)
    exact hmore
  · exact fun hmore => .inr ⟨nofun, hmore⟩

theorem firstParsed?_eq_some_iff : firstParsed? format path files deeds = some value ↔
    FirstParsed format files deeds path value := by
  induction deeds generalizing files with
  | nil =>
    rw [firstParsed?]
    constructor
    · nofun
    · rintro ⟨before, other, key, later, heq, -⟩
      exact absurd heq.symm (List.append_ne_nil_of_right_ne_nil before (List.cons_ne_nil _ _))
  | cons deed rest ih =>
    cases deed with
    | change change => rw [firstParsed?, firstParsed_change, ih]
    | read other key =>
      rw [firstParsed?, firstParsed_read]
      by_cases hsame : Path.Same other path
      · cases hvalue : value? format files other with
        | some first =>
          have hfirst := value?_eq_some_iff.mp hvalue
          rw [if_pos hsame, Option.some_or, ← hvalue, value?_eq_some_iff]
          constructor
          · exact fun hholds => .inl ⟨hsame, hholds⟩
          · rintro (⟨-, hholds⟩ | ⟨hnone, -⟩)
            · exact hholds
            · exact absurd hfirst (hnone hsame first)
        | none =>
          have hnone : ∀ v, ¬Holds format files other v := by
            intro v hv
            rw [value?_eq_some_iff.mpr hv] at hvalue
            cases hvalue
          rw [if_pos hsame, Option.none_or, ih]
          constructor
          · exact fun hmore => .inr ⟨fun _ => hnone, hmore⟩
          · rintro (⟨-, hholds⟩ | ⟨-, hmore⟩)
            · exact absurd hholds (hnone value)
            · exact hmore
      · rw [if_neg hsame, ih]
        constructor
        · exact fun hmore => .inr ⟨fun h => absurd h hsame, hmore⟩
        · rintro (⟨h, -⟩ | ⟨-, hmore⟩)
          · exact absurd h hsame
          · exact hmore

/-! ## What makes no difference -/

/-- A deed that may change what a look-up at a path finds: every change of files, and the look-ups
at this path. -/
def Deed.concerns (path : String) : Deed → Bool
  | .change _ => true
  | .read other _ => decide (Path.Same other path)

theorem filesAfter_filter (path : String) (files : FileTree) (deeds : List Deed) :
    filesAfter files (deeds.filter (·.concerns path)) = filesAfter files deeds := by
  induction deeds generalizing files with
  | nil => rfl
  | cons deed rest ih =>
    cases deed with
    | change change => exact ih _
    | read other key =>
      rw [List.filter_cons]
      split
      · exact ih _
      · exact ih _

theorem firstParsed?_filter (format : Yaml.Format) (path : String) (files : FileTree)
    (deeds : List Deed) : firstParsed? format path files (deeds.filter (·.concerns path)) =
      firstParsed? format path files deeds := by
  induction deeds generalizing files with
  | nil => rfl
  | cons deed rest ih =>
    cases deed with
    | change change => exact ih _
    | read other key =>
      rw [List.filter_cons, firstParsed?, Deed.concerns]
      by_cases hsame : Path.Same other path
      · rw [if_pos (decide_eq_true hsame), if_pos hsame, firstParsed?, if_pos hsame, ih]
      · rw [if_neg (fun h => hsame (of_decide_eq_true h)), if_neg hsame, ih]

/-! ## What is answered -/

/-- What is kept for a path when a look-up at it is answered. -/
theorem kept_by_then (format : Yaml.Format) (files : FileTree) (deeds : List Deed)
    (path key : String) :
    let r := run { format := format, files := files } deeds
    r.cache[Path.key path]?.or (value? r.format r.files path) =
      firstParsed? format path files (deeds ++ [.read path key]) := by
  intro r
  have hcache : r.cache[Path.key path]? = firstParsed? format path files deeds := by
    rw [cache_run, Std.ExtTreeMap.getElem?_empty, Option.none_or]
  rw [hcache, format_run, files_run, firstParsed?_append_read]

/-- **The first value is kept.** Whatever the format of the files of a process is, whatever has
happened to them, and whatever keys have been looked up, over any paths:

* a look-up fails if there is no file at its path;
* else it goes into the value of the file at the moment of the first look-up at this path that could
  parse it, and if there was none it fails for what is wrong with the file now;
* in a value it goes where the pieces of the key lead, and answers null and missing entries by
  nothing, scalars by their text, and collections and values with a tag by a fault;
* a look-up that fails for want of a value makes no difference to any later one, and a look-up at
  another path makes none either. -/
theorem first_value_is_kept (format : Yaml.Format) (files : FileTree) (deeds : List Deed) :
    let r := run { format := format, files := files } deeds
    (∀ path key, r.files.file? path = none → r.answer path key = .error (.load (.notAFile path))) ∧
    (∀ path key value, r.files.file? path ≠ none →
      FirstParsed format files (deeds ++ [.read path key]) path value →
      r.answer path key = KeyCache.lookUp format value key) ∧
    (∀ path key content, r.files.file? path = some content →
      (∀ value, ¬FirstParsed format files (deeds ++ [.read path key]) path value) →
      ∃ cause, KeyCache.parse format content = .error cause ∧
        r.answer path key = .error (.load cause)) ∧
    (∀ value key names, names ≠ [] → (∀ name ∈ names, '.' ∉ name.toList) →
      ".".intercalate names = key →
      (∀ target, Yaml.Value.Leads value names target →
        KeyCache.lookUp format value key = KeyCache.answerAt format key target) ∧
      ((∀ target, ¬Yaml.Value.Leads value names target) →
        KeyCache.lookUp format value key = .ok none)) ∧
    (∀ path key cause, r.answer path key = .error (.load cause) →
      ∀ later, (r.after (.read path key)).answers later = r.answers later) ∧
    ∀ path key,
      (run { format := format, files := files } (deeds.filter (·.concerns path))).answer path key =
        r.answer path key := by
  intro r
  have hformat : r.format = format := format_run _ deeds
  refine ⟨fun path key => answer_of_no_file, fun path key value hfile hfirst => ?_,
    fun path key content hfile hnone => ?_, fun value key names hsome hclean hkey => ?_,
    fun path key cause hfault later => ?_, fun path key => ?_⟩
  · rw [← hformat]
    refine answer_of_value hfile ?_
    rw [kept_by_then format files deeds path key]
    exact firstParsed?_eq_some_iff.mpr hfirst
  · rw [← hformat]
    refine answer_of_no_value hfile ?_
    rw [kept_by_then format files deeds path key, Option.eq_none_iff_forall_ne_some]
    exact fun value hvalue => hnone value (firstParsed?_eq_some_iff.mp hvalue)
  · have hpieces := KeyCache.pieces_eq_iff.mpr ⟨hsome, hclean, hkey⟩
    rw [← hpieces]
    exact ⟨fun target => KeyCache.lookUp_of_leads, KeyCache.lookUp_of_not_leads⟩
  · rw [after_of_fault hfault]
  · refine answer_congr ?_ ?_ ?_
    · rw [format_run, hformat]
    · rw [files_run, files_run, filesAfter_filter]
    · rw [cache_run, cache_run, firstParsed?_filter]

/-- A text with no value. -/
def broken : Bytes := Utf8.encode "[".toList

/-- A text with a number behind two names. -/
def mended : Bytes := Utf8.encode "a: {b: 7}".toList

/-- The same text with another number. -/
def renewed : Bytes := Utf8.encode "a: {b: 8}".toList

/-- A file that is looked up before it can be parsed and again when it can, and is then written
anew. -/
def mending : List Deed :=
  [.write "/app/c.yaml" broken, .read "/app/c.yaml" "a.b", .write "/app/c.yaml" mended,
    .read "/app//c.yaml" "a", .remove "/app/c.yaml", .write "/app/c.yaml" renewed]

/-- What the file held when it could first be parsed. -/
def firstValue : Yaml.Value :=
  .mapping [(.string "a", .mapping [(.string "b", .int 7)])]

theorem value?_broken : Yaml.Format.core.value? broken = none := by
  rw [Yaml.Format.value?_core]
  rfl

theorem value?_mended : Yaml.Format.core.value? mended = some firstValue := by
  have htext : Utf8.decode? mended = some "a: {b: 7}".toList := by decide +kernel
  have htokens : Yaml.tokens? "a: {b: 7}".toList = some [.blockMappingStart, .key,
      .scalar "a" .plain, .value, .flowMappingStart, .key, .scalar "b" .plain, .value,
      .scalar "7" .plain, .flowMappingEnd, .blockEnd] := by
    decide +kernel
  rw [Yaml.Format.value?_core, Yaml.Document.ofBytes?, htext, Option.bind_eq_bind,
    Option.bind_some, htokens, Option.bind_eq_bind, Option.bind_some]
  rfl

/-- The look-up that found a collection was the first to parse the file, under another spelling of
its path. -/
theorem mended_value_is_kept :
    (run { format := .core } mending).answer "/app/c.yaml" "a.b" = .ok (some "7") := by
  obtain ⟨-, hkept, -, hlook, -⟩ := first_value_is_kept .core {} mending
  have hfile : (run { format := .core } mending).files.file? "/app/c.yaml" =
      some (some renewed) := by
    rw [files_run]
    rfl
  have hbroken : ∀ v, ¬Holds .core (FileTree.write {} "/app/c.yaml" broken) "/app/c.yaml" v := by
    rintro v ⟨bytes, hheld, hvalue⟩
    rw [show (FileTree.write {} "/app/c.yaml" broken).file? "/app/c.yaml" = some (some broken)
      from rfl] at hheld
    cases hheld
    rw [value?_broken] at hvalue
    cases hvalue
  have hfirst : FirstParsed .core {} (mending ++ [.read "/app/c.yaml" "a.b"]) "/app/c.yaml"
      firstValue := by
    have hsame : Path.Same "/app//c.yaml" "/app/c.yaml" := by decide
    refine firstParsed_change.mpr (firstParsed_read.mpr (.inr ⟨fun _ => hbroken, ?_⟩))
    exact firstParsed_change.mpr (firstParsed_read.mpr
      (.inl ⟨hsame, mended, rfl, value?_mended⟩))
  have hleads : firstValue.Leads ["a", "b"] (.int 7) := by
    have hinner : Yaml.Value.Leads (.mapping [(.string "b", .int 7)]) ["b"] (.int 7) :=
      .enter (rfl : _ = Yaml.Value.mapping ([] ++ [_])) (List.forall_mem_nil _) (.here _)
    exact .enter (rfl : _ = Yaml.Value.mapping ([] ++ [_])) (List.forall_mem_nil _) hinner
  have hanswer := (hlook firstValue "a.b" ["a", "b"] (by simp) (by decide) (by decide)).1 _ hleads
  calc (run { format := .core } mending).answer "/app/c.yaml" "a.b"
    _ = KeyCache.lookUp .core firstValue "a.b" := hkept _ _ _ (by rw [hfile]; nofun) hfirst
    _ = KeyCache.answerAt .core "a.b" (.int 7) := hanswer
    _ = .ok (some "7") := rfl

end KeyReader

end RemoteCall
