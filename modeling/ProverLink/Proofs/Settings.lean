import ProverLink.Proofs.ConfigFiles
import ProverLink.Proofs.TimeoutTexts

/-!
# Where settings come from

The executable and the timeout come from the environment, else from the file, else they are the
defaults; a value that is no good counts as missing. The arguments come from the file alone. The
relations below say what counts as good without saying how it is found out.
-/

namespace ProverLink.Config

open Blank

/-! ### Texts -/

/-- The second string is the first one without the blanks around it. -/
def IsStripped (s w : String) : Prop := Trims (fun c => isBlank c.toNat) s.toList w.toList

/-- Whether a string holds blanks only. -/
def IsBlankText (s : String) : Prop := ∀ c ∈ s.toList, isBlank c.toNat = true

lemma isStripped_strip (s : String) : IsStripped s (strip s) := by
  rw [IsStripped, strip, String.toList_ofList]
  exact trims_trim _ _

lemma IsStripped.eq_strip {s w : String} (h : IsStripped s w) : w = strip s := by
  rw [strip, trimBlank, ← h.eq_trim, String.ofList_toList]

lemma strip_eq_empty_iff {s : String} : strip s = "" ↔ IsBlankText s := by
  rw [strip, trimBlank, ← String.toList_inj, String.toList_ofList]
  exact trim_eq_nil_iff

lemma isEmpty_strip {s : String} : (!(strip s).isEmpty) = true ↔ ¬ IsBlankText s := by
  rw [← strip_eq_empty_iff, Bool.not_eq_true', ← Bool.not_eq_true, String.isEmpty_iff]

/-! ### The executable -/

/-- Where the executable comes from. -/
inductive ExecutableFrom (file : Option Toml) (env : Option String) : String → Prop where
  | environment {s w : String} (hs : env = some s) (hblank : ¬ IsBlankText s)
      (hw : IsStripped s w) : ExecutableFrom file env w
  | file {s w : String} (henv : ∀ s, env = some s → IsBlankText s) (hs : file = some (.str s))
      (hblank : ¬ IsBlankText s) (hw : IsStripped s w) : ExecutableFrom file env w
  | default (henv : ∀ s, env = some s → IsBlankText s)
      (hfile : ∀ s, file = some (.str s) → IsBlankText s) : ExecutableFrom file env "fstar.exe"

lemma isBlankText_empty : IsBlankText "" := by simp [IsBlankText]

lemma executableFrom_executableOf (s : Table) (env : Environment) :
    ExecutableFrom (s.get? "executable") (env.get? executableVariable) (executableOf s env) := by
  rw [executableOf]
  generalize env.get? executableVariable = var
  generalize s.get? "executable" = file
  dsimp only
  by_cases henv : IsBlankText (var.getD "")
  · have hvar : ∀ name, var = some name → IsBlankText name := by
      rintro name rfl
      exact henv
    rw [if_neg (isEmpty_strip.not.2 (not_not.2 henv))]
    split
    · rename_i name
      split
      · rename_i hname
        exact .file hvar rfl (isEmpty_strip.1 hname) (isStripped_strip name)
      · rename_i hname
        rw [isEmpty_strip, not_not] at hname
        exact .default hvar fun s hs => by cases hs; exact hname
    · rename_i hother
      exact .default hvar fun s hs => absurd hs (hother s)
  · rw [if_pos (isEmpty_strip.2 henv)]
    cases var with
    | none => exact absurd isBlankText_empty henv
    | some name => exact .environment rfl henv (isStripped_strip name)

lemma ExecutableFrom.spec {file : Option Toml} {env : Option String} {w : String}
    (h : ExecutableFrom file env w) :
    w ≠ "" ∧ (∀ c ∈ w.toList.head?, isBlank c.toNat = false) ∧
      ∀ c ∈ w.toList.getLast?, isBlank c.toNat = false := by
  have hstripped : ∀ {s : String}, ¬ IsBlankText s → IsStripped s w →
      w ≠ "" ∧ (∀ c ∈ w.toList.head?, isBlank c.toNat = false) ∧
        ∀ c ∈ w.toList.getLast?, isBlank c.toNat = false := by
    intro s hblank hw
    refine ⟨?_, hw.first, hw.last⟩
    rwa [hw.eq_strip, ne_eq, strip_eq_empty_iff]
  cases h with
  | environment hs hblank hw => exact hstripped hblank hw
  | file henv hs hblank hw => exact hstripped hblank hw
  | default =>
    have hfirst : "fstar.exe".toList.head? = some 'f' := by decide +kernel
    have hlast : "fstar.exe".toList.getLast? = some 'e' := by decide +kernel
    rw [hfirst, hlast]
    refine ⟨by decide, ?_, ?_⟩
    · rintro c ⟨⟩
      decide
    · rintro c ⟨⟩
      decide

/-! ### The timeout -/

/-- A number above zero. -/
inductive IsAboveZero : Binary64 → Prop where
  | infinity : IsAboveZero (.infinity false)
  | finite (m : Nat) (e : Int) (h : 0 < m) : IsAboveZero (.finite false m e)

lemma isPositive_iff {x : Binary64} : x.isPositive = true ↔ IsAboveZero x := by
  constructor
  · intro h
    cases x with
    | nan => cases h
    | infinity negative =>
      cases negative with
      | false => exact .infinity
      | true => cases h
    | finite negative m e =>
      cases negative with
      | false => exact .finite m e (Nat.pos_of_ne_zero (by simpa [Binary64.isPositive] using h))
      | true => cases h
  · intro h
    cases h with
    | infinity => rfl
    | finite m e h => simpa [Binary64.isPositive] using Nat.ne_of_gt h

/-- A text gives a timeout if it is a number above zero, blanks around it apart. -/
def GivesTimeout (s : String) (x : Binary64) : Prop :=
  IsAboveZero x ∧ ∃ w, IsStripped s w ∧ Binary64.read? (Text.ofString w) = some x

/-- A value of the file gives a timeout if it is no truth value and its text gives one. -/
def ValueGivesTimeout [Limits] (v : Toml) (x : Binary64) : Prop :=
  (∀ b, v ≠ .bool b) ∧ ∃ s, v.text = .ok s ∧ GivesTimeout s x

/-- Where the timeout comes from. -/
inductive TimeoutFrom [Limits] (file : Option Toml) (env : Option String) : Binary64 → Prop where
  | environment {s : String} {x : Binary64} (hs : env = some s) (hx : GivesTimeout s x) :
      TimeoutFrom file env x
  | file {v : Toml} {x : Binary64} (henv : ∀ s x, env = some s → ¬ GivesTimeout s x)
      (hv : file = some v) (hx : ValueGivesTimeout v x) : TimeoutFrom file env x
  | default (henv : ∀ s x, env = some s → ¬ GivesTimeout s x)
      (hfile : ∀ v x, file = some v → ¬ ValueGivesTimeout v x) : TimeoutFrom file env (.ofInt 2)

lemma number?_text_eq_some_iff {s : String} {x : Binary64} :
    (Setting.text (Text.ofString s)).number? = some x ↔
      ∃ w, IsStripped s w ∧ Binary64.read? (Text.ofString w) = some x := by
  have hnumber : (Setting.text (Text.ofString s)).number?
      = Binary64.read? (Text.ofString (strip s)) := by
    rw [Setting.number?, Text.ofString, Text.ofChars, trim_map, strip, Text.ofString,
      String.toList_ofList]
    rfl
  rw [hnumber]
  constructor
  · exact fun h => ⟨_, isStripped_strip s, h⟩
  · rintro ⟨w, hw, hx⟩
    rwa [← hw.eq_strip]

lemma timeout?_text_eq_some_iff {s : String} {x : Binary64} :
    (Setting.text (Text.ofString s)).timeout? = some x ↔ GivesTimeout s x := by
  rw [Setting.timeout?, Option.filter_eq_some_iff, isPositive_iff, number?_text_eq_some_iff,
    GivesTimeout, and_comm]

section Timeout

variable [Limits]

lemma timeout?_ofToml_eq_some_iff {v : Toml} (h : v.IsExact) {x : Binary64} :
    (Setting.ofToml v).timeout? = some x ↔ ValueGivesTimeout v x := by
  constructor
  · intro hx
    have hbool : ∀ b, v ≠ .bool b := by
      rintro b rfl
      cases hx
    rw [Setting.timeout?, Option.filter_eq_some_iff, isPositive_iff, Setting.number?_ofToml h,
      Option.bind_eq_some_iff] at hx
    obtain ⟨⟨s, hs, hnumber⟩, hpos⟩ := hx
    cases htext : v.text with
    | error e =>
      rw [htext] at hs
      cases hs
    | ok s' =>
      rw [htext] at hs
      cases hs
      exact ⟨hbool, s, htext, hpos, number?_text_eq_some_iff.1 hnumber⟩
  · rintro ⟨-, s, hs, hpos, hnumber⟩
    rw [Setting.timeout?, Option.filter_eq_some_iff, isPositive_iff, Setting.number?_ofToml h, hs]
    exact ⟨number?_text_eq_some_iff.2 hnumber, hpos⟩

lemma timeoutFrom_timeoutOf {s : Table} (h : Toml.Holds Toml.IsExact s) (env : Environment) :
    TimeoutFrom (s.get? "terminate_timeout") (env.get? timeoutVariable) (timeoutOf s env) := by
  have hfile : ∀ v, s.get? "terminate_timeout" = some v → v.IsExact := fun _ => h.get?
  rw [timeoutOf]
  generalize env.get? timeoutVariable = var
  generalize s.get? "terminate_timeout" = file at hfile
  dsimp only
  cases hvar : var.bind fun t => (Setting.text (Text.ofString t)).timeout? with
  | some x =>
    obtain ⟨t, rfl, hx⟩ := Option.bind_eq_some_iff.1 hvar
    exact .environment rfl (timeout?_text_eq_some_iff.1 hx)
  | none =>
    have henv : ∀ t x, var = some t → ¬ GivesTimeout t x := by
      rintro t x rfl hx
      rw [← timeout?_text_eq_some_iff] at hx
      rw [Option.bind_some, hx] at hvar
      cases hvar
    cases hvalue : file.bind fun v => (Setting.ofToml v).timeout? with
    | some x =>
      obtain ⟨v, rfl, hx⟩ := Option.bind_eq_some_iff.1 hvalue
      exact .file henv rfl ((timeout?_ofToml_eq_some_iff (hfile v rfl)).1 hx)
    | none =>
      refine .default henv ?_
      rintro v x rfl hx
      rw [← timeout?_ofToml_eq_some_iff (hfile v rfl)] at hx
      rw [Option.bind_some, hx] at hvalue
      cases hvalue

lemma TimeoutFrom.isAboveZero {file : Option Toml} {env : Option String} {x : Binary64}
    (h : TimeoutFrom file env x) : IsAboveZero x := by
  cases h with
  | environment hs hx => exact hx.1
  | file henv hv hx =>
    obtain ⟨-, s, -, hx⟩ := hx
    exact hx.1
  | default => exact .finite _ _ (by decide)

end Timeout

/-! ### The arguments -/

section Arguments

variable [Limits]

/-- Where the arguments come from: the words of a text, or the texts of a list. -/
inductive ArgsFrom : Option Toml → List String → Prop where
  | words {s : String} {ws : List String}
      (h : Splits (fun c => isBlank c.toNat) s.toList (ws.map String.toList)) :
      ArgsFrom (some (.str s)) ws
  | list {vs : List Toml} {ss : List String}
      (h : List.Forall₂ (fun v s => v.text = .ok s) vs ss) : ArgsFrom (some (.arr vs)) ss
  | other {v : Option Toml} (hstr : ∀ s, v ≠ some (.str s)) (harr : ∀ vs, v ≠ some (.arr vs)) :
      ArgsFrom v []

lemma forall₂_of_mapM {vs : List Toml} {ss : List String} (h : vs.mapM Toml.text = .ok ss) :
    List.Forall₂ (fun v s => v.text = .ok s) vs ss := by
  induction vs generalizing ss with
  | nil =>
    cases h
    exact .nil
  | cons v vs ih =>
    rw [List.mapM_cons] at h
    cases hs : v.text with
    | error e =>
      rw [hs] at h
      cases h
    | ok s =>
      cases hss : vs.mapM Toml.text with
      | error e =>
        rw [hs, hss] at h
        cases h
      | ok rest =>
        rw [hs, hss] at h
        cases h
        exact .cons hs (ih hss)

lemma argsFrom_of_argsOf {s : Table} {args : List String} (h : argsOf s = .ok args) :
    ArgsFrom (s.get? "args") args := by
  rw [argsOf] at h
  generalize s.get? "args" = v at h
  split at h
  · rename_i words
    cases h
    refine .words ?_
    rw [wordsOf, List.map_map]
    have hid : String.toList ∘ String.ofList = id := funext fun _ => String.toList_ofList
    rw [hid, List.map_id]
    exact splits_words _ _
  · rename_i items
    cases hargs : items.mapM Toml.text with
    | error e =>
      rw [hargs] at h
      cases h
    | ok ss =>
      rw [hargs] at h
      cases h
      exact .list (forall₂_of_mapM hargs)
  · rename_i hstr harr
    cases h
    exact .other hstr harr

/-- The words of a text are not empty, are free of blanks and hold all of it but the blanks. -/
lemma ArgsFrom.spec {s : String} {args : List String} (h : ArgsFrom (some (.str s)) args) :
    (∀ w ∈ args, w ≠ "" ∧ ∀ c ∈ w.toList, isBlank c.toNat = false) ∧
      args.flatMap String.toList = s.toList.filter fun c => !isBlank c.toNat := by
  cases h with
  | words h =>
    refine ⟨fun w hw => ?_, ?_⟩
    · have hword := h.forall_mem _ (List.mem_map_of_mem hw)
      exact ⟨fun hempty => hword.1 (by rw [hempty]; rfl), hword.2⟩
    · rw [List.flatMap_def, h.flatten]
  | other hstr => exact absurd rfl (hstr s)

end Arguments

/-! ### The configuration -/

lemma holds_ideSection {t : Table} (h : Toml.Holds Toml.IsExact t) :
    Toml.Holds Toml.IsExact (ideSection t) := by
  rw [ideSection]
  split
  · rename_i s hs
    cases h.get? hs with
    | table _ hs => exact hs
  · exact .nil

section Load

variable [Limits]

lemma holds_of_loadFile {files : FileTree} {place : Path} {t : Table}
    (h : (loadFile files place).result = .ok t) : Toml.Holds Toml.IsExact t := by
  rw [loadFile] at h
  split at h
  · cases h
  split at h
  · rw [parseTable] at h
    split at h
    · cases h
    split at h
    · rename_i hread
      cases h
      exact Toml.isExact_of_read hread
    · cases h
      exact .nil
    · cases h
    · cases h
  · split at h
    · cases h
      exact .nil
    · cases h
      exact .nil

variable {files : FileTree} {env : Environment} {root path : Option Path}

/-- Loading takes the section of the table that the file holds. -/
lemma exists_of_load {config : Config} (h : (load files env root path).result = .ok config) :
    ∃ t, (loadTable files root path).result = .ok t ∧ Toml.Holds Toml.IsExact (ideSection t) ∧
      ofSection (ideSection t) env = .ok config := by
  rcases ht : (loadFile files (location files.workingPath root path)).result with f | t
  · rw [load_of_fault ht] at h
    cases h
  · rw [load_of_table ht] at h
    exact ⟨t, ht, holds_ideSection (holds_of_loadFile ht), h⟩

lemma argsOf_congr {s s' : Table} (h : s.get? "args" = s'.get? "args") : argsOf s = argsOf s' := by
  rw [argsOf, argsOf, h]

lemma fields_of_ofSection {s : Table} {env : Environment} {config : Config}
    (h : ofSection s env = .ok config) : argsOf s = .ok config.args ∧
      config.executable = executableOf s env ∧ config.terminateTimeout = timeoutOf s env := by
  rw [ofSection] at h
  cases hargs : argsOf s with
  | error f =>
    rw [hargs] at h
    cases h
  | ok args =>
    cases htimeout : checkTimeout s with
    | error f =>
      rw [hargs, htimeout] at h
      cases h
    | ok _ =>
      simp only [hargs, htimeout, bind, Except.bind, Except.ok.injEq] at h
      rw [← h]
      simp only [and_self]

/-- Sections with the same arguments give the same ones, and a configuration exactly if the timeout
can be shown. -/
lemma args_of_same {s s' : Table} {env' : Environment} {args : List String}
    (hargs : argsOf s = .ok args) (hsame : s.get? "args" = s'.get? "args") :
    (∀ config', ofSection s' env' = .ok config' → config'.args = args) ∧
      ((∃ config', ofSection s' env' = .ok config') ↔ TimeoutIsShown s') := by
  rw [argsOf_congr hsame] at hargs
  have hshown := (exists_argsOf_iff s').1 ⟨args, hargs⟩
  refine ⟨fun config' h => ?_, ?_⟩
  · have hargs' := (fields_of_ofSection h).1
    rw [hargs] at hargs'
    exact (Except.ok.inj hargs').symm
  · rw [exists_ofSection_iff]
    exact ⟨fun h => h.timeout, fun h => ⟨hshown, h⟩⟩

end Load

/-- Two sections and environments that agree on what is looked up. -/
structure Agree (s s' : Table) (env env' : Environment) : Prop where
  executable : s.get? "executable" = s'.get? "executable"
  args : s.get? "args" = s'.get? "args"
  timeout : s.get? "terminate_timeout" = s'.get? "terminate_timeout"
  executableVariable : env.get? executableVariable = env'.get? executableVariable
  timeoutVariable : env.get? timeoutVariable = env'.get? timeoutVariable

lemma Agree.ofSection_eq [Limits] {s s' : Table} {env env' : Environment}
    (h : Agree s s' env env') : ofSection s env = ofSection s' env' := by
  have hexecutable : executableOf s env = executableOf s' env' := by
    rw [executableOf, executableOf, h.executable, h.executableVariable]
  have htimeout : timeoutOf s env = timeoutOf s' env' := by
    rw [timeoutOf, timeoutOf, h.timeout, h.timeoutVariable]
  have hcheck : checkTimeout s = checkTimeout s' := by
    rw [checkTimeout, checkTimeout, h.timeout]
  rw [ofSection, ofSection, argsOf_congr h.args, hcheck, hexecutable, htimeout]

/-- Whenever a configuration is loaded, the executable and the timeout come from the environment,
else from the file, else they are the defaults, and the arguments come from the file. The executable
is not empty and has no blanks around it, the timeout is above zero, and nothing else in the file or
in the environment matters: not even to the arguments what is given for the timeout, if only it can
be shown. -/
theorem settings_come_in_order [Limits] {files : FileTree} {env : Environment}
    {root path : Option Path} {config : Config}
    (h : (load files env root path).result = .ok config) :
    ∃ t, (loadTable files root path).result = .ok t ∧
      ExecutableFrom ((ideSection t).get? "executable") (env.get? executableVariable)
        config.executable ∧
      (config.executable ≠ "" ∧ (∀ c ∈ config.executable.toList.head?, isBlank c.toNat = false) ∧
        ∀ c ∈ config.executable.toList.getLast?, isBlank c.toNat = false) ∧
      TimeoutFrom ((ideSection t).get? "terminate_timeout") (env.get? timeoutVariable)
        config.terminateTimeout ∧
      IsAboveZero config.terminateTimeout ∧
      ArgsFrom ((ideSection t).get? "args") config.args ∧
      (∀ s, (ideSection t).get? "args" = some (.str s) →
        (∀ w ∈ config.args, w ≠ "" ∧ ∀ c ∈ w.toList, isBlank c.toNat = false) ∧
          config.args.flatMap String.toList = s.toList.filter fun c => !isBlank c.toNat) ∧
      (∀ file, config.command file = [config.executable] ++ config.args ++ ["--ide", file]) ∧
      ∀ files' env' root' path' t', (loadTable files' root' path').result = .ok t' →
        (Agree (ideSection t) (ideSection t') env env' →
          (load files' env' root' path').result = .ok config) ∧
        ((ideSection t).get? "args" = (ideSection t').get? "args" →
          (∀ config', (load files' env' root' path').result = .ok config' →
            config'.args = config.args) ∧
          ((∃ config', (load files' env' root' path').result = .ok config') ↔
            TimeoutIsShown (ideSection t'))) := by
  obtain ⟨t, ht, hexact, hsection⟩ := exists_of_load h
  obtain ⟨hargs, hexecutable, htimeout⟩ := fields_of_ofSection hsection
  have hexecutableFrom := executableFrom_executableOf (ideSection t) env
  have htimeoutFrom := timeoutFrom_timeoutOf hexact env
  have hargsFrom := argsFrom_of_argsOf hargs
  rw [← hexecutable] at hexecutableFrom
  rw [← htimeout] at htimeoutFrom
  refine ⟨t, ht, hexecutableFrom, hexecutableFrom.spec, htimeoutFrom, htimeoutFrom.isAboveZero,
    hargsFrom, fun s hs => (hs ▸ hargsFrom).spec, fun _ => rfl, ?_⟩
  intro files' env' root' path' t' ht'
  have hload : (load files' env' root' path').result = ofSection (ideSection t') env' :=
    load_of_table ht'
  refine ⟨fun hagree => ?_, fun hsame => ?_⟩
  · rw [hload, ← hagree.ofSection_eq, hsection]
  · rw [hload]
    exact args_of_same hargs hsame

/-- A file with an executable that is no text, a text of arguments and a timeout. -/
def mixedFile : List Char :=
  "[ide]\nexecutable = 7\nargs = \" --lax   -v\"\nterminate_timeout = 1.5\n".toList

/-- An environment whose two variables count as missing. -/
def idleEnvironment : Environment := [(executableVariable, " \t"), (timeoutVariable, "nan")]

/-- The configuration that the two give. -/
def mixedConfig : Config where
  args := ["--lax", "-v"]
  terminateTimeout := .finite false (3 * Nat.pow 2 51) (-52)

lemma load_workspace {cs : List Char} {env : Environment} {config : Config}
    (h : ((Toml.read (unifyNewlines cs)).toOption.bind fun t =>
      (ofSection (ideSection t) env).toOption) = some config) :
    (load (workspace (Utf8.encode cs)) env none none).result = .ok config := by
  rcases ht : Toml.read (unifyNewlines cs) with e | t
  · rw [ht] at h
    cases h
  · rw [ht] at h
    have hfile := loadFile_of_read (addressable_workspace (Utf8.encode cs)) (read_workspace _)
    rw [load_of_table (by rw [hfile, parseTable_of_read ht])]
    change (ofSection (ideSection t) env).toOption = some config at h
    rcases hc : ofSection (ideSection t) env with f | c
    · rw [hc] at h
      cases h
    · rw [hc] at h
      exact congrArg Except.ok (Option.some.inj h)

lemma load_mixedFile :
    (load (workspace (Utf8.encode mixedFile)) idleEnvironment none none).result
      = .ok mixedConfig := load_workspace (by decide +kernel)

/-- Where neither the environment nor the file is any good, the default stands. -/
theorem settings_of_mixedFile :
    (load (workspace (Utf8.encode mixedFile)) idleEnvironment none none).result
        = .ok mixedConfig ∧
      ∃ t, (loadTable (workspace (Utf8.encode mixedFile)) none none).result = .ok t ∧
        ExecutableFrom ((ideSection t).get? "executable")
          (idleEnvironment.get? executableVariable) "fstar.exe" ∧
        TimeoutFrom ((ideSection t).get? "terminate_timeout")
          (idleEnvironment.get? timeoutVariable) (.finite false (3 * Nat.pow 2 51) (-52)) ∧
        ArgsFrom ((ideSection t).get? "args") ["--lax", "-v"] := by
  obtain ⟨t, ht, hexecutable, -, htimeout, -, hargs, -⟩ := settings_come_in_order load_mixedFile
  exact ⟨load_mixedFile, t, ht, hexecutable, htimeout, hargs⟩

end ProverLink.Config
