import ProverLink.Config.Load
import ProverLink.Proofs.Encoding
import ProverLink.Proofs.TomlNumbers

/-!
# Configuration files that hold no configuration

A file that is missing, that cannot be read, that is not TOML or that has no table `ide` counts as
an empty one. Three kinds of files do not count as empty although they hold no configuration: those
that are not UTF-8, those with an integer that is too long, and those whose values are nested too
deeply. They are faults.
-/

namespace ProverLink.Config

open Utf8 Toml

/-! ### Line ends -/

/-- The end of a text with its line ends unified is the end of the text, unified. -/
lemma exists_of_suffix_unifyNewlines {r cs : List Char} (h : r <:+ unifyNewlines cs) :
    ∃ r', r' <:+ cs ∧ r = unifyNewlines r' := by
  fun_induction unifyNewlines cs with
  | case1 => exact ⟨[], List.suffix_rfl, List.suffix_nil.1 h⟩
  | case2 rest ih =>
    rcases List.suffix_cons_iff.1 h with rfl | h
    · exact ⟨_, List.suffix_rfl, by rw [unifyNewlines]⟩
    · obtain ⟨r', hr', rfl⟩ := ih h
      exact ⟨r', hr'.trans ⟨[_, _], rfl⟩, rfl⟩
  | case3 rest hrest ih =>
    rcases List.suffix_cons_iff.1 h with rfl | h
    · exact ⟨_, List.suffix_rfl, by rw [unifyNewlines.eq_3 _ hrest]⟩
    · obtain ⟨r', hr', rfl⟩ := ih h
      exact ⟨r', hr'.trans (List.suffix_cons ..), rfl⟩
  | case4 c rest hc hc' ih =>
    rcases List.suffix_cons_iff.1 h with rfl | h
    · exact ⟨_, List.suffix_rfl, by rw [unifyNewlines.eq_4 _ _ hc hc']⟩
    · obtain ⟨r', hr', rfl⟩ := ih h
      exact ⟨r', hr'.trans (List.suffix_cons ..), rfl⟩

/-- Characters without a line break stand in the text as they stand in it unified. -/
lemma start_of_unifyNewlines {run cs : List Char} (h : run <+: unifyNewlines cs)
    (hrun : '\n' ∉ run) : run <+: cs := by
  induction run generalizing cs with
  | nil => exact ⟨cs, rfl⟩
  | cons c run ih =>
    rw [List.mem_cons, not_or] at hrun
    rw [unifyNewlines.eq_def] at h
    split at h
    · cases List.prefix_nil.1 h
    · exact absurd (List.cons_prefix_cons.1 h).1.symm hrun.1
    · exact absurd (List.cons_prefix_cons.1 h).1.symm hrun.1
    · obtain ⟨rfl, hrest⟩ := List.cons_prefix_cons.1 h
      exact List.cons_prefix_cons.2 ⟨rfl, ih hrest hrun.2⟩

lemma runs_unifyNewlines {cs : List Char} (h : HasShortRuns cs) :
    HasShortRuns (unifyNewlines cs) := by
  rintro run ⟨front, behind, hinfix⟩ hrun
  have hsuffix : run ++ behind <:+ unifyNewlines cs := ⟨front, by rw [← hinfix, List.append_assoc]⟩
  obtain ⟨r, hr, hbehind⟩ := exists_of_suffix_unifyNewlines hsuffix
  have hnewline : '\n' ∉ run := fun hmem => absurd (hrun _ hmem) (by decide)
  have hstart : run <+: r := start_of_unifyNewlines ⟨behind, hbehind⟩ hnewline
  exact h run (hstart.isInfix.trans hr.isInfix) hrun

lemma levels_unifyNewlines (cs : List Char) : levels (unifyNewlines cs) = levels cs := by
  fun_induction unifyNewlines cs with
  | case1 => rfl
  | case2 rest ih => simpa [levels, List.countP_cons, isStep] using ih
  | case3 rest _ ih => simpa [levels, List.countP_cons, isStep] using ih
  | case4 c rest _ _ ih => simpa [levels, List.countP_cons] using ih

lemma modest_unifyNewlines [Limits] {cs : List Char} (h : Modest cs) :
    Modest (unifyNewlines cs) where
  runs := runs_unifyNewlines h.runs
  toml := (levels_unifyNewlines cs).symm ▸ h.toml
  shown := (levels_unifyNewlines cs).symm ▸ h.shown

/-! ### Values that are shown -/

section Shown

variable [Limits]

lemma exists_mapM_text_iff {items : List Toml} :
    (∃ args, items.mapM Toml.text = .ok args) ↔ ∀ v ∈ items, ∃ text, v.text = .ok text := by
  induction items with
  | nil => simp [pure, Except.pure]
  | cons v rest ih =>
    rw [List.forall_mem_cons, ← ih, List.mapM_cons]
    cases v.text <;> cases rest.mapM Toml.text <;> simp [bind, Except.bind, pure, Except.pure]

/-- What is shown has a text. -/
lemma exists_text {v : Toml} (h : Showable Limits.shown v) : ∃ text, v.text = .ok text := by
  rw [Toml.text.eq_def]
  split
  · exact ⟨_, rfl⟩
  · exact ⟨_, rfl⟩
  · exact ⟨_, rfl⟩
  · exact ⟨_, rfl⟩
  · exact h

/-- Whether all arguments of a section have a text. -/
def ArgsHaveTexts (s : Table) : Prop :=
  ∀ items, s.get? "args" = some (.arr items) → ∀ v ∈ items, ∃ text, v.text = .ok text

/-- Whether the value that a section gives for the timeout is not nested too deeply to be shown. -/
def TimeoutIsShown (s : Table) : Prop :=
  ∀ v, s.get? "terminate_timeout" = some v → v.text ≠ .error .tooDeep

/-- Whether nothing in a section is a fault. -/
structure IsShown (s : Table) : Prop where
  args : ArgsHaveTexts s
  timeout : TimeoutIsShown s

lemma isShown_nil : IsShown [] where
  args _ h := by cases h
  timeout _ h := by cases h

lemma isShown_of_holds {s : Table} (h : Holds (Showable Limits.shown) s) : IsShown s where
  args items hitems v hv := by
    obtain ⟨room, hroom⟩ := Nat.exists_eq_add_one.2 Limits.shown_pos
    have hshown := h.get? hitems
    rw [hroom, showable_arr] at hshown
    exact exists_text ((hshown v hv).mono (hroom ▸ Nat.le_succ room))
  timeout v hv := by
    obtain ⟨text, htext⟩ := exists_text (h.get? hv)
    rw [htext]
    nofun

lemma holds_section {t : Table} (h : Holds (Showable Limits.shown) t) :
    Holds (Showable Limits.shown) (ideSection t) := by
  obtain ⟨room, hroom⟩ := Nat.exists_eq_add_one.2 Limits.shown_pos
  rw [ideSection]
  split
  · rename_i s hs
    have hshown := h.get? hs
    rw [hroom, showable_table] at hshown
    exact fun e he => (hshown e he).mono (hroom ▸ Nat.le_succ room)
  · exact .nil

lemma exists_argsOf_iff (s : Table) : (∃ args, argsOf s = .ok args) ↔ ArgsHaveTexts s := by
  rw [argsOf, ArgsHaveTexts]
  split
  · rename_i words hwords
    simp [hwords]
  · rename_i items hitems
    rw [hitems]
    simp only [Option.some.injEq, Toml.arr.injEq, forall_eq', ← exists_mapM_text_iff]
    cases items.mapM Toml.text <;> simp [Except.mapError]
  · rename_i hother
    exact ⟨fun _ items hitems => absurd hitems (hother items), fun _ => ⟨[], rfl⟩⟩

lemma checkTimeout_eq_ok_iff (s : Table) : checkTimeout s = .ok () ↔ TimeoutIsShown s := by
  rw [checkTimeout, TimeoutIsShown]
  split
  · rename_i h
    obtain ⟨v, hv, htext⟩ := Option.map_eq_some_iff.1 h
    simp only [reduceCtorEq, false_iff, not_forall]
    exact ⟨v, hv, not_not.2 htext⟩
  · rename_i h
    refine ⟨fun _ v hv htext => h ?_, fun _ => rfl⟩
    rw [hv, Option.map_some, htext]

lemma exists_ofSection_iff (s : Table) (env : Environment) :
    (∃ config, ofSection s env = .ok config) ↔ IsShown s := by
  have hparts : (∃ config, ofSection s env = .ok config) ↔
      (∃ args, argsOf s = .ok args) ∧ checkTimeout s = .ok () := by
    rw [ofSection]
    cases argsOf s <;> cases checkTimeout s <;> simp [bind, Except.bind]
  rw [hparts, exists_argsOf_iff, checkTimeout_eq_ok_iff]
  exact ⟨fun h => ⟨h.1, h.2⟩, fun h => ⟨h.args, h.timeout⟩⟩

end Shown

/-! ### Files -/

/-- Whether the system can be asked for a file: no name in its path holds the character that ends
texts. -/
def Addressable (place : Path) : Prop := ∀ n ∈ place.parts, '\x00' ∉ n.toList

lemma addressable_iff {place : Path} :
    Addressable place ↔ ¬ (place.parts.any fun n => n.contains '\x00') = true := by
  simp [Addressable, String.contains_char_eq]

/-- The configuration that the environment gives by itself. -/
def ofEnvironment (env : Environment) : Config where
  executable := executableOf [] env
  args := []
  terminateTimeout := timeoutOf [] env

lemma ideSection_of_ne {t : Table} (h : ∀ s, t.get? "ide" ≠ some (.table s)) :
    ideSection t = [] := by
  rw [ideSection]
  split
  · rename_i s hs
    exact absurd hs (h s)
  · rfl

section Files

variable [Limits]

/-- Bytes that are no fault: they are UTF-8, no integer in them is too long to be read, no values
are nested too deeply to be read, and the arguments and the timeout can be shown. -/
def IsHarmless (bytes : List UInt8) : Prop :=
  ∃ cs, bytes = encode cs ∧
    (∀ count, Toml.read (unifyNewlines cs) ≠ .error (.tooManyDigits count)) ∧
    Toml.read (unifyNewlines cs) ≠ .error .tooDeep ∧
    ∀ t, Toml.read (unifyNewlines cs) = .ok t → IsShown (ideSection t)

/-- Files without a table `ide`. -/
inductive HasNoSection (files : FileTree) (place : Path) : Prop where
  | unread (e : OsError) (hread : files.read place = .error e)
  | malformed (cs : List Char) (hread : files.read place = .ok (encode cs)) (problem : Toml.Problem)
      (spot : Toml.Place) (htoml : Toml.read (unifyNewlines cs) = .error (.malformed problem spot))
  | missing (cs : List Char) (hread : files.read place = .ok (encode cs)) (t : Table)
      (htoml : Toml.read (unifyNewlines cs) = .ok t) (hide : ∀ s, t.get? "ide" ≠ some (.table s))

section LoadFile

variable {files : FileTree} {place : Path}

lemma loadFile_of_not_addressable (h : ¬ Addressable place) :
    (loadFile files place).result = .error .nullInPath := by
  rw [loadFile, if_pos (not_not.1 (mt addressable_iff.2 h))]

lemma loadFile_of_unread (h : Addressable place) {e : OsError}
    (hread : files.read place = .error e) : (loadFile files place).result = .ok [] := by
  rw [loadFile, if_neg (addressable_iff.1 h), hread]
  dsimp only
  split <;> rfl

lemma loadFile_of_read (h : Addressable place) {bytes : List UInt8}
    (hread : files.read place = .ok bytes) : loadFile files place = parseTable place bytes := by
  rw [loadFile, if_neg (addressable_iff.1 h), hread]

end LoadFile

/-! ### Tables -/

section ParseTable

variable {place : Path} {cs : List Char}

lemma parseTable_of_read {t : Table} (h : Toml.read (unifyNewlines cs) = .ok t) :
    (parseTable place (encode cs)).result = .ok t := by
  rw [parseTable, decodeStrict_encode]
  dsimp only
  rw [h]

lemma parseTable_of_malformed {problem : Toml.Problem} {spot : Toml.Place}
    (h : Toml.read (unifyNewlines cs) = .error (.malformed problem spot)) :
    (parseTable place (encode cs)).result = .ok [] := by
  rw [parseTable, decodeStrict_encode]
  dsimp only
  rw [h]

lemma parseTable_of_tooManyDigits {count : Nat}
    (h : Toml.read (unifyNewlines cs) = .error (.tooManyDigits count)) :
    (parseTable place (encode cs)).result = .error (.tooManyDigits (some count)) := by
  rw [parseTable, decodeStrict_encode]
  dsimp only
  rw [h]

lemma parseTable_of_tooDeep (h : Toml.read (unifyNewlines cs) = .error .tooDeep) :
    (parseTable place (encode cs)).result = .error (.tooDeep .setting) := by
  rw [parseTable, decodeStrict_encode]
  dsimp only
  rw [h]

lemma parseTable_of_not_utf8 (place : Path) {bytes : List UInt8} (h : ∀ cs, bytes ≠ encode cs) :
    ∃ r, (parseTable place bytes).result = .error (.undecodable r) := by
  rw [parseTable]
  split
  · exact ⟨_, rfl⟩
  · rename_i hcs
    exact absurd (decodeStrict_eq_ok_iff.1 hcs) (h _)

/-- Bytes are harmless if their table is there and gives a configuration. -/
lemma exists_parseTable_iff {bytes : List UInt8} :
    (∃ t, (parseTable place bytes).result = .ok t ∧ IsShown (ideSection t)) ↔
      IsHarmless bytes := by
  constructor
  · rintro ⟨t, ht, hshown⟩
    by_cases hutf8 : ∃ cs, bytes = encode cs
    · obtain ⟨cs, rfl⟩ := hutf8
      refine ⟨cs, rfl, fun count hcount => ?_, fun hdeep => ?_, fun t' ht' => ?_⟩
      · rw [parseTable_of_tooManyDigits hcount] at ht
        cases ht
      · rw [parseTable_of_tooDeep hdeep] at ht
        cases ht
      · rw [parseTable_of_read ht', Except.ok.injEq] at ht
        exact ht ▸ hshown
    · obtain ⟨r, hr⟩ := parseTable_of_not_utf8 place (not_exists.1 hutf8)
      rw [hr] at ht
      cases ht
  · rintro ⟨cs, rfl, hdigits, hdeep, hshown⟩
    rcases hread : Toml.read (unifyNewlines cs) with (⟨problem, spot⟩ | count | _) | t
    · exact ⟨[], parseTable_of_malformed hread, isShown_nil⟩
    · exact absurd hread (hdigits count)
    · exact absurd hread hdeep
    · exact ⟨t, parseTable_of_read hread, hshown t hread⟩

end ParseTable

/-- The bytes of a modest text are harmless. -/
lemma isHarmless_of_modest {cs : List Char} (h : Modest cs) : IsHarmless (encode cs) := by
  rcases read_of_modest (modest_unifyNewlines h) with ⟨t, ht, hshow⟩ | ⟨p, spot, hp⟩
  · refine ⟨cs, rfl, by simp [ht], by simp [ht], fun t' ht' => ?_⟩
    rw [ht, Except.ok.injEq] at ht'
    exact ht' ▸ isShown_of_holds (holds_section hshow)
  · exact ⟨cs, rfl, by simp [hp], by simp [hp], by simp [hp]⟩

/-! ### The configuration -/

section Load

variable {files : FileTree} {env : Environment} {root path : Option Path}

lemma load_of_table {t : Table}
    (h : (loadFile files (location files.workingPath root path)).result = .ok t) :
    (load files env root path).result = ofSection (ideSection t) env := by
  rw [load, loadSection, loadTable]
  dsimp only
  rw [h]
  rfl

lemma load_of_fault {f : Fault}
    (h : (loadFile files (location files.workingPath root path)).result = .error f) :
    (load files env root path).result = .error f := by
  rw [load, loadSection, loadTable]
  dsimp only
  rw [h]
  rfl

lemma exists_load_iff_loadFile : (∃ config, (load files env root path).result = .ok config) ↔
    ∃ t, (loadFile files (location files.workingPath root path)).result = .ok t ∧
      IsShown (ideSection t) := by
  rcases h : (loadFile files (location files.workingPath root path)).result with f | t
  · simp [load_of_fault h]
  · rw [load_of_table h, exists_ofSection_iff]
    simp

/-- Loading gives a configuration just if the file can be asked for and holds nothing that is a
fault. -/
lemma exists_load_iff : (∃ config, (load files env root path).result = .ok config) ↔
    Addressable (location files.workingPath root path) ∧
      ∀ bytes, files.read (location files.workingPath root path) = .ok bytes →
        IsHarmless bytes := by
  rw [exists_load_iff_loadFile]
  by_cases h : Addressable (location files.workingPath root path)
  · rcases hread : files.read (location files.workingPath root path) with e | bytes
    · have hempty : IsShown (ideSection []) := isShown_nil
      simp [h, loadFile_of_unread h hread, hempty]
    · simp [h, loadFile_of_read h hread, exists_parseTable_iff]
  · simp [h, loadFile_of_not_addressable h]

/-- A file without a section leaves the environment alone. -/
lemma load_of_hasNoSection (h : Addressable (location files.workingPath root path))
    (hno : HasNoSection files (location files.workingPath root path)) :
    (load files env root path).result = .ok (ofEnvironment env) := by
  cases hno with
  | unread e hread => exact load_of_table (loadFile_of_unread h hread)
  | malformed cs hread problem spot htoml =>
    refine load_of_table (t := []) ?_
    rw [loadFile_of_read h hread, parseTable_of_malformed htoml]
  | missing cs hread t htoml hide =>
    have ht : (loadFile files (location files.workingPath root path)).result = .ok t := by
      rw [loadFile_of_read h hread, parseTable_of_read htoml]
    rw [load_of_table ht, ideSection_of_ne hide]
    rfl

/-- A file that is not UTF-8 is a fault. -/
lemma load_of_not_utf8 (h : Addressable (location files.workingPath root path))
    {bytes : List UInt8} (hread : files.read (location files.workingPath root path) = .ok bytes)
    (hutf8 : ∀ cs, bytes ≠ encode cs) :
    ∃ r, (load files env root path).result = .error (.undecodable r) := by
  obtain ⟨r, hr⟩ := parseTable_of_not_utf8 (location files.workingPath root path) hutf8
  exact ⟨r, load_of_fault (by rw [loadFile_of_read h hread, hr])⟩

end Load

/-- An empty file has no section. -/
lemma hasNoSection_of_empty {files : FileTree} {place : Path} (h : files.read place = .ok []) :
    HasNoSection files place :=
  .missing [] h [] rfl fun s hs => by cases hs

/-- A file that is missing, that cannot be read, that is not TOML or that has no table `ide` gives
the configuration that an empty file gives. Loading ends in a fault only for a path that the system
cannot be asked for and for bytes that are not UTF-8, hold an integer of thousands of digits or nest
values too deeply. -/
theorem file_without_section_counts_as_empty (files : FileTree) (env : Environment)
    (root path : Option Path) :
    let place := location files.workingPath root path
    let result := (load files env root path).result
    ((∃ config, result = .ok config) ↔
        Addressable place ∧ ∀ bytes, files.read place = .ok bytes → IsHarmless bytes) ∧
      (∀ cs, Modest cs → IsHarmless (encode cs)) ∧
      (Addressable place → HasNoSection files place →
        result = .ok (ofEnvironment env) ∧
        ∀ files' root' path', Addressable (location files'.workingPath root' path') →
          files'.read (location files'.workingPath root' path') = .ok [] →
            result = (load files' env root' path').result) ∧
      (Addressable place → ∀ bytes, files.read place = .ok bytes → (∀ cs, bytes ≠ encode cs) →
        ∃ r, result = .error (.undecodable r)) := by
  refine ⟨exists_load_iff, fun cs hcs => isHarmless_of_modest hcs, fun h hno => ?_,
    fun h bytes hread hutf8 => load_of_not_utf8 h hread hutf8⟩
  refine ⟨load_of_hasNoSection h hno, fun files' root' path' h' hempty => ?_⟩
  rw [load_of_hasNoSection h hno, load_of_hasNoSection h' (hasNoSection_of_empty hempty)]

end Files

/-- A working directory whose configuration file holds some bytes. -/
def workspace (bytes : List UInt8) : FileTree where
  workingDirectory := ["w"]
  entries := [(["w", fileName], .file bytes)]

lemma addressable_workspace (bytes : List UInt8) :
    Addressable (location (workspace bytes).workingPath none none) := by
  change ∀ n ∈ ["w", fileName], '\x00' ∉ n.toList
  decide +kernel

lemma read_workspace (bytes : List UInt8) :
    (workspace bytes).read (location (workspace bytes).workingPath none none) = .ok bytes := by
  have hpath : ¬ FileTree.maxPath < (location ⟨.slash, ["w"]⟩ none none).toString.utf8ByteSize := by
    decide +kernel
  have hw : ¬ FileTree.maxName < "w".utf8ByteSize := by decide +kernel
  have hfile : ¬ FileTree.maxName < fileName.utf8ByteSize := by decide +kernel
  have hdirectory : (workspace bytes).get? ["w"] = some .directory := by
    rw [FileTree.get?]
    simp [workspace]
  have hentry : (workspace bytes).get? ["w", fileName] = some (.file bytes) := by
    rw [FileTree.get?]
    simp [workspace]
  have hfind : (workspace bytes).find (location ⟨.slash, ["w"]⟩ none none)
      = .found (.file bytes) := by
    rw [FileTree.find, if_neg hpath]
    change (workspace bytes).walk [] ["w", fileName] = _
    rw [FileTree.walk, if_neg (by decide), if_neg hw]
    dsimp only [List.nil_append]
    rw [hdirectory]
    dsimp only
    rw [FileTree.walk, if_neg (by decide), if_neg hfile]
    dsimp only [List.cons_append, List.nil_append]
    rw [hentry]
    rfl
  change (workspace bytes).read (location ⟨.slash, ["w"]⟩ none none) = _
  rw [FileTree.read, hfind]

/-- A list of arguments that is never closed. -/
def unclosedArgs : List Char := "[ide]\r\nargs = [\"--lax\"\r\n".toList

lemma read_unclosedArgs : ∃ problem spot,
    Toml.read (unifyNewlines unclosedArgs) = .error (.malformed problem spot) := by
  have hlength : unclosedArgs.length ≤ longestRun := by decide +kernel
  have hmodest : Modest unclosedArgs :=
    ⟨fun _ hrun _ => hrun.length_le.trans hlength, by decide +kernel, by decide +kernel⟩
  have hfails : (Toml.read (unifyNewlines unclosedArgs)).toOption.isSome = false := by
    decide +kernel
  rcases read_of_modest (modest_unifyNewlines hmodest) with ⟨t, ht, -⟩ | hmalformed
  · rw [ht] at hfails
    cases hfails
  · exact hmalformed

/-- A file that stops in the middle of its arguments gives none of them. -/
theorem unclosedArgs_count_as_empty :
    (load (workspace (encode unclosedArgs)) [(executableVariable, "fst")] none none).result
      = .ok (ofEnvironment [(executableVariable, "fst")]) := by
  obtain ⟨problem, spot, hread⟩ := read_unclosedArgs
  have hno := HasNoSection.malformed _ (read_workspace _) problem spot hread
  exact ((file_without_section_counts_as_empty (workspace (encode unclosedArgs))
    [(executableVariable, "fst")] none none).2.2.1 (addressable_workspace _) hno).1

lemma loneByte_not_utf8 (cs : List Char) : [0xFF] ≠ encode cs := by
  intro h
  have hdecode := decodeStrict_eq_ok_iff.2 h
  have hlead : lead 0xFF = .invalid := rfl
  rw [decodeStrict, decodeFrom, hlead] at hdecode
  cases hdecode

lemma unifyNewlines_ones (n : Nat) :
    unifyNewlines ('n' :: '=' :: List.replicate n '1') = 'n' :: '=' :: List.replicate n '1' := by
  have hones : unifyNewlines (List.replicate n '1') = List.replicate n '1' := by
    induction n with
    | zero => rfl
    | succ n ih => rw [List.replicate_succ, unifyNewlines.eq_4 _ _ (by simp) (by simp), ih]
  rw [unifyNewlines.eq_4 _ _ (by simp) (by simp), unifyNewlines.eq_4 _ _ (by simp) (by simp), hones]

lemma load_ones [Limits] {n : Nat} (h : Decimal.maxDigits < n) (env : Environment) :
    (load (workspace (encode ('n' :: '=' :: List.replicate n '1'))) env none none).result
      = .error (.tooManyDigits (some n)) := by
  refine load_of_fault ?_
  rw [loadFile_of_read (addressable_workspace _) (read_workspace _)]
  exact parseTable_of_tooManyDigits ((unifyNewlines_ones n).symm ▸ read_ones h)

/-- The byte that no character starts with is a fault, and so is an integer that is too long. -/
theorem file_without_section_may_be_fault :
    (∃ r, (load (workspace [0xFF]) [] none none).result = .error (.undecodable r)) ∧
      (load (workspace (encode ('n' :: '=' :: List.replicate 4301 '1'))) [] none none).result
        = .error (.tooManyDigits (some 4301)) :=
  ⟨load_of_not_utf8 (addressable_workspace _) (read_workspace _) loneByte_not_utf8,
    load_ones (by decide) []⟩

end ProverLink.Config
