import ProverLink.Config.Timeout
import ProverLink.Proofs.Blanks
import ProverLink.Proofs.NumberTexts
import ProverLink.Proofs.TomlNumbers

/-!
# Values of a file and their texts as numbers

A number in a configuration file is worth what its text is worth. The texts of lists, tables, dates
and times are no numbers. For floating point numbers this needs that each of them is of the format,
which all numbers are that are read from a file.
-/

namespace ProverLink

namespace Toml

/-! ### Floating point numbers of a file -/

/-- All floating point numbers inside a value are of the format. -/
inductive IsExact : Toml → Prop where
  | str (s : String) : IsExact (.str s)
  | int (i : Int) : IsExact (.int i)
  | float (x : Binary64) (h : x.IsRegular) : IsExact (.float x)
  | bool (b : Bool) : IsExact (.bool b)
  | dateTime (d : Date) (t : Time) (offset : Option Int) : IsExact (.dateTime d t offset)
  | date (d : Date) : IsExact (.date d)
  | time (t : Time) : IsExact (.time t)
  | arr (items : List Toml) (h : ∀ v ∈ items, IsExact v) : IsExact (.arr items)
  | table (entries : List (String × Toml)) (h : ∀ e ∈ entries, IsExact e.2) :
      IsExact (.table entries)

/-- A reader of values that gives only exact ones. -/
abbrev ReadsExact (x : Except Stop (Toml × List Char)) : Prop :=
  Yields (fun _ => True) (fun p => IsExact p.1) x

lemma readsExact_decimal? {negative : Bool} {cs : List Char} {x : Except Stop (Toml × List Char)}
    (h : decimal? negative cs = some x) : ReadsExact x := by
  rw [decimal?, Option.bind_eq_bind, Option.bind_eq_some_iff] at h
  obtain ⟨⟨ns, rest⟩, -, h⟩ := h
  dsimp only at h
  split at h
  · split at h
    · cases h
      trivial
    · cases h
      exact .int _
  · cases h
    exact .float _ (Binary64.isRegular_ofDecimal ..)

lemma readsExact_number? {cs : List Char} {x : Except Stop (Toml × List Char)}
    (h : number? cs = some x) : ReadsExact x := by
  rw [number?.eq_def] at h
  split at h
  · exact readsExact_decimal? h
  · exact readsExact_decimal? h
  · split at h
    · cases h
      exact .int _
    · exact readsExact_decimal? h
  · exact readsExact_decimal? h

lemma isRegular_of_numberWords {w : String × Binary64} (h : w ∈ numberWords) :
    w.2.IsRegular := by
  simp only [numberWords, List.mem_cons, List.not_mem_nil, or_false] at h
  rcases h with rfl | rfl | rfl | rfl | rfl | rfl <;> trivial

lemma readsExact_atom (cs : List Char) : ReadsExact (atom cs) := by
  rw [atom]
  split
  · exact .bool _
  split
  · rw [dated]
    split
    · split
      · exact .dateTime ..
      · exact .date _
    · trivial
  split
  · exact .time _
  split
  · rename_i hnumber
    exact readsExact_number? hnumber
  split
  · rename_i hword
    obtain ⟨w, hw, hx⟩ := List.exists_of_findSome?_eq_some hword
    obtain ⟨r, -, hr⟩ := Option.map_eq_some_iff.1 hx
    cases hr
    exact .float _ (isRegular_of_numberWords hw)
  · trivial

lemma trait_isExact : Trait (fun _ => IsExact) (fun _ => True) fun _ => True where
  mono _ h := h
  arr _ _ := ⟨fun h => by cases h; assumption, .arr _⟩
  table _ _ := ⟨fun h => by cases h; assumption, .table _⟩
  str := .str
  suffix _ _ := trivial
  problem _ _ := trivial
  atom _ := readsExact_atom _

/-- What is read from a document is exact. -/
lemma isExact_of_read [Limits] {cs : List Char} {t : Table} (h : read cs = .ok t) :
    Holds IsExact t := by
  have hread : (∃ t, read cs = .ok t ∧ Holds IsExact t) ∨
      ∃ s : Stop, True ∧ read cs = .error (s.locate cs) := trait_isExact.read trivial (.inl trivial)
  rcases hread with ⟨t', ht', hexact⟩ | ⟨s, -, hs⟩
  · rw [h, Except.ok.injEq] at ht'
    exact ht' ▸ hexact
  · rw [h] at hs
    cases hs

end Toml

/-! ### Texts that are no numbers -/

namespace Binary64

/-- A character with which no number goes on behind digits. -/
structure IsBar (c : Char) : Prop where
  ascii : c.toNat < 0x7F
  notBlank : Blank.isBlank c.toNat = false
  notDigit : Digit.isAscii c = false
  notPart : c ∉ ['_', '.', 'e', 'E']

lemma isBar_bracket : IsBar '[' := ⟨by decide, rfl, rfl, by decide⟩

lemma isBar_brace : IsBar '\x7b' := ⟨by decide, rfl, rfl, by decide⟩

lemma isBar_colon : IsBar ':' := ⟨by decide, rfl, rfl, by decide⟩

lemma isBar_hyphen : IsBar '-' := ⟨by decide, rfl, rfl, by decide⟩

section Bar

variable {ds rest : List Char} {c : Char} (hds : ∀ d ∈ ds, Digit.isAscii d = true) (hc : IsBar c)

include hds hc

lemma numeral?_of_bar : numeral? (ds ++ c :: rest) = none := by
  have hspan : spanDigits (ds ++ c :: rest) = (ds.map fun d => d.toNat - 48, c :: rest) :=
    spanDigits_append hds fun d hd => Option.some.inj hd ▸ hc.notDigit
  have hpart := hc.notPart
  simp only [List.mem_cons, List.not_mem_nil, or_false, not_or] at hpart
  rw [numeral?, hspan]
  simp [hpart, exponent?]

/-- What is read stops at the bar. -/
lemma exists_of_mapM_numberChar? {cs : List Char}
    (h : (Text.ofChars (ds ++ c :: rest)).mapM numberChar? = some cs) : ∃ r, cs = ds ++ c :: r := by
  have hascii : ∀ d ∈ ds, d.toNat < 0x7F := fun d hd => (isPlain_of_isAscii (hds d hd)).2.1
  have hfront := mapM_numberChar? hascii
  rw [Text.ofChars] at h hfront
  rw [List.map_append, List.mapM_append, hfront, List.map_cons, List.mapM_cons,
    numberChar?_ofChar hc.ascii] at h
  cases hrest : (rest.map CodePoint.ofChar).mapM numberChar? with
  | none => simp [hrest] at h
  | some r =>
    simp only [hrest, Option.bind_eq_bind, Option.bind_some, Option.pure_def,
      Option.some.injEq] at h
    exact ⟨r, h.symm⟩

lemma exists_of_dropLowLines {cs : List Char} (h : dropLowLines (ds ++ c :: rest) = some cs) :
    ∃ r, cs = ds ++ c :: r := by
  have hlow : c ≠ '_' := fun heq => hc.notPart (by simp [heq])
  induction ds generalizing cs with
  | nil =>
    rw [List.nil_append, dropLowLines.eq_def] at h
    split at h
    · rename_i heq
      cases heq
    · rename_i heq
      exact absurd (List.cons.inj heq).1 hlow
    · rename_i heq
      rw [← (List.cons.inj heq).1, hc.notDigit, Bool.false_and, if_neg (by simp)] at h
      cases h
    · rename_i heq
      obtain ⟨r, -, rfl⟩ := Option.map_eq_some_iff.1 h
      exact ⟨r, by rw [(List.cons.inj heq).1, List.nil_append]⟩
  | cons d ds ih =>
    rw [List.forall_mem_cons] at hds
    have hd := (isPlain_of_isAscii hds.1).2.2
    rw [List.cons_append, dropLowLines.eq_4 _ _ (fun heq => hd heq)] at h
    · obtain ⟨r, hr, rfl⟩ := Option.map_eq_some_iff.1 h
      obtain ⟨r', rfl⟩ := ih hds.2 hr
      exact ⟨r', rfl⟩
    · intro d' r' heq
      cases ds with
      | nil => exact hlow (List.cons.inj heq).1
      | cons d'' ds =>
        rw [List.forall_mem_cons] at hds
        exact (isPlain_of_isAscii hds.2.1).2.2 (List.cons.inj heq).1

variable (hfirst : ds ≠ [] ∨ c ∈ ['[', '\x7b'])

include hfirst

lemma unsigned?_of_bar (rest : List Char) : unsigned? false (ds ++ c :: rest) = none := by
  have hnumeral := @numeral?_of_bar ds rest c hds hc
  cases ds with
  | cons d ds =>
    rw [List.cons_append] at hnumeral ⊢
    rw [unsigned?_of_isAscii (hds d List.mem_cons_self), hnumeral]
    rfl
  | nil =>
    have hletter : c.toLower ≠ 'i' ∧ c.toLower ≠ 'n' := by
      simp only [ne_eq, not_true_eq_false, List.mem_cons, List.not_mem_nil, or_false,
        false_or] at hfirst
      rcases hfirst with rfl | rfl <;> decide
    rw [List.nil_append] at hnumeral ⊢
    rw [unsigned?_of_toLower_ne hletter.1 hletter.2, hnumeral]
    rfl

omit hc in
/-- There is no sign in front of the bar. -/
lemma ne_of_bar {sign : Char} (hsign : sign = '-' ∨ sign = '+') (rest rest' : List Char) :
    ds ++ c :: rest ≠ sign :: rest' := by
  intro heq
  cases ds with
  | cons d ds =>
    have hd := hds d List.mem_cons_self
    rw [(List.cons.inj heq).1] at hd
    rcases hsign with rfl | rfl <;> cases hd
  | nil =>
    rw [(List.cons.inj heq).1] at hfirst
    rcases hsign with rfl | rfl <;> simp at hfirst

lemma read?_of_bar : read? (Text.ofChars (ds ++ c :: rest)) = none := by
  rw [read?]
  cases hmap : (Text.ofChars (ds ++ c :: rest)).mapM numberChar? with
  | none => rfl
  | some cs =>
    obtain ⟨r, rfl⟩ := exists_of_mapM_numberChar? hds hc hmap
    cases hlow : dropLowLines (ds ++ c :: r) with
    | none => simp [hlow]
    | some cs =>
      obtain ⟨r', rfl⟩ := exists_of_dropLowLines hds hc hlow
      simp only [Option.bind_eq_bind, Option.bind_some, hlow]
      split
      · exact absurd ‹_› (ne_of_bar hds hfirst (.inl rfl) _ _)
      · exact absurd ‹_› (ne_of_bar hds hfirst (.inr rfl) _ _)
      · exact unsigned?_of_bar hds hc hfirst r'

end Bar

end Binary64

namespace Setting

open Binary64 Decimal

lemma isBlank_of_isPlain {c : Char} (h : IsPlain c) : Blank.isBlank c.toNat = false := by
  obtain ⟨hlow, hhigh, -⟩ := h
  simp only [Blank.isBlank, Blank.isSpace, Bool.or_eq_false_iff, Bool.and_eq_false_iff,
    decide_eq_false_iff_not, beq_eq_false_iff_ne]
  omega

lemma number?_of_isPlain {cs : List Char} (h : ∀ c ∈ cs, IsPlain c) :
    (Setting.text (Text.ofChars cs)).number? = Binary64.read? (Text.ofChars cs) := by
  rw [number?, Blank.trim_of_forall]
  intro p hp
  obtain ⟨c, hc, rfl⟩ := List.mem_map.1 hp
  exact isBlank_of_isPlain (h c hc)

/-- A bar behind digits, or a bracket in front, keeps a text from being a number. -/
lemma number?_of_bar {ds : List Char} {c : Char} (hds : ∀ d ∈ ds, Digit.isAscii d = true)
    (hc : IsBar c) (hfirst : ds ≠ [] ∨ c ∈ ['[', '\x7b']) (rest : List Char) :
    (Setting.text (Text.ofChars (ds ++ c :: rest))).number? = none := by
  have hdigits : ∀ d ∈ ds.head?, Blank.isBlank d.toNat = false := fun d hd =>
    isBlank_of_isPlain (isPlain_of_isAscii (hds d (List.mem_of_mem_head? hd)))
  have htrim := @Blank.trim_of_bar _ (fun d : Char => Blank.isBlank d.toNat) c hc.notBlank ds rest
    hdigits
  rw [number?, Text.ofChars, Blank.trim_map]
  simp only [CodePoint.val_ofChar, htrim]
  exact read?_of_bar hds hc hfirst

lemma number?_of_toList {s : String} {ds rest : List Char} {c : Char}
    (hs : s.toList = ds ++ c :: rest) (hds : ∀ d ∈ ds, Digit.isAscii d = true) (hc : IsBar c)
    (hfirst : ds ≠ [] ∨ c ∈ ['[', '\x7b']) : (Setting.text (Text.ofString s)).number? = none := by
  rw [Text.ofString, hs]
  exact number?_of_bar hds hc hfirst rest

lemma isAscii_of_mem_pad (width n : Nat) : ∀ d ∈ (Moment.pad width n).toList,
    Digit.isAscii d = true := by
  rw [Moment.pad, String.toList_ofList]
  exact List.forall_mem_append.2 ⟨fun _ => Layout.isAscii_of_mem_zeros,
    fun _ => isAscii_of_mem_natChars⟩

lemma pad_ne_nil (width n : Nat) : (Moment.pad width n).toList ≠ [] := by
  simp [Moment.pad, natChars_ne_nil]

lemma number?_dateText (d : Date) (behind : String) :
    (Setting.text (Text.ofString (Moment.dateText d ++ behind))).number? = none := by
  have hs : (Moment.dateText d ++ behind).toList = (Moment.pad 4 d.year).toList ++
      '-' :: (Moment.pad 2 d.month ++ "-" ++ Moment.pad 2 d.day ++ behind).toList := by
    simp [Moment.dateText]
  exact number?_of_toList hs (isAscii_of_mem_pad _ _) isBar_hyphen (.inl (pad_ne_nil _ _))

lemma number?_timeText (t : Time) :
    (Setting.text (Text.ofString (Moment.timeText t))).number? = none := by
  obtain ⟨rest, hs⟩ :
      ∃ rest, (Moment.timeText t).toList = (Moment.pad 2 t.hour).toList ++ ':' :: rest := by
    rw [Moment.timeText]
    split
    · simp
    · simp
  exact number?_of_toList hs (isAscii_of_mem_pad _ _) isBar_colon (.inl (pad_ne_nil _ _))

/-- A value of a file is worth what its text is worth. -/
lemma number?_ofToml [Limits] {v : Toml} (h : v.IsExact) :
    (Setting.ofToml v).number?
      = v.text.toOption.bind fun s => (Setting.text (Text.ofString s)).number? := by
  obtain ⟨room, hroom⟩ := Nat.exists_eq_add_one.2 Limits.shown_pos
  cases h with
  | str s => rfl
  | int i =>
    rw [Toml.text, hroom, Toml.display, Toml.displayInt, render?, ofToml, number?]
    · split
      · rfl
      · rw [Option.elim_some, Except.toOption, Option.bind_some, Text.ofString, render,
          String.toList_ofList, number?_of_isPlain (isPlain_of_mem_intChars i), read?_intChars]
    all_goals simp
  | float x hx =>
    rw [Toml.text, hroom, Toml.display, ofToml, number?, Except.toOption, Option.bind_some,
      Layout.render, Text.ofString, String.toList_ofList,
      number?_of_isPlain (Layout.isPlain_of_mem_display hx), Layout.read?_chars_display hx]
    all_goals simp
  | bool b =>
    cases b with
    | false =>
      rw [Toml.text, hroom, Toml.display]
      · decide +kernel
      all_goals simp
    | true =>
      rw [Toml.text, hroom, Toml.display]
      · decide +kernel
      all_goals simp
  | dateTime d t offset =>
    simp only [ofToml, number?, Toml.text, Except.toOption, Option.bind_some]
    rw [Moment.dateTimeText, String.append_assoc, String.append_assoc, ← number?]
    exact (number?_dateText d _).symm
  | date d =>
    have hnone := number?_dateText d ""
    rw [String.append_empty] at hnone
    rw [Toml.text, Except.toOption, Option.bind_some, hnone]
    rfl
  | time t =>
    rw [Toml.text, Except.toOption, Option.bind_some, number?_timeText]
    rfl
  | arr items =>
    have hs : ∀ s : String, ("[" ++ s ++ "]").toList = [] ++ '[' :: (s ++ "]").toList := by simp
    rw [Toml.text, hroom, Toml.display]
    · cases Toml.displayItems room items with
      | error e => rfl
      | ok ss =>
        rw [Except.map, Except.toOption, Option.bind_some,
          number?_of_toList (hs _) (by simp) isBar_bracket (.inr (by simp))]
        rfl
    all_goals simp
  | table entries =>
    have hs : ∀ s : String,
        ("\x7b" ++ s ++ "\x7d").toList = [] ++ '\x7b' :: (s ++ "\x7d").toList := by simp
    rw [Toml.text, hroom, Toml.display]
    · cases Toml.displayEntries room entries with
      | error e => rfl
      | ok ss =>
        rw [Except.map, Except.toOption, Option.bind_some,
          number?_of_toList (hs _) (by simp) isBar_brace (.inr (by simp))]
        rfl
    all_goals simp

end Setting

end ProverLink
