import Mathlib.Data.List.Basic
import Mathlib.Data.List.TakeWhile
import ProverLink.Json.Compact
import ProverLink.Json.Reader
import ProverLink.Proofs.Queries

/-!
# JSON that is written and read again

A value without floating point numbers, overlong integers, surrogates and repeated names is read
from its one line as itself. What follows the line of a value must not go on with a number.
-/

namespace ProverLink

lemma CodePoint.ofNat_toNat (c : Char) : CodePoint.ofNat c.toNat = .ofChar c := by
  have hlt : c.toNat < 0x110000 := (CodePoint.ofChar c).isLt
  rw [CodePoint.ofNat, dif_pos hlt]
  rfl

lemma Text.exists_ofChars {t : Text} (h : t.hasSurrogate = false) : ∃ cs, t = Text.ofChars cs := by
  induction t with
  | nil => exact ⟨[], rfl⟩
  | cons p rest ih =>
    rw [Text.hasSurrogate, List.any_cons, Bool.or_eq_false_iff] at h
    obtain ⟨cs, rfl⟩ := ih h.2
    refine ⟨Char.ofNat p.val :: cs, ?_⟩
    have hp : p = .ofChar (Char.ofNat p.val) := by
      have hvalid : p.val.isValidChar := by
        have hrange := h.1
        have hlt := p.isLt
        simp only [CodePoint.isSurrogate, Bool.and_eq_false_iff, decide_eq_false_iff_not] at hrange
        simp only [Nat.isValidChar]
        omega
      have hval : (Char.ofNat p.val).toNat = p.val := by
        rw [Char.ofNat, dif_pos hvalid]
        rfl
      cases p
      simp only [CodePoint.ofChar, CodePoint.mk.injEq]
      exact hval.symm
    exact congrArg (· :: Text.ofChars cs) hp

lemma Text.joinPairs_ofChars (cs : List Char) : (Text.ofChars cs).joinPairs = Text.ofChars cs := by
  induction cs with
  | nil => rfl
  | cons c rest ih =>
    cases rest with
    | nil => rfl
    | cons d rest =>
      have hlow : (CodePoint.ofChar c).isHigh = false := by
        have hnone := CodePoint.isSurrogate_ofChar c
        simp only [CodePoint.isSurrogate, CodePoint.isHigh, Bool.and_eq_false_iff,
          decide_eq_false_iff_not] at hnone ⊢
        omega
      simp only [Text.ofChars, List.map_cons] at ih ⊢
      rw [Text.joinPairs, hlow, Bool.false_and, if_neg (by simp), ih]

namespace Json

/-! ### Texts -/

lemma hex?_hexChar {d : Nat} (h : d < 16) : Digit.hex? (Digit.hexChar d) = some d := by
  have hall : ∀ k < 16, Digit.hex? (Digit.hexChar k) = some k := by decide
  exact hall d h

lemma hex4?_hexDigits {n : Nat} (h : n < 65536) :
    ∃ a b c d, Digit.hexDigits 4 n = [a, b, c, d] ∧ hex4? a b c d = some n := by
  refine ⟨_, _, _, _, rfl, ?_⟩
  simp only [hex4?, hex?_hexChar (Nat.mod_lt _ (by omega : 16 > 0)), Option.bind_eq_bind,
    Option.bind_some, Option.pure_def, Option.some.injEq]
  omega

/-- The characters that stand for a character inside a string. -/
def escapeChars (c : Char) : List Char := (escape (.ofChar c)).filterMap CodePoint.toChar?

lemma escapeChars_ofChars (cs : List Char) {p : CodePoint} (h : escape p = Text.ofChars cs) :
    (escape p).filterMap CodePoint.toChar? = cs := by
  rw [h, Text.ofChars, List.filterMap_map, show CodePoint.toChar? ∘ CodePoint.ofChar = some from
    funext CodePoint.toChar?_ofChar, List.filterMap_some]

/-- A character is escaped by a letter, by its number, or not at all. -/
lemma escapeChars_cases (c : Char) :
    (∃ l, l ≠ 'u' ∧ escapeChars c = ['\\', l] ∧ escaped? l = some (.ofChar c)) ∨
      (c.toNat < 0x20 ∧ escapeChars c = '\\' :: 'u' :: Digit.hexDigits 4 c.toNat) ∨
      (escapeChars c = [c] ∧ c ≠ '"' ∧ c ≠ '\\' ∧ ¬c.toNat < 0x20) := by
  have hne : ∀ d : Char, c ≠ d → ((CodePoint.ofChar c).val == d.toNat) = false := by
    intro d hd
    rw [beq_eq_false_iff_ne, CodePoint.val_ofChar]
    intro heq
    exact hd (Char.toNat_inj.1 heq)
  by_cases hletter : c ∈ ['"', '\\', '\x08', '\t', '\n', '\x0c', '\r']
  · left
    simp only [List.mem_cons, List.not_mem_nil, or_false] at hletter
    rcases hletter with rfl | rfl | rfl | rfl | rfl | rfl | rfl
    · exact ⟨'"', by decide, rfl, rfl⟩
    · exact ⟨'\\', by decide, rfl, rfl⟩
    · exact ⟨'b', by decide, rfl, rfl⟩
    · exact ⟨'t', by decide, rfl, rfl⟩
    · exact ⟨'n', by decide, rfl, rfl⟩
    · exact ⟨'f', by decide, rfl, rfl⟩
    · exact ⟨'r', by decide, rfl, rfl⟩
  · right
    simp only [List.mem_cons, List.not_mem_nil, or_false, not_or] at hletter
    obtain ⟨h₁, h₂, h₃, h₄, h₅, h₆, h₇⟩ := hletter
    have hescape : escape (.ofChar c)
        = if c.toNat < 0x20 then Text.ofChars ('\\' :: 'u' :: Digit.hexDigits 4 c.toNat)
          else Text.ofChars [c] := by
      have hb : ((CodePoint.ofChar c).val == 0x08) = false := hne '\x08' h₃
      have ht : ((CodePoint.ofChar c).val == 0x09) = false := hne '\t' h₄
      have hn : ((CodePoint.ofChar c).val == 0x0A) = false := hne '\n' h₅
      have hf : ((CodePoint.ofChar c).val == 0x0C) = false := hne '\x0c' h₆
      have hr : ((CodePoint.ofChar c).val == 0x0D) = false := hne '\r' h₇
      simp only [escape, hne '"' h₁, hne '\\' h₂, hb, ht, hn, hf, hr, Bool.false_eq_true, if_false]
      rfl
    by_cases hcontrol : c.toNat < 0x20
    · rw [if_pos hcontrol] at hescape
      exact .inl ⟨hcontrol, escapeChars_ofChars _ hescape⟩
    · rw [if_neg hcontrol] at hescape
      exact .inr ⟨escapeChars_ofChars _ hescape, h₁, h₂, hcontrol⟩

/-- An escaped character in front of something that can be read. -/
lemma codePoints_escapeChars {opening : Nat} {cs rest : List Char} {t : Text}
    (h : codePoints opening cs = .ok (t, rest)) (c : Char) :
    codePoints opening (escapeChars c ++ cs) = .ok (.ofChar c :: t, rest) := by
  rcases escapeChars_cases c with
    ⟨l, hu, hchars, hl⟩ | ⟨hcontrol, hchars⟩ | ⟨hchars, hq, hb, hcontrol⟩
  · rw [hchars]
    simp only [List.cons_append, List.nil_append]
    rw [codePoints, hl]
    · simp only [h]
      rfl
    · exact fun _ _ _ _ _ _ heq => absurd heq hu
    · exact hu
  · obtain ⟨w, x, y, z, hdigits, hhex⟩ := hex4?_hexDigits (n := c.toNat) (by omega)
    rw [hchars, hdigits]
    cases cs with
    | nil => simp [codePoints] at h
    | cons e cs =>
      simp only [List.cons_append, List.nil_append]
      rw [codePoints, hhex]
      simp only [h, CodePoint.ofNat_toNat]
      rfl
  · rw [hchars]
    simp only [List.cons_append, List.nil_append]
    rw [codePoints, if_neg hcontrol, h]
    · rfl
    · exact hq
    · exact fun heq => absurd heq hb
    · exact fun _ _ _ _ _ _ heq => absurd heq hb
    · exact fun _ heq => absurd heq hb
    · exact fun _ _ heq => absurd heq hb

/-- The characters of a text between quotes. -/
def quotedChars (t : Text) : List Char := (compactText t).filterMap CodePoint.toChar?

lemma quotedChars_ofChars (cs : List Char) :
    quotedChars (Text.ofChars cs) = '"' :: (cs.flatMap escapeChars ++ ['"']) := by
  have hbody : ((Text.ofChars cs).flatMap escape).filterMap CodePoint.toChar?
      = cs.flatMap escapeChars := by
    rw [List.filterMap_flatMap, Text.ofChars, List.flatMap_map]
    rfl
  rw [quotedChars, compactText, List.cons_append, List.filterMap_cons, List.filterMap_append, hbody]
  rfl

/-- A text between quotes is read up to the closing one. -/
lemma stringBody_quotedChars {t : Text} (h : t.hasSurrogate = false) (rest : List Char) :
    ∃ body, quotedChars t = '"' :: body ∧ stringBody (body ++ rest) = .ok (t, rest) := by
  obtain ⟨cs, rfl⟩ := Text.exists_ofChars h
  refine ⟨_, quotedChars_ofChars cs, ?_⟩
  have hread : ∀ opening, codePoints opening (cs.flatMap escapeChars ++ '"' :: rest)
      = .ok (Text.ofChars cs, rest) := by
    intro opening
    induction cs with
    | nil => rw [List.flatMap_nil, List.nil_append, codePoints]; rfl
    | cons c cs ih =>
      rw [List.flatMap_cons, List.append_assoc]
      exact codePoints_escapeChars (ih (Text.hasSurrogate_ofChars cs)) c
  rw [stringBody, List.append_assoc, List.singleton_append, hread]
  exact congrArg (fun t => Except.ok (t, rest)) (Text.joinPairs_ofChars cs)

/-! ### Numbers -/

/-- Whether some characters do not go on with a number. -/
def EndsNumber (rest : List Char) : Prop :=
  ∀ c ∈ rest.head?, Digit.isAscii c = false ∧ c ≠ '.' ∧ c ≠ 'e' ∧ c ≠ 'E'

/-- A number that is not zero does not start with a zero. -/
lemma head?_natChars {n : Nat} (h : 0 < n) : (Decimal.natChars n).head? ≠ some '0' := by
  induction n using Nat.strongRecOn with
  | ind n ih =>
    rw [Decimal.natChars]
    by_cases hn : n < 10
    · rw [Nat.toDigits_of_lt_base hn]
      have hall : ∀ k < 10, 0 < k → [k.digitChar].head? ≠ some '0' := by decide
      exact hall n hn h
    · rw [Nat.toDigits_of_base_le (by decide) (by omega),
        List.head?_append_of_ne_nil _ Nat.toDigits_ne_nil]
      exact ih (n / 10) (by omega) (by omega)

lemma whole?_natChars (n : Nat) {rest : List Char} (h : EndsNumber rest) :
    whole? (Decimal.natChars n ++ rest) = some
    ((Decimal.natChars n).map fun c => c.toNat - 48, rest) := by
  cases n with
  | zero => rfl
  | succ n =>
    have hne := head?_natChars n.succ_pos
    have hspan : Binary64.spanDigits (Decimal.natChars (n + 1) ++ rest) = _ :=
      Binary64.spanDigits_append (fun _ => Decimal.isAscii_of_mem_natChars) fun c hc => (h c hc).1
    cases hcs : Decimal.natChars (n + 1) with
    | nil => exact absurd hcs Nat.toDigits_ne_nil
    | cons c cs =>
      rw [hcs] at hne hspan
      rw [List.cons_append] at hspan ⊢
      rw [whole?, hspan]
      · rfl
      · intro _ heq
        exact hne (congrArg some (List.cons.inj heq).1)

lemma fraction_of_endsNumber {rest : List Char} (h : EndsNumber rest) :
    fraction rest = ([], rest) := by
  cases rest with
  | nil => rfl
  | cons c rest =>
    rw [fraction]
    intro _ heq
    exact (h c rfl).2.1 (List.cons.inj heq).1

lemma exponent_of_endsNumber {rest : List Char} (h : EndsNumber rest) :
    exponent rest = (none, rest) := by
  cases rest with
  | nil => rfl
  | cons c rest =>
    have hc := (h c rfl).2.2
    rw [exponent.eq_def]
    split <;> simp_all

lemma number_natChars (start : Nat) (negative : Bool) {n : Nat} {rest : List Char}
    (hn : (Decimal.natChars n).length ≤ Decimal.maxDigits) (h : EndsNumber rest) :
    number start negative (Decimal.natChars n ++ rest) = .ok
    (.int (Decimal.signed negative n), rest) := by
  rw [number, whole?_natChars n h]
  simp only [fraction_of_endsNumber h, exponent_of_endsNumber h,
    Decimal.ofDigits_natChars]
  simp [Nat.not_lt.2 hn]

/-! ### Scalars -/

lemma scalar_of_isAscii {c : Char} (hc : Digit.isAscii c = true) (cs : List Char) :
    scalar (c :: cs) = number (cs.length + 1) false (c :: cs) := by
  have hne : ∀ d, Digit.isAscii d = false → d ≠ c := fun _ => Digit.ne_of_isAscii hc
  have hnone : (words.findSome? fun w =>
      (Scan.after? w.1.toList (c :: cs)).map fun rest => (w.2, rest)) = none := by
    simp [words, Scan.after?, hne 'n' rfl, hne 't' rfl, hne 'f' rfl, hne 'N' rfl, hne 'I' rfl,
      hne '-' rfl]
  rw [scalar, hnone]
  · rfl
  · intro _ heq
    exact hne '-' rfl (List.cons.inj heq).1.symm

lemma scalar_minus_of_isAscii {c : Char} (hc : Digit.isAscii c = true) (cs : List Char) :
    scalar ('-' :: c :: cs) = number (cs.length + 2) true (c :: cs) := by
  have hne : 'I' ≠ c := Digit.ne_of_isAscii hc rfl
  have hnone : (words.findSome? fun w =>
      (Scan.after? w.1.toList ('-' :: c :: cs)).map fun rest => (w.2, rest)) = none := by
    simp [words, Scan.after?, hne]
  rw [scalar, hnone]
  rfl

/-- An integer that is not too long is read again. -/
lemma scalar_intChars {i : Int} {rest : List Char}
    (hi : (Decimal.natChars i.natAbs).length ≤ Decimal.maxDigits) (h : EndsNumber rest) :
    scalar (Decimal.intChars i ++ rest) = .ok (.int i, rest) := by
  cases i with
  | ofNat n =>
    obtain ⟨c, cs, hcs, hc⟩ := Decimal.exists_natChars_cons n
    have hnumber := number_natChars ((cs ++ rest).length + 1) false hi h
    rw [Decimal.intChars, hcs, List.cons_append, scalar_of_isAscii hc]
    rw [Int.ofNat_eq_natCast, Int.natAbs_natCast, hcs, List.cons_append] at hnumber
    exact hnumber
  | negSucc n =>
    obtain ⟨c, cs, hcs, hc⟩ := Decimal.exists_natChars_cons (n + 1)
    have hnumber := number_natChars ((cs ++ rest).length + 2) true hi h
    rw [Decimal.intChars, hcs, List.cons_append, List.cons_append, scalar_minus_of_isAscii hc]
    rw [Int.natAbs_negSucc, Nat.succ_eq_add_one, hcs, List.cons_append] at hnumber
    exact hnumber

/-! ### Values -/

/-- The characters of a value on one line. -/
def chars (v : Json) : List Char := v.compact.filterMap CodePoint.toChar?

/-- The characters of elements with commas between them. -/
def itemChars (items : List Json) : List Char := (compactItems items).filterMap CodePoint.toChar?

/-- The characters of fields with commas between them. -/
def fieldChars (fields : List (Text × Json)) : List Char :=
  (compactFields fields).filterMap CodePoint.toChar?

mutual

/-- Whether a value is read again as itself: there is no floating point number in it, no integer
that is too long, no surrogate, and no name that an object has twice. -/
def IsPlain : Json → Prop
  | .null => True
  | .bool _ => True
  | .int i => (Decimal.natChars i.natAbs).length ≤ Decimal.maxDigits
  | .float _ => False
  | .str t => t.hasSurrogate = false
  | .arr items => ArePlain items
  | .obj fields => (fields.map (·.1)).Nodup ∧ HavePlain fields

def ArePlain : List Json → Prop
  | [] => True
  | v :: rest => v.IsPlain ∧ ArePlain rest

def HavePlain : List (Text × Json) → Prop
  | [] => True
  | (name, v) :: rest => name.hasSurrogate = false ∧ v.IsPlain ∧ HavePlain rest

end

mutual

/-- How many values are nested, the outermost and the innermost included. -/
def depth : Json → Nat
  | .arr items => depthOfItems items + 1
  | .obj fields => depthOfFields fields + 1
  | _ => 1

def depthOfItems : List Json → Nat
  | [] => 0
  | v :: rest => max v.depth (depthOfItems rest)

def depthOfFields : List (Text × Json) → Nat
  | [] => 0
  | (_, v) :: rest => max v.depth (depthOfFields rest)

end

@[simp] lemma filterMap_ofChars (cs : List Char) :
    (Text.ofChars cs).filterMap CodePoint.toChar? = cs := Query.filterMap_toChar?_ofChars cs

@[simp] lemma chars_null : chars .null = ['n', 'u', 'l', 'l'] := rfl

@[simp] lemma chars_bool (b : Bool) :
    chars (.bool b) = if b then ['t', 'r', 'u', 'e'] else ['f', 'a', 'l', 's', 'e'] := by
  cases b <;> rfl

@[simp] lemma chars_int (i : Int) : chars (.int i) = Decimal.intChars i := by
  rw [chars, compact, filterMap_ofChars]

@[simp] lemma chars_str (t : Text) : chars (.str t) = quotedChars t := by
  rw [chars, compact, quotedChars]

@[simp] lemma chars_arr (items : List Json) :
    chars (.arr items) = '[' :: (itemChars items ++ [']']) := by
  simp [chars, compact, itemChars, CodePoint.toChar?_ofChar]

@[simp] lemma chars_obj (fields : List (Text × Json)) :
    chars (.obj fields) = '\x7b' :: (fieldChars fields ++ ['\x7d']) := by
  simp [chars, compact, fieldChars, CodePoint.toChar?_ofChar]

@[simp] lemma itemChars_singleton (v : Json) : itemChars [v] = v.chars := by
  rw [itemChars, compactItems, chars]

@[simp] lemma itemChars_cons (v w : Json) (rest : List Json) :
    itemChars (v :: w :: rest) = v.chars ++ ',' :: itemChars (w :: rest) := by
  simp [chars, compactItems, itemChars, CodePoint.toChar?_ofChar]

@[simp] lemma fieldChars_singleton (name : Text) (v : Json) :
    fieldChars [(name, v)] = quotedChars name ++ ':' :: v.chars := by
  simp [chars, compactFields, fieldChars, quotedChars, CodePoint.toChar?_ofChar]

@[simp] lemma fieldChars_cons (name : Text) (v : Json) (f : Text × Json)
    (rest : List (Text × Json)) :
    fieldChars ((name, v) :: f :: rest)
      = quotedChars name ++ ':' :: (v.chars ++ ',' :: fieldChars (f :: rest)) := by
  simp [chars, compactFields, fieldChars, quotedChars, CodePoint.toChar?_ofChar]

/-! ### The start of a value -/

/-- Whether a character stands at the start of a value. -/
def StartsValue (c : Char) : Prop := isSpace c = false ∧ c ≠ ']' ∧ c ≠ '\uFEFF'

instance (c : Char) : Decidable (StartsValue c) :=
  inferInstanceAs (Decidable (_ ∧ _ ∧ _))

lemma startsValue_of_isAscii {c : Char} (h : Digit.isAscii c = true) : StartsValue c := by
  have hne : ∀ d, Digit.isAscii d = false → c ≠ d := fun _ hd => (Digit.ne_of_isAscii h hd).symm
  refine ⟨?_, hne _ rfl, hne _ rfl⟩
  simp [isSpace, hne ' ' rfl, hne '\t' rfl, hne '\n' rfl, hne '\r' rfl]

lemma exists_quotedChars_cons (t : Text) : ∃ cs, quotedChars t = '"' :: cs := ⟨_, rfl⟩

/-- The first character of a value that holds no floating point number. -/
lemma exists_chars_cons {v : Json} (h : v.IsPlain) : ∃ c cs, v.chars = c :: cs ∧ StartsValue c := by
  cases v with
  | null => exact ⟨_, _, chars_null, by decide⟩
  | bool b => cases b <;> exact ⟨_, _, chars_bool _, by decide⟩
  | int i =>
    rw [chars_int]
    cases i with
    | ofNat n =>
      obtain ⟨c, cs, hcs, hc⟩ := Decimal.exists_natChars_cons n
      exact ⟨c, cs, hcs, startsValue_of_isAscii hc⟩
    | negSucc n => exact ⟨_, _, rfl, by decide⟩
  | float x => exact absurd h id
  | str t =>
    obtain ⟨cs, hcs⟩ := exists_quotedChars_cons t
    exact ⟨_, cs, (chars_str t).trans hcs, by decide⟩
  | arr items => exact ⟨_, _, chars_arr items, by decide⟩
  | obj fields => exact ⟨_, _, chars_obj fields, by decide⟩

lemma skip_cons {c : Char} (h : isSpace c = false) (cs : List Char) : skip (c :: cs) = c :: cs :=
  List.dropWhile_cons_of_neg (by simp [h])

lemma skip_chars_append {v : Json} (h : v.IsPlain) (rest : List Char) :
    skip (v.chars ++ rest) = v.chars ++ rest := by
  obtain ⟨c, cs, hcs, hc⟩ := exists_chars_cons h
  rw [hcs, List.cons_append, skip_cons hc.1]

/-! ### Names -/

lemma put_of_notMem {fields : Fields} {name : Text} (h : name ∉ fields.map (·.1)) (v : Json) :
    fields.put name v = fields ++ [(name, v)] := by
  induction fields with
  | nil => rfl
  | cons f rest ih =>
    rw [List.map_cons, List.mem_cons, not_or] at h
    rw [Fields.put, if_neg (Ne.symm h.1), ih h.2]
    rfl

lemma foldl_put (fields pairs : Fields) (h : ((fields ++ pairs).map (·.1)).Nodup) :
    pairs.foldl (fun fields p => fields.put p.1 p.2) fields = fields ++ pairs := by
  induction pairs generalizing fields with
  | nil => simp
  | cons p rest ih =>
    have hp : p.1 ∉ fields.map (·.1) := by
      rw [List.map_append, List.map_cons, List.nodup_append] at h
      intro hmem
      exact h.2.2 p.1 hmem p.1 List.mem_cons_self rfl
    rw [List.foldl_cons, put_of_notMem hp, ih _ (by simpa using h), List.append_assoc]
    rfl

/-- Fields whose names differ are kept as they are. -/
lemma ofPairs_of_nodup {fields : Fields} (h : (fields.map (·.1)).Nodup) :
    Fields.ofPairs fields = fields := by
  rw [Fields.ofPairs, foldl_put [] fields h]
  rfl

/-! ### Reading -/

lemma endsNumber_cons {c : Char} {rest : List Char}
    (h : Digit.isAscii c = false ∧ c ≠ '.' ∧ c ≠ 'e' ∧ c ≠ 'E') : EndsNumber (c :: rest) := by
  intro d hd
  cases hd
  exact h

/-- What some fuel is enough for, a unit for each half of a character, with room for the depth of
what is read. -/
structure Rereads (fuel : Nat) : Prop where
  value : ∀ {room : Nat} {v : Json} (rest : List Char), v.IsPlain → EndsNumber rest →
    v.depth ≤ room → 2 * v.chars.length ≤ fuel →
    value fuel room (v.chars ++ rest) = .ok (v, rest)
  elements : ∀ {room : Nat} {v : Json} {items : List Json} (rest : List Char),
    ArePlain (v :: items) → depthOfItems (v :: items) ≤ room →
    2 * (itemChars (v :: items)).length < fuel →
    elements fuel room (itemChars (v :: items) ++ ']' :: rest) = .ok (v :: items, rest)
  members : ∀ {room : Nat} {f : Text × Json} {fields : List (Text × Json)} (rest : List Char),
    HavePlain (f :: fields) → depthOfFields (f :: fields) ≤ room →
    2 * (fieldChars (f :: fields)).length < fuel →
    members fuel room (fieldChars (f :: fields) ++ '\x7d' :: rest) = .ok (f :: fields, rest)

lemma value_of_scalar {fuel room : Nat} {c : Char}
    (h : c ≠ '"' ∧ c ≠ '[' ∧ c ≠ '\x7b') (cs : List Char) :
    value (fuel + 1) room (c :: cs) = scalar (c :: cs) := by
  rw [value]
  · exact fun _ heq => h.1 (List.cons.inj heq).1
  · exact fun _ heq => h.2.1 (List.cons.inj heq).1
  · exact fun _ heq => h.2.2 (List.cons.inj heq).1

lemma value_intChars {fuel room : Nat} {i : Int} {rest : List Char}
    (hi : (Decimal.natChars i.natAbs).length ≤ Decimal.maxDigits) (h : EndsNumber rest) :
    value (fuel + 1) room (Decimal.intChars i ++ rest) = .ok (.int i, rest) := by
  rw [← scalar_intChars hi h]
  cases i with
  | ofNat n =>
    obtain ⟨c, cs, hcs, hc⟩ := Decimal.exists_natChars_cons n
    have hne : ∀ d, Digit.isAscii d = false → c ≠ d := fun _ hd => (Digit.ne_of_isAscii hc hd).symm
    rw [Decimal.intChars, hcs, List.cons_append]
    exact value_of_scalar ⟨hne _ rfl, hne _ rfl, hne _ rfl⟩ _
  | negSucc n => exact value_of_scalar (by decide) _

lemma value_quotedChars {fuel room : Nat} {t : Text} (h : t.hasSurrogate = false)
    (rest : List Char) :
    value (fuel + 1) room (quotedChars t ++ rest) = .ok (.str t, rest) := by
  obtain ⟨body, hbody, hread⟩ := stringBody_quotedChars h rest
  rw [hbody, List.cons_append, value, hread]
  rfl

namespace Rereads

variable {fuel room : Nat} (ih : Rereads fuel)

include ih

lemma value_arr {items : List Json} {rest : List Char} (h : ArePlain items)
    (hroom : depth (.arr items) ≤ room) (hfuel : 2 * (chars (.arr items)).length ≤ fuel + 1) :
    Json.value (fuel + 1) room (chars (.arr items) ++ rest) = .ok (.arr items, rest) := by
  obtain ⟨room, rfl⟩ : ∃ k, room = k + 1 := Nat.exists_eq_add_one.2 (Nat.zero_lt_of_lt hroom)
  rw [chars_arr] at hfuel ⊢
  cases items with
  | nil => rfl
  | cons v items =>
    obtain ⟨c, cs, hcs, hc⟩ := exists_chars_cons h.1
    have hhead : ∃ tail, itemChars (v :: items) ++ ']' :: rest = c :: tail := by
      cases items with
      | nil => exact ⟨_, by rw [itemChars_singleton, hcs]; rfl⟩
      | cons w items => exact ⟨_, by rw [itemChars_cons, hcs]; rfl⟩
    obtain ⟨tail, htail⟩ := hhead
    simp only [List.length_cons, List.length_append, List.length_nil] at hfuel
    have hread := ih.elements rest h (Nat.le_of_lt_succ hroom) (by omega)
    rw [htail] at hread
    rw [List.cons_append, List.append_assoc, List.singleton_append, Json.value, htail,
      skip_cons hc.1]
    simp only [inside, bind, Except.bind]
    split
    · rename_i heq
      exact absurd (List.cons.inj heq).1 hc.2.1
    · rw [hread]

lemma value_obj {fields : List (Text × Json)} {rest : List Char}
    (hnames : (fields.map (·.1)).Nodup) (h : HavePlain fields)
    (hroom : depth (.obj fields) ≤ room) (hfuel : 2 * (chars (.obj fields)).length ≤ fuel + 1) :
    Json.value (fuel + 1) room (chars (.obj fields) ++ rest) = .ok (.obj fields, rest) := by
  obtain ⟨room, rfl⟩ : ∃ k, room = k + 1 := Nat.exists_eq_add_one.2 (Nat.zero_lt_of_lt hroom)
  rw [chars_obj] at hfuel ⊢
  cases fields with
  | nil => rfl
  | cons f fields =>
    have hhead : ∃ tail, fieldChars (f :: fields) ++ '\x7d' :: rest = '"' :: tail := by
      cases fields with
      | nil => exact ⟨_, rfl⟩
      | cons g fields => exact ⟨_, rfl⟩
    obtain ⟨tail, htail⟩ := hhead
    simp only [List.length_cons, List.length_append, List.length_nil] at hfuel
    have hread := ih.members rest h (Nat.le_of_lt_succ hroom) (by omega)
    rw [htail] at hread
    rw [List.cons_append, List.append_assoc, List.singleton_append, Json.value, htail,
      skip_cons rfl]
    show (Json.members fuel room _ >>= fun _ => _) = _
    rw [hread]
    exact congrArg (fun fields => Except.ok (Json.obj fields, rest)) (ofPairs_of_nodup hnames)

lemma value_succ {room : Nat} {v : Json} (rest : List Char) (hv : v.IsPlain) (h : EndsNumber rest)
    (hroom : v.depth ≤ room) (hfuel : 2 * v.chars.length ≤ fuel + 1) :
    Json.value (fuel + 1) room (v.chars ++ rest) = .ok (v, rest) := by
  cases v with
  | null => rfl
  | bool b => cases b <;> rfl
  | int i => exact chars_int i ▸ value_intChars hv h
  | float x => exact absurd hv id
  | str t => exact chars_str t ▸ value_quotedChars hv rest
  | arr items => exact ih.value_arr hv hroom hfuel
  | obj fields => exact ih.value_obj hv.1 hv.2 hroom hfuel

lemma elements_succ {room : Nat} {v : Json} {items : List Json} (rest : List Char)
    (h : ArePlain (v :: items)) (hroom : depthOfItems (v :: items) ≤ room)
    (hfuel : 2 * (itemChars (v :: items)).length < fuel + 1) :
    Json.elements (fuel + 1) room (itemChars (v :: items) ++ ']' :: rest)
      = .ok (v :: items, rest) := by
  obtain ⟨hfirst, hothers⟩ := Nat.max_le.1 hroom
  cases items with
  | nil =>
    rw [itemChars_singleton] at hfuel ⊢
    rw [Json.elements, ih.value _ h.1 (endsNumber_cons (by decide)) hfirst (by omega)]
    rfl
  | cons w items =>
    rw [itemChars_cons] at hfuel ⊢
    simp only [List.length_cons, List.length_append] at hfuel
    have hskip : skip (itemChars (w :: items) ++ ']' :: rest)
        = itemChars (w :: items) ++ ']' :: rest := by
      obtain ⟨c, cs, hcs, hc⟩ := exists_chars_cons h.2.1
      cases items with
      | nil => rw [itemChars_singleton, hcs]; exact skip_cons hc.1 _
      | cons x items => rw [itemChars_cons, hcs]; exact skip_cons hc.1 _
    have hvalue := ih.value (',' :: (itemChars (w :: items) ++ ']' :: rest)) h.1
      (endsNumber_cons (by decide)) hfirst (by omega)
    have hrest := ih.elements rest h.2 hothers (by omega)
    rw [← hskip] at hrest
    rw [List.append_assoc, List.cons_append, Json.elements, hvalue]
    show (Json.elements fuel room (skip _) >>= fun _ => _) = _
    rw [hrest]
    rfl

lemma members_last {name : Text} {v : Json} (hname : name.hasSurrogate = false) (hv : v.IsPlain)
    (hroom : v.depth ≤ room) (hfuel : 2 * v.chars.length ≤ fuel) (rest : List Char) :
    Json.members (fuel + 1) room (quotedChars name ++ ':' :: (v.chars ++ '\x7d' :: rest))
      = .ok ([(name, v)], rest) := by
  obtain ⟨body, hbody, hread⟩ := stringBody_quotedChars hname (':' :: (v.chars ++ '\x7d' :: rest))
  rw [hbody, List.cons_append, Json.members, hread]
  show (Json.value fuel room (skip _) >>= fun _ => _) = _
  rw [skip_chars_append hv, ih.value _ hv (endsNumber_cons (by decide)) hroom hfuel]
  rfl

lemma members_more {name : Text} {v : Json} (hname : name.hasSurrogate = false) (hv : v.IsPlain)
    (hroom : v.depth ≤ room) (hfuel : 2 * v.chars.length ≤ fuel) {cs rest : List Char}
    {fields : List (Text × Json)} (h : Json.members fuel room (skip cs) = .ok (fields, rest)) :
    Json.members (fuel + 1) room (quotedChars name ++ ':' :: (v.chars ++ ',' :: cs))
      = .ok ((name, v) :: fields, rest) := by
  obtain ⟨body, hbody, hread⟩ := stringBody_quotedChars hname (':' :: (v.chars ++ ',' :: cs))
  rw [hbody, List.cons_append, Json.members, hread]
  show (Json.value fuel room (skip _) >>= fun _ => _) = _
  rw [skip_chars_append hv, ih.value _ hv (endsNumber_cons (by decide)) hroom hfuel]
  show (Json.members fuel room (skip cs) >>= fun _ => _) = _
  rw [h]
  rfl

lemma members_succ {room : Nat} {f : Text × Json} {fields : List (Text × Json)}
    (rest : List Char) (h : HavePlain (f :: fields)) (hroom : depthOfFields (f :: fields) ≤ room)
    (hfuel : 2 * (fieldChars (f :: fields)).length < fuel + 1) :
    Json.members (fuel + 1) room (fieldChars (f :: fields) ++ '\x7d' :: rest)
      = .ok (f :: fields, rest) := by
  obtain ⟨name, v⟩ := f
  obtain ⟨hfirst, hothers⟩ := Nat.max_le.1 hroom
  cases fields with
  | nil =>
    rw [fieldChars_singleton] at hfuel ⊢
    simp only [List.length_cons, List.length_append] at hfuel
    rw [List.append_assoc, List.cons_append]
    exact ih.members_last h.1 h.2.1 hfirst (by omega) rest
  | cons g fields =>
    rw [fieldChars_cons] at hfuel ⊢
    simp only [List.length_cons, List.length_append] at hfuel
    have hskip : skip (fieldChars (g :: fields) ++ '\x7d' :: rest)
        = fieldChars (g :: fields) ++ '\x7d' :: rest := by
      cases fields with
      | nil => rfl
      | cons _ _ => rfl
    have hrest := ih.members rest h.2.2 hothers (by omega)
    rw [← hskip] at hrest
    simp only [List.append_assoc, List.cons_append]
    exact ih.members_more h.1 h.2.1 hfirst (by omega) hrest

end Rereads

lemma rereads (fuel : Nat) : Rereads fuel := by
  induction fuel with
  | zero =>
    constructor
    · intro _ v rest hv _ _ hfuel
      obtain ⟨c, cs, hcs, -⟩ := exists_chars_cons hv
      rw [hcs, List.length_cons] at hfuel
      omega
    · intro _ _ _ _ _ _ hfuel
      omega
    · intro _ _ _ _ _ _ hfuel
      omega
  | succ fuel ih => exact ⟨ih.value_succ, ih.elements_succ, ih.members_succ⟩

/-- A plain value that is not nested too deeply is read from its line again, white space behind it
or not. -/
lemma read_chars_append [Limits] {v : Json} (h : v.IsPlain) (hdepth : v.depth ≤ maxDepth + 2)
    {blank : List Char}
    (hblank : ∀ c ∈ blank, isSpace c = true) : read (v.chars ++ blank) = .ok v := by
  obtain ⟨c, cs, hcs, hc⟩ := exists_chars_cons h
  have hends : EndsNumber blank := by
    intro d hd
    have hspace := hblank d (List.mem_of_mem_head? hd)
    simp only [isSpace, Bool.or_eq_true, decide_eq_true_eq] at hspace
    rcases hspace with ((rfl | rfl) | rfl) | rfl <;> decide
  have hvalue := (rereads (2 * (v.chars ++ blank).length + 1)).value blank h hends
    (hdepth.trans Limits.maxDepth_le_json) (by rw [List.length_append]; omega)
  have hrest : skip blank = [] := List.dropWhile_eq_nil_iff.2 hblank
  have hmark : (v.chars ++ blank).head? ≠ some '\uFEFF' := by
    rw [hcs]
    exact fun heq => hc.2.2 (Option.some.inj heq)
  have hdocument : document (v.chars ++ blank) = .ok v := by
    rw [document, if_neg hmark]
    show (Json.value _ _ (skip _) >>= fun _ => _) = _
    rw [skip_chars_append h, hvalue]
    simp only [bind, Except.bind, hrest]
  rw [read, hdocument]
  rfl

lemma read_chars [Limits] {v : Json} (h : v.IsPlain) (hdepth : v.depth ≤ maxDepth + 2) :
    read v.chars = .ok v := by
  have hread := read_chars_append h hdepth (List.forall_mem_nil _)
  rwa [List.append_nil] at hread

/-! ### A value stands on one line -/

lemma le_of_mem_hexDigits {k n : Nat} {c : Char} (h : c ∈ Digit.hexDigits k n) :
    0x20 ≤ c.toNat := by
  have hall : ∀ d < 16, 0x20 ≤ (Digit.hexChar d).toNat := by decide
  induction k generalizing n with
  | zero => cases h
  | succ k ih =>
    rw [Digit.hexDigits, List.mem_append, List.mem_singleton] at h
    rcases h with h | rfl
    · exact ih h
    · exact hall _ (Nat.mod_lt _ (by omega))

lemma le_of_mem_escapeChars {c d : Char} (h : d ∈ escapeChars c) : 0x20 ≤ d.toNat := by
  rcases escapeChars_cases c with ⟨l, -, hchars, hl⟩ | ⟨-, hchars⟩ | ⟨hchars, -, -, hcontrol⟩
  · rw [hchars, List.mem_cons, List.mem_singleton] at h
    rcases h with rfl | rfl
    · decide
    · -- a letter that names an escape is no control character
      by_contra hcontrol
      unfold escaped? at hl
      split at hl
      all_goals first
        | exact hcontrol (by decide)
        | cases hl
  · rw [hchars, List.mem_cons, List.mem_cons] at h
    rcases h with rfl | rfl | h
    · decide
    · decide
    · exact le_of_mem_hexDigits h
  · rw [hchars, List.mem_singleton] at h
    rw [h]
    omega

lemma le_of_mem_quotedChars {t : Text} (h : t.hasSurrogate = false) {c : Char}
    (hc : c ∈ quotedChars t) : 0x20 ≤ c.toNat := by
  obtain ⟨cs, rfl⟩ := Text.exists_ofChars h
  rw [quotedChars_ofChars] at hc
  simp only [List.mem_cons, List.mem_append, List.mem_flatMap, List.not_mem_nil, or_false] at hc
  rcases hc with rfl | ⟨d, -, hd⟩ | rfl
  · decide
  · exact le_of_mem_escapeChars hd
  · decide

lemma le_of_mem_intChars {i : Int} {c : Char} (h : c ∈ Decimal.intChars i) : 0x20 ≤ c.toNat := by
  have hnat : ∀ n, c ∈ Decimal.natChars n → 0x20 ≤ c.toNat := by
    intro n hmem
    have hlow : 48 ≤ c.toNat := (Decimal.range_of_mem_natChars hmem).1
    omega
  cases i with
  | ofNat n => exact hnat n h
  | negSucc n =>
    rcases List.mem_cons.1 h with rfl | h
    · decide
    · exact hnat _ h

mutual

/-- No character of a value is a control character below the space. -/
lemma le_of_mem_chars (v : Json) (h : v.IsPlain) {c : Char} (hc : c ∈ v.chars) :
    0x20 ≤ c.toNat := by
  cases v with
  | null =>
    have hall : (chars .null).all (fun d => 0x20 ≤ d.toNat) = true := by decide
    exact of_decide_eq_true (List.all_eq_true.1 hall c hc)
  | bool b =>
    have hall : ∀ b, (chars (.bool b)).all (fun d => 0x20 ≤ d.toNat) = true := by decide
    exact of_decide_eq_true (List.all_eq_true.1 (hall b) c hc)
  | int i => exact le_of_mem_intChars (chars_int i ▸ hc)
  | float x => exact absurd h id
  | str t => exact le_of_mem_quotedChars h (chars_str t ▸ hc)
  | arr items =>
    simp only [chars_arr, List.mem_cons, List.mem_append, List.not_mem_nil, or_false] at hc
    rcases hc with rfl | hc | rfl
    · decide
    · exact le_of_mem_itemChars items h hc
    · decide
  | obj fields =>
    simp only [chars_obj, List.mem_cons, List.mem_append, List.not_mem_nil, or_false] at hc
    rcases hc with rfl | hc | rfl
    · decide
    · exact le_of_mem_fieldChars fields h.2 hc
    · decide

lemma le_of_mem_itemChars (items : List Json) (h : ArePlain items) {c : Char}
    (hc : c ∈ itemChars items) : 0x20 ≤ c.toNat := by
  cases items with
  | nil => cases hc
  | cons v items =>
    cases items with
    | nil => exact le_of_mem_chars v h.1 (itemChars_singleton v ▸ hc)
    | cons w items =>
      rw [itemChars_cons, List.mem_append, List.mem_cons] at hc
      rcases hc with hc | rfl | hc
      · exact le_of_mem_chars v h.1 hc
      · decide
      · exact le_of_mem_itemChars (w :: items) h.2 hc

lemma le_of_mem_fieldChars (fields : List (Text × Json)) (h : HavePlain fields) {c : Char}
    (hc : c ∈ fieldChars fields) : 0x20 ≤ c.toNat := by
  cases fields with
  | nil => cases hc
  | cons f fields =>
    obtain ⟨name, v⟩ := f
    cases fields with
    | nil =>
      rw [fieldChars_singleton, List.mem_append, List.mem_cons] at hc
      rcases hc with hc | rfl | hc
      · exact le_of_mem_quotedChars h.1 hc
      · decide
      · exact le_of_mem_chars v h.2.1 hc
    | cons g fields =>
      rw [fieldChars_cons, List.mem_append, List.mem_cons, List.mem_append, List.mem_cons] at hc
      rcases hc with hc | rfl | hc | rfl | hc
      · exact le_of_mem_quotedChars h.1 hc
      · decide
      · exact le_of_mem_chars v h.2.1 hc
      · decide
      · exact le_of_mem_fieldChars (g :: fields) h.2.2 hc

end

lemma newline_notMem_chars (v : Json) (h : v.IsPlain) : '\n' ∉ v.chars :=
  fun hmem => absurd (le_of_mem_chars v h hmem) (by decide)

end Json

end ProverLink
