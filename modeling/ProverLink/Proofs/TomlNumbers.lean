import ProverLink.Proofs.TomlValues

/-!
# Modest texts

Integers that are too long and values that are nested too deeply are the two things in a document
that the reader does not report as problems. A text in which no run of digits is very long, and in
which only so many characters lead one level down, is read without such a fault, and what is read
from it can be shown.
-/

namespace ProverLink.Toml

/-! ### Integers -/

/-- Whether a character can stand in an integer: a digit of any base, or a low line. -/
def isNumeral (c : Char) : Bool := Digit.isHex c || c = '_'

/-- As many hexadecimal digits never give an integer that is too long. -/
def longestRun : Nat := 83 * 43

/-- Nowhere in the text are there more characters of an integer in a row. -/
def HasShortRuns (cs : List Char) : Prop :=
  ∀ run, run <:+: cs → (∀ c ∈ run, isNumeral c = true) → run.length ≤ longestRun

lemma HasShortRuns.suffix {cs r : List Char} (h : HasShortRuns cs) (hr : r <:+ cs) :
    HasShortRuns r :=
  fun run hrun => h run (hrun.trans hr.isInfix)

/-- The digits of a number bound it. -/
lemma foldl_lt {base : Nat} {ds : List Nat} (h : ∀ d ∈ ds, d < base) (n : Nat) :
    ds.foldl (fun n d => base * n + d) n < (n + 1) * Nat.pow base ds.length := by
  induction ds generalizing n with
  | nil => simp
  | cons d rest ih =>
    rw [List.forall_mem_cons] at h
    rw [List.foldl_cons, List.length_cons]
    calc rest.foldl (fun n d => base * n + d) (base * n + d)
        < (base * n + d + 1) * Nat.pow base rest.length := ih h.2 _
      _ ≤ ((n + 1) * base) * Nat.pow base rest.length :=
        Nat.mul_le_mul_right _ (by rw [Nat.add_one_mul, Nat.mul_comm n]; omega)
      _ = (n + 1) * Nat.pow base (rest.length + 1) := by
        rw [Nat.mul_assoc, Nat.mul_comm base]
        rfl

lemma lt_pow_of_digits {base : Nat} {ds : List Nat} {k : Nat} (hbase : base ≤ 16)
    (hds : ∀ d ∈ ds, d < base) (hk : ds.length ≤ k) :
    ds.foldl (fun n d => base * n + d) 0 < Nat.pow 16 k :=
  calc ds.foldl (fun n d => base * n + d) 0 < 1 * Nat.pow base ds.length := foldl_lt hds 0
    _ = Nat.pow base ds.length := Nat.one_mul _
    _ ≤ Nat.pow 16 ds.length := Nat.pow_le_pow_left hbase _
    _ ≤ Nat.pow 16 k := Nat.pow_le_pow_right (by decide) hk

/-- Decimal digits against hexadecimal ones. -/
lemma pow_sixteen_le (k : Nat) : Nat.pow 16 (83 * k) ≤ Nat.pow 10 (100 * k) :=
  calc Nat.pow 16 (83 * k) = Nat.pow (Nat.pow 16 83) k := Nat.pow_mul ..
    _ ≤ Nat.pow (Nat.pow 10 100) k := Nat.pow_le_pow_left (by decide) k
    _ = Nat.pow 10 (100 * k) := (Nat.pow_mul ..).symm

/-- Whether a value can be shown with room for so many nested values. -/
def Showable (room : Nat) (v : Toml) : Prop := ∃ s, display room v = .ok s

lemma showable_int {base : Nat} {ds : List Nat} {i : Int} (hbase : base ≤ 16)
    (hds : ∀ d ∈ ds, d < base) (hlength : ds.length ≤ longestRun)
    (hi : i.natAbs = ds.foldl (fun n d => base * n + d) 0) : Showable 1 (.int i) := by
  have hmax : Decimal.maxDigits = 100 * 43 := rfl
  have hlt : i.natAbs < Nat.pow 10 Decimal.maxDigits := by
    have hdigits := lt_pow_of_digits hbase hds hlength
    rw [← hi, longestRun] at hdigits
    rw [hmax]
    exact Nat.lt_of_lt_of_le hdigits (pow_sixteen_le 43)
  have hshort : Decimal.isTooLong i = false := decide_eq_false (Nat.not_le.2 hlt)
  exact ⟨Decimal.render i, by rw [display, displayInt, Decimal.render?, hshort]; rfl⟩

/-- Digits that stand at the head of some characters, and what follows them. -/
def IsRun (base : Nat) (cs : List Char) (p : List Nat × List Char) : Prop :=
  ∃ run, cs = run ++ p.2 ∧ (∀ c ∈ run, isNumeral c = true) ∧ p.1.length ≤ run.length ∧
    ∀ n ∈ p.1, n < base

lemma IsRun.length_le {base : Nat} {cs : List Char} {p : List Nat × List Char}
    (h : IsRun base cs p) (hcs : HasShortRuns cs) : p.1.length ≤ longestRun := by
  obtain ⟨run, heq, hrun, hlength, -⟩ := h
  have hinfix : run <:+: cs := ⟨[], p.2, by rw [heq, List.nil_append]⟩
  exact hlength.trans (hcs run hinfix hrun)

lemma IsRun.nil (base : Nat) (cs : List Char) : IsRun base cs ([], cs) :=
  ⟨[], rfl, by simp, by simp, by simp⟩

lemma IsRun.cons {base n : Nat} {cs : List Char} {p : List Nat × List Char}
    (h : IsRun base cs p) (front : List Char) (hfront : front ≠ [])
    (hnumeral : ∀ c ∈ front, isNumeral c = true) (hn : n < base) :
    IsRun base (front ++ cs) (n :: p.1, p.2) := by
  obtain ⟨run, rfl, hrun, hlength, hdigits⟩ := h
  refine ⟨front ++ run, by simp, ?_, ?_, List.forall_mem_cons.2 ⟨hn, hdigits⟩⟩
  · intro c hc
    exact (List.mem_append.1 hc).elim (hnumeral c) (hrun c)
  · have := List.length_pos_iff.2 hfront
    simp
    omega

lemma isRun_digitRun {base : Nat} {value? : Char → Option Nat}
    (hvalue : ∀ c n, value? c = some n → isNumeral c = true ∧ n < base) (cs : List Char) :
    IsRun base cs (digitRun value? cs) := by
  fun_induction digitRun value? cs with
  | case1 => exact .nil ..
  | case2 c d r n hc hd ns rest hrun ih =>
    rw [hrun] at ih
    have hnumeral : ∀ x ∈ [c, '_'], isNumeral x = true :=
      List.forall_mem_cons.2 ⟨(hvalue c n hc).1, List.forall_mem_singleton.2 rfl⟩
    exact ih.cons [c, '_'] (by simp) hnumeral (hvalue c n hc).2
  | case3 c d r n hc hd =>
    exact (IsRun.nil base ('_' :: d :: r)).cons [c] (by simp) (by simp [hvalue c n hc])
      (hvalue c n hc).2
  | case4 => exact .nil ..
  | case5 c r _ n hc ns rest hrun ih =>
    rw [hrun] at ih
    exact ih.cons [c] (by simp) (by simp [hvalue c n hc]) (hvalue c n hc).2
  | case6 => exact .nil ..

lemma ascii?_bounded (c : Char) (n : Nat) (h : Digit.ascii? c = some n) :
    isNumeral c = true ∧ n < 10 := by
  rw [Digit.ascii?] at h
  split at h
  · rename_i hc
    have hnumeral : isNumeral c = true := by simp [isNumeral, Digit.isHex, Digit.hex?, hc]
    simp only [Bool.and_eq_true, decide_eq_true_eq, Char.le_def, UInt32.le_iff_toNat_le] at hc
    have hrange : 48 ≤ c.toNat ∧ c.toNat ≤ 57 := hc
    have hn : c.toNat - 48 = n := Option.some.inj h
    exact ⟨hnumeral, by omega⟩
  · cases h

lemma hex?_bounded (c : Char) (n : Nat) (h : Digit.hex? c = some n) :
    isNumeral c = true ∧ n < 16 := by
  refine ⟨by simp [isNumeral, Digit.isHex, h], ?_⟩
  simp only [Digit.hex?, Bool.and_eq_true, decide_eq_true_eq, Char.le_def,
    UInt32.le_iff_toNat_le] at h
  split_ifs at h with h₁ h₂ h₃
  · have hrange : 48 ≤ c.toNat ∧ c.toNat ≤ 57 := h₁
    have hn : c.toNat - 48 = n := Option.some.inj h
    omega
  · have hrange : 97 ≤ c.toNat ∧ c.toNat ≤ 102 := h₂
    have hn : c.toNat - 97 + 10 = n := Option.some.inj h
    omega
  · have hrange : 65 ≤ c.toNat ∧ c.toNat ≤ 70 := h₃
    have hn : c.toNat - 65 + 10 = n := Option.some.inj h
    omega

lemma digitBelow_bounded {base : Nat} (c : Char) (n : Nat) (h : digitBelow base c = some n) :
    isNumeral c = true ∧ n < base := by
  rw [digitBelow, Option.filter_eq_some_iff, decide_eq_true_eq] at h
  exact ⟨(ascii?_bounded c n h.1).1, h.2⟩

/-! ### Numbers -/

/-- A reader of values that gives only values that can be shown. -/
abbrev ReadsShowable (x : Except Stop (Toml × List Char)) : Prop :=
  Meets (fun p => Showable 1 p.1) x

lemma showable_of_inBase? {base : Nat} {value? : Char → Option Nat} {cs r : List Char} {i : Int}
    (hbase : base ≤ 16) (hvalue : ∀ c n, value? c = some n → isNumeral c = true ∧ n < base)
    (hcs : HasShortRuns cs) (h : inBase? base value? cs = some (i, r)) : Showable 1 (.int i) := by
  have hrun := isRun_digitRun hvalue cs
  rw [inBase?] at h
  split at h
  · cases h
  · rename_i hns
    cases h
    rw [hns] at hrun
    have hlength := hrun.length_le hcs
    obtain ⟨run, -, -, -, hdigits⟩ := hrun
    exact showable_int hbase hdigits hlength (Int.natAbs_natCast _)

lemma showable_of_based? {cs r : List Char} {i : Int} (hcs : HasShortRuns cs)
    (h : based? cs = some (i, r)) : Showable 1 (.int i) := by
  rw [based?.eq_def] at h
  split at h
  · exact showable_of_inBase? (by decide) hex?_bounded (hcs.suffix (List.suffix_cons ..)) h
  · exact showable_of_inBase? (by decide) digitBelow_bounded (hcs.suffix (List.suffix_cons ..)) h
  · exact showable_of_inBase? (by decide) digitBelow_bounded (hcs.suffix (List.suffix_cons ..)) h
  · cases h

lemma isRun_of_whole? {cs r : List Char} {ns : List Nat} (h : whole? cs = some (ns, r)) :
    IsRun 10 cs (ns, r) := by
  rw [whole?.eq_def] at h
  split at h
  · cases h
    exact (IsRun.nil 10 _).cons ['0'] (by simp) (List.forall_mem_singleton.2 rfl) (by decide)
  · have hrun := isRun_digitRun ascii?_bounded cs
    split at h
    · cases h
    · rename_i hns
      cases h
      rwa [hns] at hrun

lemma natAbs_signed (negative : Bool) (n : Nat) : (Decimal.signed negative n).natAbs = n := by
  cases negative with
  | false => exact Int.natAbs_natCast n
  | true => exact (Int.natAbs_neg _).trans (Int.natAbs_natCast n)

lemma longestRun_le : longestRun ≤ Decimal.maxDigits := by decide

lemma reads_decimal? {negative : Bool} {cs : List Char} (hcs : HasShortRuns cs)
    {x : Except Stop (Toml × List Char)} (h : decimal? negative cs = some x) :
    ReadsShowable x := by
  rw [decimal?, Option.bind_eq_bind, Option.bind_eq_some_iff] at h
  obtain ⟨⟨ns, rest⟩, hwhole, h⟩ := h
  have hrun := isRun_of_whole? hwhole
  have hlength := hrun.length_le hcs
  dsimp only at h
  split at h
  · rw [if_neg (Nat.not_lt.2 (hlength.trans longestRun_le))] at h
    cases h
    obtain ⟨run, -, -, -, hdigits⟩ := hrun
    exact showable_int (by decide) hdigits hlength (natAbs_signed ..)
  · cases h
    exact ⟨_, rfl⟩

lemma reads_number? {cs : List Char} (hcs : HasShortRuns cs)
    {x : Except Stop (Toml × List Char)} (h : number? cs = some x) : ReadsShowable x := by
  rw [number?.eq_def] at h
  split at h
  · exact reads_decimal? (hcs.suffix (List.suffix_cons ..)) h
  · exact reads_decimal? (hcs.suffix (List.suffix_cons ..)) h
  · split at h
    · rename_i hbased
      cases h
      exact showable_of_based? (hcs.suffix (List.suffix_cons ..)) hbased
    · exact reads_decimal? hcs h
  · exact reads_decimal? hcs h

lemma reads_dated (d : Date) (cs rest : List Char) : ReadsShowable (dated d cs rest) := by
  rw [dated]
  split
  · split
    · exact ⟨_, rfl⟩
    · exact ⟨_, rfl⟩
  · trivial

lemma reads_atom {cs : List Char} (hcs : HasShortRuns cs) : ReadsShowable (atom cs) := by
  rw [atom]
  split
  · rename_i b rest _
    cases b
    · exact ⟨_, rfl⟩
    · exact ⟨_, rfl⟩
  split
  · exact reads_dated ..
  split
  · exact ⟨_, rfl⟩
  split
  · rename_i hnumber
    exact reads_number? hcs hnumber
  split
  · exact ⟨_, rfl⟩
  · trivial

/-! ### Values -/

lemma exists_displayItems_iff {room : Nat} {vs : List Toml} :
    (∃ ss, displayItems room vs = .ok ss) ↔ ∀ v ∈ vs, Showable room v := by
  induction vs with
  | nil => simp [displayItems]
  | cons v rest ih =>
    rw [displayItems, List.forall_mem_cons, ← ih, Showable]
    cases display room v <;> cases displayItems room rest <;> simp [bind, Except.bind]

lemma exists_displayEntries_iff {room : Nat} {es : List (String × Toml)} :
    (∃ ss, displayEntries room es = .ok ss) ↔ ∀ e ∈ es, Showable room e.2 := by
  induction es with
  | nil => simp [displayEntries]
  | cons e rest ih =>
    rw [displayEntries, List.forall_mem_cons, ← ih, Showable]
    cases display room e.2 <;> cases displayEntries room rest <;> simp [bind, Except.bind]

lemma showable_arr (room : Nat) (vs : List Toml) :
    Showable (room + 1) (.arr vs) ↔ ∀ v ∈ vs, Showable room v := by
  rw [← exists_displayItems_iff, Showable, display]
  cases displayItems room vs <;> simp [Except.map]

lemma showable_table (room : Nat) (t : Table) :
    Showable (room + 1) (.table t) ↔ ∀ e ∈ t, Showable room e.2 := by
  rw [← exists_displayEntries_iff, Showable, display]
  cases displayEntries room t <;> simp [Except.map]

/-- More room does no harm. -/
lemma Showable.mono {m n : Nat} {v : Toml} (hmn : m ≤ n) (h : Showable m v) : Showable n v := by
  induction m generalizing n v with
  | zero =>
    obtain ⟨s, hs⟩ := h
    cases v <;> cases hs
  | succ m ih =>
    obtain ⟨n, rfl⟩ : ∃ k, n = k + 1 := ⟨n - 1, by omega⟩
    have hle : m ≤ n := Nat.le_of_succ_le_succ hmn
    cases v with
    | arr vs => exact (showable_arr n vs).2 fun v hv => ih hle ((showable_arr m vs).1 h v hv)
    | table t => exact (showable_table n t).2 fun e he => ih hle ((showable_table m t).1 h e he)
    | bool b =>
      cases b
      · exact h
      · exact h
    | _ => exact h

/-- Whether reading stopped at a problem, and for no other reason. -/
def Stop.IsProblem (s : Stop) : Prop := ∃ p remaining, s = .problem p remaining

lemma Meets.yields {α : Type} {P : α → Prop} {x : Except Stop α} (h : Meets P x) :
    Yields Stop.IsProblem P x := by
  match x, h with
  | .ok _, h => exact h
  | .error (.problem p n), _ => exact ⟨p, n, rfl⟩

lemma trait_showable : Trait Showable HasShortRuns Stop.IsProblem where
  mono := Showable.mono
  arr := showable_arr
  table := showable_table
  str _ := ⟨_, rfl⟩
  suffix := HasShortRuns.suffix
  problem p n := ⟨p, n, rfl⟩
  atom hcs := (reads_atom hcs).yields

/-! ### Modest texts -/

section Modest

variable [Limits]

/-- A text that is read without a fault and whose values can be shown: it has no long runs of
digits, and so few characters that lead one level down that there is room for what they can lead
to. -/
structure Modest (cs : List Char) : Prop where
  runs : HasShortRuns cs
  toml : 3 * levels cs ≤ Limits.toml
  shown : 2 * levels cs + 1 ≤ Limits.shown

/-- A modest text is read, and its values can be shown, or it is malformed. -/
lemma read_of_modest {cs : List Char} (hcs : Modest cs) :
    (∃ t, read cs = .ok t ∧ Holds (Showable Limits.shown) t) ∨
      ∃ p place, read cs = .error (.malformed p place) := by
  rcases trait_showable.read hcs.runs (.inr hcs.toml) with ⟨t, ht, hshow⟩ | ⟨_, ⟨p, n, rfl⟩, hread⟩
  · exact .inl ⟨t, ht, fun e he => (hshow e he).mono hcs.shown⟩
  · rw [hread]
    cases n with
    | zero => exact .inr ⟨_, _, rfl⟩
    | succ n => exact .inr ⟨_, _, rfl⟩

end Modest

/-! ### Integers that are too long -/

lemma digitRun_ones (n : Nat) :
    digitRun Digit.ascii? (List.replicate n '1') = (List.replicate n 1, []) := by
  induction n with
  | zero => rfl
  | succ n ih =>
    cases n with
    | zero => rfl
    | succ n =>
      rw [List.replicate_succ, List.replicate_succ] at ih ⊢
      rw [digitRun.eq_2 _ _ _ (by simp), ih]
      rfl

lemma number?_ones {n : Nat} (h : Decimal.maxDigits < n) :
    number? (List.replicate n '1') = some (.error (.tooManyDigits n)) := by
  obtain ⟨k, rfl⟩ : ∃ k, n = k + 1 := ⟨n - 1, by omega⟩
  have hrun := digitRun_ones (k + 1)
  have hwhole : whole? (List.replicate (k + 1) '1') = some (List.replicate (k + 1) 1, []) := by
    rw [List.replicate_succ] at hrun ⊢
    rw [whole?.eq_2 _ (by simp), hrun]
    rfl
  change decimal? false (List.replicate (k + 1) '1') = _
  rw [decimal?, hwhole]
  simp [fraction, exponent, h]

lemma atom_ones {n : Nat} (h : Decimal.maxDigits < n) :
    atom (List.replicate n '1') = .error (.tooManyDigits n) := by
  have hnumber := number?_ones h
  -- Five digits in a row start neither a date nor a time.
  obtain ⟨k, rfl⟩ : ∃ k, n = k + 5 := ⟨n - 5, by rw [Decimal.maxDigits] at h; omega⟩
  rw [atom, hnumber]
  rfl

/-- The bound on the digits of an integer is one: a document with a longer one is not read. -/
lemma read_ones [Limits] {n : Nat} (h : Decimal.maxDigits < n) :
    read ('n' :: '=' :: List.replicate n '1') = .error (.tooManyDigits n) := by
  have hatom := atom_ones h
  obtain ⟨k, rfl⟩ : ∃ k, n = k + 1 := ⟨n - 1, by omega⟩
  rw [List.replicate_succ] at hatom ⊢
  have hvalue : ∀ fuel room, value (fuel + 1) room ('1' :: List.replicate k '1')
      = .error (.tooManyDigits (k + 1)) := by
    intro fuel room
    rw [value.eq_def]
    exact hatom
  have hentry : keyValue {} ('n' :: '=' :: '1' :: List.replicate k '1')
      = .error (.tooManyDigits (k + 1)) := by
    rw [keyValue]
    change (value _ _ ('1' :: List.replicate k '1')).bind _ = _
    rw [hvalue]
    rfl
  rw [read, statements]
  change Except.mapError _ ((keyValue {} ('n' :: '=' :: '1' :: List.replicate k '1')).bind _) = _
  rw [hentry]
  rfl

end ProverLink.Toml
