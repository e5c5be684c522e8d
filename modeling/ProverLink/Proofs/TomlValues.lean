import ProverLink.Proofs.TomlTexts

/-!
# Traits of the values in a document

A trait of values that passes, level by level, between a list or a table and its parts is settled
where a value without parts is read. `Trait` says what is needed there: the characters may have to
meet a condition that all their ends meet too, and some stops may be excused. A text with `levels`
for so many steps down has values of at most twice as many levels, because a header can lead through
a list to its last table.
-/

namespace ProverLink.Toml

/-! ### Tables -/

/-- A trait that values have on some level and then on all levels above it. It passes between a
value and its parts, which are one level below. -/
structure Hereditary (V : Nat → Toml → Prop) : Prop where
  mono : ∀ {m n v}, m ≤ n → V m v → V n v
  arr : ∀ n vs, V (n + 1) (.arr vs) ↔ ∀ v ∈ vs, V n v
  table : ∀ n t, V (n + 1) (.table t) ↔ ∀ e ∈ t, V n e.2

/-- All values of a table have a trait. -/
def Holds (V : Toml → Prop) (t : Table) : Prop := ∀ e ∈ t, V e.2

section Holds

variable {V : Toml → Prop} {t t' : Table} {key : String} {v : Toml}

lemma Holds.nil : Holds V [] := fun _ h => by cases h

lemma Holds.get? (h : Holds V t) (hv : t.get? key = some v) : V v := by
  rw [Table.get?] at hv
  obtain ⟨e, he, rfl⟩ := Option.map_eq_some_iff.1 hv
  exact h e (List.mem_of_find?_eq_some he)

lemma Holds.put (h : Holds V t) (key : String) (hv : V v) : Holds V (t.put key v) := by
  induction t with
  | nil => exact List.forall_mem_cons.2 ⟨hv, by simp⟩
  | cons e rest ih =>
    rw [Holds, List.forall_mem_cons] at h
    obtain ⟨k, w⟩ := e
    rw [Table.put]
    split
    · exact List.forall_mem_cons.2 ⟨hv, h.2⟩
    · exact List.forall_mem_cons.2 ⟨h.1, ih h.2⟩

lemma Holds.addEntry (h : Holds V t) (hv : V v) (ht : Toml.addEntry key v t = some t') :
    Holds V t' := by
  rw [Toml.addEntry] at ht
  split at ht
  · cases ht
  · cases ht
    exact h.put key hv

end Holds

section Hereditary

variable {V : Nat → Toml → Prop} (hV : Hereditary V)

include hV

/-- A list of one empty table has two levels. -/
lemma Holds.addTable {n : Nat} {t t' : Table} {key : String} (hn : 2 ≤ n) (h : Holds (V n) t)
    (ht : Toml.addTable key t = some t') : Holds (V n) t' := by
  obtain ⟨k, rfl⟩ : ∃ k, n = k + 2 := ⟨n - 2, by omega⟩
  have hempty : V (k + 1) (.table []) := (hV.table k []).2 Holds.nil
  rw [Toml.addTable] at ht
  split at ht
  · cases ht
    exact h.put key ((hV.arr _ _).2 (by simpa using hempty))
  · rename_i items hitems
    cases ht
    refine h.put key ((hV.arr _ _).2 fun v hv => ?_)
    rcases List.mem_append.1 hv with hv | hv
    · exact (hV.arr _ _).1 (h.get? hitems) v hv
    · rwa [List.mem_singleton.1 hv]
  · cases ht

/-- Changing the table that a key leads to. Each part of the key leads down two levels at most, and
the change needs `m` of those that are left. -/
lemma Holds.within {lists : Bool} {change : Table → Option Table} {m : Nat}
    (hchange : ∀ n t t', m ≤ n → Holds (V n) t → change t = some t' → Holds (V n) t') {key : Key}
    {n : Nat} {t t' : Table} (hn : 2 * key.length + m ≤ n) (h : Holds (V n) t)
    (ht : Toml.within lists change key t = some t') : Holds (V n) t' := by
  induction key generalizing n t t' with
  | nil => exact hchange n t t' (by simpa using hn) h ht
  | cons k rest ih =>
    rw [List.length_cons] at hn
    obtain ⟨n, rfl⟩ : ∃ k, n = k + 2 := ⟨n - 2, by omega⟩
    have hsub : 2 * rest.length + m ≤ n := by omega
    rw [Toml.within] at ht
    split at ht
    · obtain ⟨sub, hnew, rfl⟩ := Option.map_eq_some_iff.1 ht
      exact h.put k ((hV.table _ _).2 (ih (by omega) .nil hnew))
    · rename_i sub hk
      obtain ⟨sub', hnew, rfl⟩ := Option.map_eq_some_iff.1 ht
      exact h.put k ((hV.table _ _).2 (ih (by omega) ((hV.table _ _).1 (h.get? hk)) hnew))
    · rename_i items hk
      have hitems := (hV.arr _ _).1 (h.get? hk)
      split at ht
      · rename_i sub hlast
        obtain ⟨sub', hnew, rfl⟩ := Option.map_eq_some_iff.1 ht
        have hold := hitems _ (List.mem_of_getLast? hlast)
        refine h.put k ((hV.arr _ _).2 fun v hv => ?_)
        rcases List.mem_append.1 hv with hv | hv
        · exact hitems v (List.mem_of_mem_dropLast hv)
        · rw [List.mem_singleton.1 hv]
          exact (hV.table _ _).2 (ih hsub ((hV.table _ _).1 hold) hnew)
      · cases ht
    · cases ht

end Hereditary

/-! ### Readers -/

/-- What a reader gives meets a condition; where it stops instead, the stop is excused. -/
def Yields {α : Type} (excused : Stop → Prop) (post : α → Prop) : Except Stop α → Prop
  | .ok a => post a
  | .error s => excused s

section Yields

variable {α β : Type} {excused : Stop → Prop} {P : α → Prop} {Q : β → Prop}

lemma Yields.bind {x : Except Stop α} {next : α → Except Stop β} (h : Yields excused P x)
    (hnext : ∀ a, P a → Yields excused Q (next a)) : Yields excused Q (x >>= next) := by
  match x, h with
  | .ok a, h => exact hnext a h
  | .error _, h => exact h

lemma Yields.mono {P' : α → Prop} {x : Except Stop α} (h : Yields excused P x)
    (hP : ∀ a, P a → P' a) : Yields excused P' x := by
  match x, h with
  | .ok a, h => exact hP a h
  | .error _, h => exact h

end Yields

/-- Whether there is room to read what stands in a text, or else running out of it is excused. -/
def Roomy (excused : Stop → Prop) (room : Nat) (cs : List Char) : Prop :=
  excused .tooDeep ∨ 3 * levels cs ≤ room

section Roomy

variable {excused : Stop → Prop} {room : Nat} {cs r : List Char}

lemma Roomy.suffix (h : Roomy excused room cs) (hr : r <:+ cs) : Roomy excused room r := by
  have hlevels := levels_le hr
  exact h.imp_right fun _ => by omega

lemma Roomy.inside {c : Char} (h : Roomy excused room (c :: cs)) (hc : isStep c = true) {cost : Nat}
    (hcost : cost ≤ 3) :
    Yields excused (fun left => Roomy excused left cs) (inside cost room) := by
  rw [Roomy, levels_cons hc] at h
  rw [Toml.inside]
  split
  · exact h.resolve_right (by omega)
  · exact h.imp_right fun _ => by omega

end Roomy

/-- A trait that all values have that are read from characters under a condition. -/
structure Trait (V : Nat → Toml → Prop) (C : List Char → Prop) (excused : Stop → Prop) : Prop
    extends Hereditary V where
  str : ∀ s, V 1 (.str s)
  suffix : ∀ {cs r}, C cs → r <:+ cs → C r
  problem : ∀ p n, excused (.problem p n)
  atom : ∀ {cs}, C cs → Yields excused (fun p => V 1 p.1) (atom cs)

section Trait

variable {V : Nat → Toml → Prop} {C : List Char → Prop} {excused : Stop → Prop}
  (T : Trait V C excused)

include T

lemma Trait.stop {α : Type} {P : α → Prop} (p : Problem) (cs : List Char) :
    Yields excused P (Toml.stop p cs) := T.problem p cs.length

/-- A reader that stops at problems only may go first. -/
lemma Trait.after {α β : Type} {P : α → Prop} {Q : β → Prop} {x : Except Stop α}
    {next : α → Except Stop β} (h : Meets P x) (hnext : ∀ a, P a → Yields excused Q (next a)) :
    Yields excused Q (x >>= next) := by
  match x, h with
  | .ok a, h => exact hnext a h
  | .error (.problem p n), _ => exact T.problem p n

lemma Trait.inlineEntry {n m : Nat} {t : Table} (h : Holds (V n) t) (marks : Marks) (key : Key)
    (hn : 2 * (key.length - 1) + m ≤ n) {v : Toml} (hv : V m v) (cs : List Char) :
    Yields excused (Holds (V n)) (inlineEntry t marks key v cs) := by
  rw [Toml.inlineEntry]
  split
  · exact T.stop ..
  split
  · exact T.stop ..
  split
  · exact T.stop ..
  · rename_i ht
    rw [← List.length_dropLast] at hn
    exact h.within T.toHereditary (fun _ _ _ hm h' ht' => h'.addEntry (T.mono hm hv) ht') hn ht

end Trait

/-! ### Values -/

section Values

variable (V : Nat → Toml → Prop) (C : List Char → Prop) (excused : Stop → Prop)

/-- What the reader of values does with some fuel. -/
def ValueReads (fuel : Nat) : Prop :=
  ∀ room n cs, C cs → Roomy excused room cs → 2 * levels cs + 1 ≤ n →
    Yields excused (fun p => V n p.1 ∧ p.2 <:+ cs) (value fuel room cs)

/-- What the reader of items does with some fuel. -/
def ItemsRead (fuel : Nat) : Prop :=
  ∀ room n cs, C cs → Roomy excused room cs → 2 * levels cs + 1 ≤ n →
    Yields excused (fun p => (∀ v ∈ p.1, V n v) ∧ p.2 <:+ cs) (items fuel room cs)

/-- What the reader of entries does with some fuel. -/
def EntriesRead (fuel : Nat) : Prop :=
  ∀ room n t marks cs, Holds (V n) t → C cs → Roomy excused room cs → 2 * levels cs + 1 ≤ n →
    Yields excused (fun p => Holds (V n) p.1 ∧ p.2 <:+ cs) (entries fuel room t marks cs)

end Values

section Trait

variable {V : Nat → Toml → Prop} {C : List Char → Prop} {excused : Stop → Prop}
  (T : Trait V C excused)

include T

lemma Trait.value_atom {n : Nat} (hn : 1 ≤ n) {cs : List Char} (hcs : C cs) :
    Yields excused (fun p => V n p.1 ∧ p.2 <:+ cs) (Toml.atom cs) := by
  have hatom := T.atom hcs
  rcases h : Toml.atom cs with s | ⟨v, r⟩
  · rwa [h] at hatom
  · rw [h] at hatom
    exact ⟨T.mono hn hatom, suffix_of_atom h⟩

lemma Trait.valueReads_succ {fuel : Nat} (hitems : ItemsRead V C excused fuel)
    (hentries : EntriesRead V C excused fuel) : ValueReads V C excused (fuel + 1) := by
  intro room n cs hcs hroom hn
  have hpos : 1 ≤ n := by omega
  rw [value.eq_def]
  dsimp only
  split
  · exact T.after (shrinks_doubleQuoted _) fun _ hp =>
      ⟨T.mono hpos (T.str _), hp.trans (List.suffix_cons ..)⟩
  · exact T.after (shrinks_singleQuoted _) fun _ hp =>
      ⟨T.mono hpos (T.str _), hp.trans (List.suffix_cons ..)⟩
  · rename_i rest
    rw [levels_cons rfl] at hn
    obtain ⟨n, rfl⟩ : ∃ k, n = k + 1 := ⟨n - 1, by omega⟩
    refine (hroom.inside rfl (by decide)).bind fun left hleft => ?_
    refine T.after (meets_skipAll rest) fun r hr => ?_
    have hsuffix : r <:+ '[' :: rest := hr.trans (List.suffix_cons ..)
    have hlevels := levels_le hr
    split
    · exact ⟨(T.arr n []).2 (by simp), (List.suffix_cons ..).trans hsuffix⟩
    · exact (hitems left n r (T.suffix hcs hsuffix) (hleft.suffix hr) (by omega)).bind
        fun _ hp => ⟨(T.arr n _).2 hp.1, hp.2.trans hsuffix⟩
  · rename_i rest
    rw [levels_cons rfl] at hn
    obtain ⟨n, rfl⟩ : ∃ k, n = k + 1 := ⟨n - 1, by omega⟩
    refine (hroom.inside rfl (by decide)).bind fun left hleft => ?_
    have hsuffix : skip rest <:+ '\x7b' :: rest := (skip_suffix rest).trans (List.suffix_cons ..)
    have hlevels := levels_le (skip_suffix rest)
    split
    · rename_i r hr
      rw [hr] at hsuffix
      exact ⟨(T.table n []).2 Holds.nil, (List.suffix_cons ..).trans hsuffix⟩
    · exact (hentries left n [] [] _ .nil (T.suffix hcs hsuffix) (hleft.suffix (skip_suffix rest))
        (by omega)).bind fun _ hp => ⟨(T.table n _).2 hp.1, hp.2.trans hsuffix⟩
  · exact T.value_atom hpos hcs

lemma Trait.itemsRead_succ {fuel : Nat} (hvalue : ValueReads V C excused fuel)
    (hitems : ItemsRead V C excused fuel) : ItemsRead V C excused (fuel + 1) := by
  intro room n cs hcs hroom hn
  rw [items]
  refine (hvalue room n cs hcs hroom hn).bind fun ⟨v, r₁⟩ hv => ?_
  refine T.after (meets_skipAll r₁) fun r₂ hr₂ => ?_
  have hr₂ : r₂ <:+ cs := hr₂.trans hv.2
  split
  · exact ⟨by simpa using hv.1, (List.suffix_cons ..).trans hr₂⟩
  · refine T.after (meets_skipAll _) fun r₃ hr₃ => ?_
    have hr₃ : r₃ <:+ cs := (hr₃.trans (List.suffix_cons ..)).trans hr₂
    have hlevels := levels_le hr₃
    split
    · exact ⟨by simpa using hv.1, (List.suffix_cons ..).trans hr₃⟩
    · exact (hitems room n r₃ (T.suffix hcs hr₃) (hroom.suffix hr₃) (by omega)).bind
        fun _ hp => ⟨List.forall_mem_cons.2 ⟨hv.1, hp.1⟩, hp.2.trans hr₃⟩
  · exact T.stop ..

lemma Trait.entriesRead_succ {fuel : Nat} (hvalue : ValueReads V C excused fuel)
    (hentries : EntriesRead V C excused fuel) : EntriesRead V C excused (fuel + 1) := by
  intro room n t marks cs ht hcs hroom hn
  rw [entries]
  refine T.after (meets_dottedKey cs) fun ⟨key, r₁⟩ hkey => ?_
  obtain ⟨hr₁, hpos, hlength⟩ := hkey
  dsimp only at hr₁ hpos hlength ⊢
  split
  · rename_i r₂
    have hskip : skip r₂ <:+ '=' :: r₂ := (skip_suffix r₂).trans (List.suffix_cons ..)
    have hr₂ : skip r₂ <:+ cs := hskip.trans hr₁
    have hlevels := levels_le hskip
    refine (hvalue room _ _ (T.suffix hcs hr₂) (hroom.suffix hr₂) le_rfl).bind
      fun ⟨v, r₃⟩ hv => ?_
    refine (T.inlineEntry ht marks key (by omega) hv.1 r₃).bind fun t' ht' => ?_
    have hr₃ : skip r₃ <:+ cs := (skip_suffix r₃).trans (hv.2.trans hr₂)
    split
    · rename_i hr
      rw [hr] at hr₃
      exact ⟨ht', (List.suffix_cons ..).trans hr₃⟩
    · rename_i r hr
      rw [hr] at hr₃
      have hr : skip r <:+ cs := (skip_suffix r).trans ((List.suffix_cons ..).trans hr₃)
      have hlevels := levels_le hr
      exact (hentries room n t' _ _ ht' (T.suffix hcs hr) (hroom.suffix hr) (by omega)).mono
        fun _ hp => ⟨hp.1, hp.2.trans hr⟩
    · exact T.stop ..
  · exact T.stop ..

/-- The three readers call each other, each with less fuel. -/
lemma Trait.all_read (fuel : Nat) :
    ValueReads V C excused fuel ∧ ItemsRead V C excused fuel ∧ EntriesRead V C excused fuel := by
  induction fuel with
  | zero =>
    exact ⟨fun _ _ _ _ _ _ => T.stop .., fun _ _ _ _ _ _ => T.stop ..,
      fun _ _ _ _ _ _ _ _ _ => T.stop ..⟩
  | succ fuel ih =>
    obtain ⟨hvalue, hitems, hentries⟩ := ih
    exact ⟨T.valueReads_succ hitems hentries, T.itemsRead_succ hvalue hitems,
      T.entriesRead_succ hvalue hentries⟩

end Trait

/-! ### Documents -/

/-- What the statements in front of some characters have built: values of so many levels, and a
header that leaves enough of them to what stands behind it. -/
structure Draft.Fits (V : Nat → Toml → Prop) (w : Nat) (d : Draft) (cs : List Char) : Prop where
  table : Holds (V (2 * w + 1)) d.table
  header : d.header.length + levels cs ≤ w

lemma Draft.Fits.suffix {V : Nat → Toml → Prop} {w : Nat} {d : Draft} {cs r : List Char}
    (h : d.Fits V w cs) (hr : r <:+ cs) : d.Fits V w r := by
  have hlevels := levels_le hr
  have hheader := h.header
  exact ⟨h.table, by omega⟩

section Trait

variable {V : Nat → Toml → Prop} {C : List Char → Prop} {excused : Stop → Prop}
  (T : Trait V C excused) {w : Nat} {d : Draft}

include T

lemma Trait.addEntry (hd : Holds (V (2 * w + 1)) d.table) (key : Key) {m : Nat}
    (hm : 2 * (d.header.length + (key.length - 1)) + m ≤ 2 * w + 1) {v : Toml} (hv : V m v)
    (rest : List Char) :
    Yields excused (fun d' => Holds (V (2 * w + 1)) d'.table ∧ d'.header = d.header)
      (d.addEntry key v rest) := by
  rw [Draft.addEntry]
  split
  · exact T.stop ..
  split
  · exact T.stop ..
  split
  · exact T.stop ..
  · rename_i ht
    rw [← List.length_dropLast, ← List.length_append] at hm
    exact ⟨hd.within T.toHereditary (fun _ _ _ hn h ht' => h.addEntry (T.mono hn hv) ht') hm ht,
      rfl⟩

lemma Trait.openTable (hd : Holds (V (2 * w + 1)) d.table) (key : Key) (hkey : key.length ≤ w)
    (rest : List Char) :
    Yields excused (fun d' => Holds (V (2 * w + 1)) d'.table ∧ d'.header = key)
      (d.openTable key rest) := by
  rw [Draft.openTable]
  split
  · exact T.stop ..
  split
  · exact T.stop ..
  · rename_i ht
    have hn : 2 * key.length + 0 ≤ 2 * w + 1 := by omega
    exact ⟨hd.within T.toHereditary (fun _ _ _ _ h ht' => Option.some.inj ht' ▸ h) hn ht, rfl⟩

lemma Trait.openArrayTable (hd : Holds (V (2 * w + 1)) d.table) (key : Key)
    (hkey : key.length ≤ w) (hw : 0 < w) (rest : List Char) :
    Yields excused (fun d' => Holds (V (2 * w + 1)) d'.table ∧ d'.header = key)
      (d.openArrayTable key rest) := by
  rw [Draft.openArrayTable]
  split
  · exact T.stop ..
  split
  · exact T.stop ..
  · rename_i ht
    have hn : 2 * key.dropLast.length + 2 ≤ 2 * w + 1 := by
      rw [List.length_dropLast]
      omega
    exact ⟨hd.within T.toHereditary (fun _ _ _ hm h ht' => h.addTable T.toHereditary hm ht') hn ht,
      rfl⟩

variable {cs : List Char}

/-- The bracket in front of a header pays for the first part of its key. -/
lemma Trait.header (hd : d.Fits V w ('[' :: cs)) :
    Yields excused (fun p => p.1.Fits V w p.2 ∧ p.2 <:+ cs) (header d cs) := by
  have hw := hd.header
  rw [levels_cons rfl] at hw
  rw [Toml.header.eq_def]
  dsimp only
  split
  · rename_i rest
    refine T.after (meets_dottedKey (skip rest)) fun ⟨key, r⟩ hkey => ?_
    obtain ⟨hr, -, hlength⟩ := hkey
    have hsuffix : r <:+ '[' :: rest :=
      hr.trans ((skip_suffix rest).trans (List.suffix_cons ..))
    have hlevels := levels_le ((skip_suffix rest).trans (List.suffix_cons '[' rest))
    dsimp only at hlength
    refine (T.openArrayTable (d := d.settle) hd.table key (by omega) (by omega) r).bind
      fun d' hd' => ?_
    split
    · rename_i r' hr'
      rw [show r = _ from hr'] at hsuffix hlength
      have hrest : r' <:+ ']' :: ']' :: r' := ⟨[_, _], rfl⟩
      have hless := levels_le hrest
      exact ⟨⟨hd'.1, by dsimp only; rw [hd'.2]; omega⟩, hrest.trans hsuffix⟩
    · exact T.stop ..
  · refine T.after (meets_dottedKey (skip cs)) fun ⟨key, r⟩ hkey => ?_
    obtain ⟨hr, -, hlength⟩ := hkey
    have hsuffix : r <:+ cs := hr.trans (skip_suffix cs)
    have hlevels := levels_le (skip_suffix cs)
    dsimp only at hlength
    refine (T.openTable (d := d.settle) hd.table key (by omega) r).bind fun d' hd' => ?_
    split
    · rename_i r' hr'
      rw [show r = _ from hr'] at hsuffix hlength
      have hless := levels_le (List.suffix_cons ']' r')
      exact ⟨⟨hd'.1, by dsimp only; rw [hd'.2]; omega⟩, (List.suffix_cons ..).trans hsuffix⟩
    · exact T.stop ..

variable [Limits]

lemma Trait.keyValue (hd : d.Fits V w cs) (hcs : C cs) (hroom : Roomy excused Limits.toml cs) :
    Yields excused (fun p => p.1.Fits V w p.2 ∧ p.2 <:+ cs) (keyValue d cs) := by
  have hw := hd.header
  rw [Toml.keyValue]
  refine T.after (meets_dottedKey cs) fun ⟨key, r₁⟩ hkey => ?_
  obtain ⟨hr₁, hpos, hlength⟩ := hkey
  dsimp only at hr₁ hpos hlength ⊢
  split
  · rename_i r₂
    have hskip : skip r₂ <:+ '=' :: r₂ := (skip_suffix r₂).trans (List.suffix_cons ..)
    have hr₂ : skip r₂ <:+ cs := hskip.trans hr₁
    have hlevels := levels_le hskip
    refine ((T.all_read _).1 Limits.toml _ _ (T.suffix hcs hr₂) (hroom.suffix hr₂) le_rfl).bind
      fun ⟨v, r₃⟩ hv => ?_
    have hr₃ : r₃ <:+ cs := hv.2.trans hr₂
    have hless := levels_le hr₃
    refine (T.addEntry hd.table key (by omega) hv.1 r₃).bind fun d' hd' => ?_
    exact ⟨⟨hd'.1, by dsimp only; rw [hd'.2]; omega⟩, hr₃⟩
  · exact T.stop ..

lemma Trait.statement (hd : d.Fits V w cs) (hcs : C cs) (hroom : Roomy excused Limits.toml cs) :
    Yields excused (fun p => p.1.Fits V w p.2 ∧ p.2 <:+ cs) (statement d cs) := by
  rw [Toml.statement.eq_def]
  split
  · exact (T.header hd).mono fun _ hp => ⟨hp.1, hp.2.trans (List.suffix_cons ..)⟩
  · split
    · exact T.keyValue hd hcs hroom
    split
    · exact ⟨hd, List.suffix_rfl⟩
    · exact T.stop ..
  · exact ⟨hd, List.suffix_rfl⟩

lemma Trait.statements (fuel : Nat) (hd : d.Fits V w cs) (hcs : C cs)
    (hroom : Roomy excused Limits.toml cs) :
    Yields excused (Holds (V (2 * w + 1))) (statements fuel d cs) := by
  induction fuel generalizing d cs with
  | zero => exact hd.table
  | succ fuel ih =>
    have hskip := skip_suffix cs
    rw [Toml.statements]
    split
    · exact hd.table
    · rename_i rest hr
      have hrest : rest <:+ cs := (List.suffix_cons ..).trans (hr ▸ hskip)
      exact ih (hd.suffix hrest) (T.suffix hcs hrest) (hroom.suffix hrest)
    · refine (T.statement (hd.suffix hskip) (T.suffix hcs hskip) (hroom.suffix hskip)).bind
        fun ⟨d', r⟩ hp => ?_
      refine T.after (meets_comment _) fun r' hr' => ?_
      have hr' : r' <:+ r := hr'.trans (skip_suffix r)
      split
      · exact hp.1.table
      · rename_i rest _
        have hbehind : rest <:+ r := (List.suffix_cons ..).trans hr'
        have hrest : rest <:+ cs := hbehind.trans (hp.2.trans hskip)
        exact ih (hp.1.suffix hbehind) (T.suffix hcs hrest) (hroom.suffix hrest)
      · exact T.stop ..

/-- The values of a document have the trait, or reading stopped for an excused reason. -/
lemma Trait.read (hcs : C cs) (hroom : Roomy excused Limits.toml cs) :
    (∃ t, read cs = .ok t ∧ Holds (V (2 * levels cs + 1)) t) ∨
      ∃ s, excused s ∧ read cs = .error (s.locate cs) := by
  have hstart : Draft.Fits V (levels cs) {} cs := ⟨.nil, by simp⟩
  have h := T.statements (cs.length + 1) hstart hcs hroom
  rw [Toml.read]
  rcases hr : Toml.statements (cs.length + 1) {} cs with s | t
  · rw [hr] at h
    exact .inr ⟨s, h, rfl⟩
  · rw [hr] at h
    exact .inl ⟨t, rfl, h⟩

end Trait

end ProverLink.Toml
