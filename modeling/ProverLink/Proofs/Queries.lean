import ProverLink.Proofs.Numbers
import ProverLink.Query

/-!
# Lines of queries

The two queries that are sent always have a line, whatever the text and whatever the number: their
values hold characters only. The line of the one is never a line of the other, and a line has one
number only.
-/

namespace ProverLink

@[simp] lemma Text.hasSurrogate_ofChars (cs : List Char) :
    (Text.ofChars cs).hasSurrogate = false := by
  rw [Text.hasSurrogate, Text.ofChars, List.any_map, List.any_eq_false]
  intro c _
  simp [CodePoint.isSurrogate_ofChar]

namespace Query

/-- A query whose values are texts without surrogates, numbers or nulls can be written. -/
lemma toLine_of_writable {q : Query}
    (h : ∀ v ∈ .str q.name :: q.args.map (·.2) ++ [q.idJson],
      Json.unwritable? Json.maxDepth v = none) :
    q.toLine = .ok (q.toJson.compact.filterMap CodePoint.toChar? ++ ['\n']) := by
  have hnone : q.unwritable? = none := List.findSome?_eq_none_iff.2 h
  rw [toLine, hnone]

@[simp] lemma unwritableText?_ofChars (cs : List Char) :
    Json.unwritableText? (Text.ofChars cs) = none := by
  simp [Json.unwritableText?]

@[simp] lemma unwritableText?_ofString (s : String) :
    Json.unwritableText? (Text.ofString s) = none :=
  unwritableText?_ofChars _

lemma toLine_vfsAdd (text : String) (n : Nat) :
    ((vfsAdd text).stamp n).toLine
      = .ok (((vfsAdd text).stamp n).toJson.compact.filterMap CodePoint.toChar? ++ ['\n']) := by
  apply toLine_of_writable
  simp [vfsAdd, stamp, idJson, Json.maxDepth, Json.unwritable?]

lemma toLine_fullBuffer (text : String) (n : Nat) :
    ((fullBuffer text).stamp n).toLine
      = .ok (((fullBuffer text).stamp n).toJson.compact.filterMap CodePoint.toChar? ++ ['\n']) := by
  apply toLine_of_writable
  simp [fullBuffer, stamp, idJson, Json.maxDepth, Json.unwritable?]

/-! ### Lines that ask for a check -/

/-- Whether a line asks for a check under a number. -/
def IsCheck (n : Nat) (line : List Char) : Prop :=
  ∃ text, ((fullBuffer text).stamp n).toLine = .ok line

/-- Behind the first ten characters stands the name of the query. -/
lemma IsCheck.getElem? {n : Nat} {cs : List Char} (h : IsCheck n cs) : cs[10]? = some 'f' := by
  obtain ⟨text, hline⟩ := h
  rw [toLine_fullBuffer, Except.ok.injEq] at hline
  rw [← hline]
  rfl

lemma not_isCheck_vfsAdd {text : String} {m : Nat} {line : List Char}
    (hline : ((vfsAdd text).stamp m).toLine = .ok line) (n : Nat) : ¬IsCheck n line := by
  intro h
  have hname := h.getElem?
  rw [toLine_vfsAdd, Except.ok.injEq] at hline
  rw [← hline] at hname
  have hv : (((vfsAdd text).stamp m).toJson.compact.filterMap CodePoint.toChar? ++ ['\n'])[10]?
      = some 'v' := rfl
  rw [hv] at hname
  simp at hname

lemma filterMap_toChar?_ofChars (cs : List Char) :
    (Text.ofChars cs).filterMap CodePoint.toChar? = cs := by
  rw [Text.ofChars, List.filterMap_map, show CodePoint.toChar? ∘ CodePoint.ofChar = some from
    funext CodePoint.toChar?_ofChar, List.filterMap_some]

lemma escape_of_range {p : CodePoint} (hlow : 48 ≤ p.val) (hhigh : p.val ≤ 57) :
    Json.escape p = [p] := by
  have hne : ∀ k, k < 48 ∨ 57 < k → (p.val == k) = false := by
    intro k hk
    rw [beq_eq_false_iff_ne]
    omega
  have hcontrol : ¬p.val < 0x20 := by omega
  simp only [Json.escape]
  rw [hne _ (by decide), hne _ (by decide), hne _ (by decide), hne _ (by decide), hne _ (by decide),
    hne _ (by decide), hne _ (by decide)]
  simp [hcontrol]

lemma flatMap_escape_of_range {t : Text} (h : ∀ p ∈ t, 48 ≤ p.val ∧ p.val ≤ 57) :
    t.flatMap Json.escape = t := by
  induction t with
  | nil => rfl
  | cons p rest ih =>
    have hp := h p List.mem_cons_self
    rw [List.flatMap_cons, escape_of_range hp.1 hp.2,
      ih fun q hq => h q (List.mem_cons_of_mem _ hq)]
    rfl

lemma compactText_natChars (n : Nat) :
    Json.compactText (Text.ofChars (Decimal.natChars n))
      = .ofChar '"' :: (Text.ofChars (Decimal.natChars n) ++ [.ofChar '"']) := by
  rw [Json.compactText, flatMap_escape_of_range fun _ => Decimal.range_of_mem_ofChars]
  rfl

/-- The number stands between the last two quotes. -/
lemma exists_line_eq_append_natChars {q : Query} {n : Nat} {line : List Char}
    (h : (q.stamp n).toLine = .ok line) :
    ∃ front, line = front ++ '"' :: (Decimal.natChars n ++ ['"', '\x7d', '\n']) := by
  have hcompact : ∃ front, (q.stamp n).toJson.compact
      = front ++ (Json.compactText (Text.ofChars (Decimal.natChars n)) ++ [.ofChar '\x7d']) := by
    refine ⟨.ofChar '\x7b' :: (Json.compactText (Text.ofString "query") ++ .ofChar ':' ::
      Json.compactText q.name ++ .ofChar ',' ::
      (Json.compactText (Text.ofString "args") ++ .ofChar ':' ::
      (Json.obj (q.args.map fun a => (a.1.mended, a.2))).compact ++ .ofChar ',' ::
      (Json.compactText (Text.ofString "query-id") ++ [.ofChar ':']))), ?_⟩
    simp [toJson, stamp, idJson, Json.compact, Json.compactFields]
  obtain ⟨front, hfront⟩ := hcompact
  refine ⟨front.filterMap CodePoint.toChar?, ?_⟩
  rw [toLine] at h
  split at h
  · cases h
  · rw [Except.ok.injEq, hfront, compactText_natChars] at h
    rw [← h]
    simp [filterMap_toChar?_ofChars, CodePoint.toChar?_ofChar]

lemma IsCheck.unique {m n : Nat} {line : List Char} (hm : IsCheck m line) (hn : IsCheck n line) :
    m = n := by
  obtain ⟨_, hm⟩ := hm
  obtain ⟨_, hn⟩ := hn
  obtain ⟨front, hfront⟩ := exists_line_eq_append_natChars hm
  obtain ⟨front', hfront'⟩ := exists_line_eq_append_natChars hn
  -- read backwards up to a quote, the two lines show the same digits
  have hdigits : ∀ (k : Nat) (xs : List Char),
      line = xs ++ '"' :: (Decimal.natChars k ++ ['"', '\x7d', '\n']) →
      (line.reverse.drop 3).takeWhile (· ≠ '"') = (Decimal.natChars k).reverse := by
    intro k xs hline
    have hquote : ∀ c ∈ (Decimal.natChars k).reverse, decide (c ≠ '"') = true := by
      intro c hc
      have hrange := Decimal.range_of_mem_natChars (List.mem_reverse.1 hc)
      rw [decide_eq_true_eq]
      rintro rfl
      exact absurd hrange.1 (by decide)
    rw [hline]
    simp only [List.reverse_append, List.reverse_cons, List.append_assoc, List.reverse_nil,
      List.nil_append, List.cons_append, List.drop_succ_cons, List.drop_zero]
    rw [List.takeWhile_append_of_pos hquote]
    simp
  have hsame := (hdigits m front hfront).symm.trans (hdigits n front' hfront')
  exact Decimal.natChars_injective (List.reverse_inj.1 hsame)

end Query

end ProverLink
