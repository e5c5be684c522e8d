import ProverLink.Proofs.Trails
import ProverLink.Proofs.Upkeep

/-!
# Percent encoding

An editor may write each character of a path as it stands or as the escapes of its bytes. The path
that a `file` URI leads to does not depend on this choice, and so neither do the directory and the
name of the file that a checker is started with.
-/

namespace ProverLink

open Utf8

namespace Utf8.Decoder

/-! ### The bytes of a character -/

/-- The rest of a character ends it. -/
lemma feed_of_complete {s : Start} {tail : List UInt8} {c : Char}
    (h : complete s tail = (some c, [])) : (Decoder.within s).feed tail = ([c], .clean) := by
  induction tail generalizing s with
  | nil => simp [complete] at h
  | cons b rest ih =>
    rw [complete] at h
    split at h
    · rename_i hb
      split at h
      · rename_i hs
        obtain ⟨hc, rfl⟩ := Prod.mk.inj h
        simp only [feed, step, hb, hs, if_true, List.append_nil, Option.some.inj hc]
      · rename_i hs
        simp only [feed, step, hb, hs, if_true, if_false, ih h, List.nil_append]
    · simp at h

/-- A decoder that holds nothing back gives a character for its bytes, and holds nothing back
behind them. -/
lemma feed_utf8EncodeChar (c : Char) :
    Decoder.clean.feed (String.utf8EncodeChar c) = ([c], .clean) := by
  obtain ⟨b, tail, hbytes, ⟨hlead, rfl⟩ | ⟨s, hlead, hcomplete⟩⟩ := exists_lead_utf8EncodeChar c
  · rw [hbytes]
    simp only [feed, step, first, hlead, List.append_nil]
  · have htail := feed_of_complete (List.append_nil tail ▸ hcomplete [])
    rw [hbytes]
    simp only [feed, step, first, hlead, htail, List.nil_append]

end Utf8.Decoder

namespace Uri

/-! ### Encodings -/

/-- A digit of a value below sixteen, in either case. -/
def IsHexOf (n : Nat) (c : Char) : Prop :=
  "0123456789abcdef".toList[n]? = some c ∨ "0123456789ABCDEF".toList[n]? = some c

/-- The escape of a byte: a percent sign and two digits. -/
inductive IsEscape (b : UInt8) : List Char → Prop where
  | intro {high low : Char} : IsHexOf (b.toNat / 16) high → IsHexOf (b.toNat % 16) low →
    IsEscape b ['%', high, low]

/-- The characters that do not stand for themselves: the percent sign, those that end a path, and
those that are dropped from a URI. -/
def reserved : List Char := ['%', '?', '#', '\t', '\r', '\n']

/-- A character as it stands, or as the escapes of its bytes. -/
inductive Written (c : Char) : List Char → Prop where
  | plain : c ∉ reserved → Written c [c]
  | escaped {es : List (List Char)} : List.Forall₂ IsEscape (String.utf8EncodeChar c) es →
    Written c es.flatten

/-- An encoding of characters: each of them is written in one of its ways. -/
inductive Encodes : List Char → List Char → Prop where
  | nil : Encodes [] []
  | cons {c : Char} {p w e : List Char} : Written c w → Encodes p e → Encodes (c :: p) (w ++ e)

/-- The `file` URI of an absolute path whose first slash is followed by an encoding. -/
def ofEncoding (e : List Char) : String :=
  String.ofList (['f', 'i', 'l', 'e', ':', '/', '/'] ++ '/' :: e)

/-- An absolute path in normal form: the names between its slashes, without those that are empty or
a point, and with one slash in front, or with two if there are exactly two. Here `p` is what follows
the first slash. -/
def normalForm (p : List Char) : Path where
  anchor := if p[0]? = some '/' ∧ p[1]? ≠ some '/' then .doubleSlash else .slash
  parts := ((('/' :: p).splitOn '/').filter fun n => n ≠ [] ∧ n ≠ ['.']).map String.ofList

/-! ### Escapes -/

section Digits

variable {n : Nat} {c : Char}

lemma exists_isHexOf (h : n < 16) : ∃ c, IsHexOf n c := by
  have hlength : n < "0123456789abcdef".toList.length := h
  exact ⟨_, .inl (List.getElem?_eq_getElem hlength)⟩

lemma hex?_of_getElem? {digits : List Char}
    (h : ((List.range digits.length).all fun n => digits[n]?.bind Digit.hex? == some n) = true)
    (hc : digits[n]? = some c) : Digit.hex? c = some n := by
  obtain ⟨hn, -⟩ := List.getElem?_eq_some_iff.1 hc
  have hvalue := List.all_eq_true.1 h n (List.mem_range.2 hn)
  simpa [hc] using hvalue

lemma IsHexOf.hex?_eq (h : IsHexOf n c) : Digit.hex? c = some n :=
  h.elim (hex?_of_getElem? (by decide +kernel)) (hex?_of_getElem? (by decide +kernel))

lemma IsHexOf.notMem_reserved (h : IsHexOf n c) : c ∉ reserved := by
  have hreserved : (reserved.all fun c => (Digit.hex? c).isNone) = true := by decide
  intro hc
  simpa [h.hex?_eq] using List.all_eq_true.1 hreserved c hc

end Digits

/-- The escape of a byte gives that byte to the decoder. -/
lemma unquote_escape {b : UInt8} {w : List Char} (h : IsEscape b w) (d : Decoder)
    (rest : List Char) : unquote d (w ++ rest) = (d.step b).1 ++ unquote (d.step b).2 rest := by
  obtain ⟨hhigh, hlow⟩ := h
  have hbyte : UInt8.ofNat (16 * (b.toNat / 16) + b.toNat % 16) = b := by
    rw [Nat.div_add_mod, UInt8.ofNat_toNat]
  simp only [List.cons_append, List.nil_append]
  rw [unquote, hhigh.hex?_eq, hlow.hex?_eq]
  simp only [hbyte]

/-- Escapes feed the decoder with their bytes; what follows them does not matter. -/
lemma unquote_escapes {bytes : List UInt8} {es : List (List Char)}
    (h : List.Forall₂ IsEscape bytes es) (d : Decoder) (rest : List Char) :
    unquote d (es.flatten ++ rest) = (d.feed bytes).1 ++ unquote (d.feed bytes).2 rest := by
  induction h generalizing d with
  | nil => rfl
  | cons hescape _ ih =>
    rw [List.flatten_cons, List.append_assoc, unquote_escape hescape, ih, Decoder.feed]
    simp only [List.append_assoc]

/-! ### Characters -/

lemma unquote_plain {c : Char} (hc : c ≠ '%') (rest : List Char) :
    unquote .clean (c :: rest) = c :: unquote .clean rest := by
  rw [unquote]
  · split
    · -- an ASCII character goes through the decoder as a byte of its own
      rename_i hascii
      have hlead : lead (UInt8.ofNat c.toNat) = .char c := by
        rw [lead, toNat_ofNat_of_lt (by omega), if_pos hascii, Char.ofNat_toNat]
      simp only [Decoder.step, Decoder.first, hlead]
      rfl
    · rfl
  · rintro a b rest' rfl
    exact absurd rfl hc

lemma Written.unquote_eq {c : Char} {w : List Char} (h : Written c w) (rest : List Char) :
    unquote .clean (w ++ rest) = c :: unquote .clean rest := by
  cases h with
  | plain hc =>
    refine unquote_plain ?_ rest
    rintro rfl
    exact hc (by decide)
  | escaped hescapes =>
    rw [unquote_escapes hescapes, Decoder.feed_utf8EncodeChar]
    rfl

lemma Encodes.unquote_eq {p e : List Char} (h : Encodes p e) : unquote .clean e = p := by
  induction h with
  | nil => rfl
  | cons hw _ ih => rw [hw.unquote_eq, ih]

/-! ### What an encoding is made of -/

/-- Of the reserved characters, an encoding has none but the percent sign. -/
def IsSafe (cs : List Char) : Prop := ∀ c ∈ cs, c = '%' ∨ c ∉ reserved

lemma IsSafe.append {xs ys : List Char} (hxs : IsSafe xs) (hys : IsSafe ys) : IsSafe (xs ++ ys) :=
  List.forall_mem_append.2 ⟨hxs, hys⟩

lemma IsEscape.isSafe {b : UInt8} {w : List Char} (h : IsEscape b w) : IsSafe w := by
  obtain ⟨hhigh, hlow⟩ := h
  intro c hc
  rcases List.mem_cons.1 hc with rfl | hc
  · exact .inl rfl
  rcases List.mem_cons.1 hc with rfl | hc
  · exact .inr hhigh.notMem_reserved
  · rw [List.mem_singleton.1 hc]
    exact .inr hlow.notMem_reserved

lemma isSafe_of_escapes {bytes : List UInt8} {es : List (List Char)}
    (h : List.Forall₂ IsEscape bytes es) : IsSafe es.flatten := by
  induction h with
  | nil => exact fun _ hc => (List.not_mem_nil hc).elim
  | cons hescape _ ih => exact hescape.isSafe.append ih

lemma Written.isSafe {c : Char} {w : List Char} (h : Written c w) : IsSafe w := by
  cases h with
  | plain hc => exact fun x hx => .inr (List.mem_singleton.1 hx ▸ hc)
  | escaped hescapes => exact isSafe_of_escapes hescapes

lemma Encodes.isSafe {p e : List Char} (h : Encodes p e) : IsSafe e := by
  induction h with
  | nil => exact fun _ hc => (List.not_mem_nil hc).elim
  | cons hw _ ih => exact hw.isSafe.append ih

lemma IsSafe.ne {cs : List Char} (h : IsSafe cs) {r : Char} (hr : r ∈ reserved) (hne : r ≠ '%')
    {c : Char} (hc : c ∈ cs) : c ≠ r := by
  rintro rfl
  exact (h c hc).elim hne fun hnot => hnot hr

/-! ### Paths -/

lemma pieces_eq_splitOn (cs : List Char) : Path.pieces cs = cs.splitOn '/' := by
  induction cs with
  | nil => rfl
  | cons c rest ih =>
    rw [List.splitOn, List.splitOnP_cons_eq_if_modifyHead, ← List.splitOn, ← ih, Path.pieces]
    by_cases hc : c = '/'
    · rw [if_pos hc, if_pos (by simpa using hc)]
    · rw [if_neg hc, if_neg (by simpa using hc)]
      cases hpieces : Path.pieces rest with
      | nil => exact absurd (ih.symm.trans hpieces) (List.splitOnP_ne_nil _ rest)
      | cons p ps => rfl

/-- Two slashes in front are kept, and any other number of them counts as one. -/
lemma anchorOf_slash (p : List Char) :
    Path.anchorOf ('/' :: p)
      = if p[0]? = some '/' ∧ p[1]? ≠ some '/' then .doubleSlash else .slash := by
  rcases p with _ | ⟨c, _ | ⟨c', rest⟩⟩
  · rfl
  · by_cases hc : c = '/'
    · subst hc
      rfl
    · simp [Path.anchorOf, hc]
  · by_cases hc : c = '/'
    · by_cases hc' : c' = '/'
      · simp [Path.anchorOf, hc, hc']
      · simp [Path.anchorOf, hc, hc']
    · simp [Path.anchorOf, hc]

lemma ofChars_slash (p : List Char) : Path.ofChars ('/' :: p) = normalForm p := by
  have hname : Path.isName = fun n => decide (n ≠ [] ∧ n ≠ ['.']) :=
    funext fun n => (Bool.decide_and ..).symm
  rw [Path.ofChars, anchorOf_slash, pieces_eq_splitOn, hname]
  rfl

/-- Nothing of the URI of an encoding is dropped. -/
lemma clean_ofEncoding {e : List Char} (h : IsSafe e) :
    clean (ofEncoding e).toList = ['f', 'i', 'l', 'e', ':', '/', '/'] ++ '/' :: e := by
  have hfile :
      (['f', 'i', 'l', 'e', ':', '/', '/', '/'].all fun c => !reserved.contains c) = true := by
    decide
  have hsafe : IsSafe (['f', 'i', 'l', 'e', ':', '/', '/', '/'] ++ e) :=
    IsSafe.append (fun c hc => .inr (by simpa using List.all_eq_true.1 hfile c hc)) h
  rw [ofEncoding, String.toList_ofList, clean]
  -- the first character is a letter, so nothing is dropped in front
  refine List.filter_eq_self.2 fun c hc => ?_
  simp [hsafe.ne (r := '\t') (by decide) (by decide) hc,
    hsafe.ne (r := '\n') (by decide) (by decide) hc,
    hsafe.ne (r := '\r') (by decide) (by decide) hc]

lemma splitScheme_file (rest : List Char) :
    splitScheme ('f' :: 'i' :: 'l' :: 'e' :: ':' :: rest) = (some "file".toList, rest) := by
  have hscheme : ('f' :: 'i' :: 'l' :: 'e' :: ':' :: rest).takeWhile isSchemeChar
      = ['f', 'i', 'l', 'e'] := rfl
  have hlower : ['f', 'i', 'l', 'e'].map Char.toLower = "file".toList := by decide +kernel
  rw [splitScheme, hscheme, ← hlower]
  rfl

/-- The path of the URI of an encoding is what the encoding stands for, behind a slash. -/
lemma toPath_ofEncoding {e : List Char} (h : IsSafe e) :
    toPath (ofEncoding e) = .ok (Path.ofChars ('/' :: unquote .clean e)) := by
  have hauthority : splitAuthority ('/' :: '/' :: '/' :: e) = ([], '/' :: e) := rfl
  have hkept {r : Char} (hr : r ∈ reserved) (hne : r ≠ '%') (hslash : r ≠ '/') :
      ('/' :: e).takeWhile (· ≠ r) = '/' :: e := by
    refine List.takeWhile_eq_self_iff.2 (List.forall_mem_cons.2 ⟨?_, fun c hc => ?_⟩)
    · simpa using hslash.symm
    · simpa using h.ne hr hne hc
  rw [toPath, clean_ofEncoding h, List.cons_append]
  simp only [List.cons_append, List.nil_append, splitScheme_file, hauthority]
  rw [hkept (r := '#') (by decide) (by decide) (by decide),
    hkept (r := '?') (by decide) (by decide) (by decide), unquote_plain (by decide)]
  rfl

/-! ### All encodings -/

lemma exists_escapes (bytes : List UInt8) : ∃ es, List.Forall₂ IsEscape bytes es := by
  induction bytes with
  | nil => exact ⟨[], .nil⟩
  | cons b rest ih =>
    obtain ⟨es, hes⟩ := ih
    have hb : b.toNat < 256 := b.toNat_lt
    obtain ⟨high, hhigh⟩ := exists_isHexOf (n := b.toNat / 16) (by omega)
    obtain ⟨low, hlow⟩ := exists_isHexOf (n := b.toNat % 16) (by omega)
    exact ⟨_, .cons (.intro hhigh hlow) hes⟩

lemma exists_encodes (p : List Char) : ∃ e, Encodes p e := by
  induction p with
  | nil => exact ⟨[], .nil⟩
  | cons c rest ih =>
    obtain ⟨e, he⟩ := ih
    obtain ⟨es, hes⟩ := exists_escapes (String.utf8EncodeChar c)
    exact ⟨_, .cons (.escaped hes) he⟩

/-- An absolute path has encodings, and whichever of them stands in a `file` URI, the URI leads to
the path in normal form. So a checker is started in the same directory, for a file of the same
name. -/
theorem encoding_does_not_change_path (p : List Char) :
    Path.ofChars ('/' :: p) = normalForm p ∧ (∃ e, Encodes p e) ∧
      ∀ e, Encodes p e → toPath (ofEncoding e) = .ok (normalForm p) ∧
        ∀ text r id command directory,
          .spawned id command directory ∈ ((Bridge.openUri (ofEncoding e) text).run r).trace →
          command = r.config.command (normalForm p).name ∧
            directory = (normalForm p).parent.toString := by
  refine ⟨ofChars_slash p, exists_encodes p, fun e he => ?_⟩
  have hpath : toPath (ofEncoding e) = .ok (normalForm p) := by
    rw [toPath_ofEncoding he.isSafe, he.unquote_eq, ofChars_slash]
  refine ⟨hpath, fun text r id command directory hspawn => ?_⟩
  have hlaunches := (Bridge.guards_openUri r.config (ofEncoding e) text).allowed rfl hspawn
  obtain ⟨path, hpath', hcommand, hdirectory⟩ := hlaunches id command directory rfl
  obtain rfl := Except.ok.inj (hpath.symm.trans hpath')
  exact ⟨hcommand, hdirectory⟩

/-- A character of one byte as an escape. -/
lemma written_of_hex {c high low : Char} {b : UInt8} (hc : String.utf8EncodeChar c = [b])
    (hhigh : IsHexOf (b.toNat / 16) high) (hlow : IsHexOf (b.toNat % 16) low) :
    Written c ['%', high, low] :=
  @Written.escaped c [['%', high, low]] (hc ▸ .cons (.intro hhigh hlow) .nil)

lemma written_umlaut : Written 'ä' ['%', 'C', '3', '%', 'a', '4'] :=
  @Written.escaped 'ä' [['%', 'C', '3'], ['%', 'a', '4']]
    (.cons (.intro (.inr (by decide +kernel)) (.inr (by decide +kernel)))
      (.cons (.intro (.inl (by decide +kernel)) (.inl (by decide +kernel))) .nil))

lemma written_percent : Written '%' ['%', '2', '5'] :=
  written_of_hex (b := 0x25) rfl (.inl (by decide +kernel)) (.inl (by decide +kernel))

lemma written_slash : Written '/' ['%', '2', 'f'] :=
  written_of_hex (b := 0x2F) rfl (.inl (by decide +kernel)) (.inl (by decide +kernel))

/-- A path with two slashes in front, an umlaut and a percent sign, in two encodings. -/
theorem two_encodings_of_one_path :
    let p := ['/', 'ä', '%']
    let e := ['/', '%', 'C', '3', '%', 'a', '4', '%', '2', '5']
    let e' := ['%', '2', 'f', 'ä', '%', '2', '5']
    (Encodes p e ∧ toPath (ofEncoding e) = .ok ⟨.doubleSlash, ["ä%"]⟩) ∧
      Encodes p e' ∧ toPath (ofEncoding e') = .ok ⟨.doubleSlash, ["ä%"]⟩ := by
  intro p e e'
  have he : Encodes p e :=
    .cons (.plain (by decide)) (.cons written_umlaut (.cons written_percent .nil))
  have he' : Encodes p e' :=
    .cons written_slash (.cons (.plain (by decide)) (.cons written_percent .nil))
  have hnormal : normalForm p = ⟨.doubleSlash, ["ä%"]⟩ := by decide +kernel
  have hpath := (encoding_does_not_change_path p).2.2
  rw [hnormal] at hpath
  exact ⟨⟨he, (hpath e he).1⟩, he', (hpath e' he').1⟩

end Uri

end ProverLink
