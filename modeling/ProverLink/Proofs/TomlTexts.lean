import Mathlib.Tactic.Common
import Mathlib.Data.List.Infix
import ProverLink.Toml.Reader

/-!
# Reading TOML leaves a rest of the text

Every reader gives back characters at the end of those that it was given, so what a later reader
sees is part of the document too. `Meets` says so about a reader that may also stop, but only at a
problem. `levels` bounds how deeply values can be nested in a text.
-/

namespace ProverLink.Toml

/-! ### Readers that stop at problems only -/

/-- What a reader gives meets a condition. It may stop at a problem, and for no other reason. -/
def Meets {α : Type} (post : α → Prop) : Except Stop α → Prop
  | .ok a => post a
  | .error (.problem _ _) => True
  | .error (.tooManyDigits _) => False
  | .error .tooDeep => False

section Meets

variable {α β : Type} {P : α → Prop} {Q : β → Prop}

lemma Meets.stop (p : Problem) (cs : List Char) : Meets P (Toml.stop p cs) := trivial

lemma Meets.bind {x : Except Stop α} {next : α → Except Stop β} (h : Meets P x)
    (hnext : ∀ a, P a → Meets Q (next a)) : Meets Q (x >>= next) := by
  match x, h with
  | .ok a, h => exact hnext a h
  | .error (.problem _ _), _ => trivial

lemma Meets.mono {P' : α → Prop} {x : Except Stop α} (h : Meets P x) (hP : ∀ a, P a → P' a) :
    Meets P' x := by
  match x, h with
  | .ok a, h => exact hP a h
  | .error (.problem _ _), _ => trivial

end Meets

/-- What a reader leaves is the end of what it was given. -/
abbrev Shrinks {α : Type} (cs : List Char) (x : Except Stop (α × List Char)) : Prop :=
  Meets (fun p => p.2 <:+ cs) x

lemma Shrinks.trans {α : Type} {cs r : List Char} {x : Except Stop (α × List Char)}
    (h : Shrinks r x) (hr : r <:+ cs) : Shrinks cs x := h.mono fun _ hp => hp.trans hr

/-! ### White space and comments -/

lemma eq_append_of_after? {w cs r : List Char} (h : Scan.after? w cs = some r) : cs = w ++ r := by
  induction w generalizing cs with
  | nil =>
    rw [Scan.after?] at h
    exact Option.some.inj h
  | cons x w ih =>
    cases cs with
    | nil => cases h
    | cons c cs =>
      rw [Scan.after?] at h
      split at h
      · rename_i hx
        rw [hx, ih h, List.cons_append]
      · cases h

lemma suffix_of_splitAt? {mark cs before r : List Char} (h : splitAt? mark cs = some (before, r)) :
    r <:+ cs := by
  induction cs generalizing before with
  | nil => cases h
  | cons c rest ih =>
    rw [splitAt?] at h
    split at h
    · rename_i r' hr
      cases h
      rw [eq_append_of_after? hr]
      exact List.suffix_append ..
    · obtain ⟨⟨before', r'⟩, hsplit, hr⟩ := Option.map_eq_some_iff.1 h
      cases hr
      exact (ih hsplit).trans (List.suffix_cons ..)

lemma skip_suffix (cs : List Char) : skip cs <:+ cs := List.dropWhile_suffix _

lemma meets_refuse (illegal : Char → Bool) (behind : Nat) (cs : List Char) :
    Meets (fun _ => True) (refuse illegal behind cs) := by
  induction cs with
  | nil => trivial
  | cons c rest ih =>
    rw [refuse]
    split
    · trivial
    · exact ih

lemma shrinks_literal (mark : String) (illegal : Char → Bool) (cs : List Char) :
    Shrinks cs (literal mark illegal cs) := by
  rw [literal]
  split
  · trivial
  · rename_i body rest h
    exact (meets_refuse ..).bind fun _ _ => suffix_of_splitAt? h

lemma meets_comment (cs : List Char) : Meets (· <:+ cs) (comment cs) := by
  rw [comment.eq_def]
  split
  · exact (meets_refuse ..).bind fun _ _ =>
      (List.dropWhile_suffix _).trans (List.suffix_cons ..)
  · exact List.suffix_rfl

lemma meets_skipLines (fuel : Nat) (cs : List Char) : Meets (· <:+ cs) (skipLines fuel cs) := by
  induction fuel generalizing cs with
  | zero => exact List.suffix_rfl
  | succ fuel ih =>
    rw [skipLines]
    refine (meets_comment _).bind fun rest hrest => ?_
    have hsuffix : rest <:+ cs := hrest.trans (List.dropWhile_suffix _)
    split
    · exact (ih rest).mono fun _ h => h.trans hsuffix
    · exact hsuffix

lemma meets_skipAll (cs : List Char) : Meets (· <:+ cs) (skipAll cs) := meets_skipLines _ cs

/-! ### Strings and keys -/

lemma meets_hexChar (digits rest : List Char) : Meets (fun _ => True) (hexChar digits rest) := by
  rw [hexChar]
  split
  · trivial
  · split <;> trivial

/-- A reader that puts a character in front of what another reader gives. -/
lemma Shrinks.cons {cs r : List Char} {x : Except Stop (List Char × List Char)} (h : Shrinks r x)
    (hr : r <:+ cs) (c : Char) :
    Shrinks cs (do let (ds, r) ← x; Except.ok (c :: ds, r)) :=
  h.bind fun _ hp => hp.trans hr

lemma shrinks_basic (lines : Bool) (mode : Mode) (cs : List Char) :
    Shrinks cs (basic lines mode cs) := by
  fun_induction basic lines mode cs
  -- white space that is dropped
  case case2 ih | case3 ih | case5 ih => exact ih.trans (List.suffix_cons ..)
  case case14 ih | case15 ih => exact ih.trans ⟨[_, _], rfl⟩
  -- the end of the string
  case case6 => exact ⟨[_, _, _], rfl⟩
  case case8 => exact List.suffix_cons ..
  -- one more character
  case case7 ih | case19 ih => exact ih.cons (List.suffix_cons ..) _
  case case10 ih => exact (meets_hexChar ..).bind fun _ _ => ih.cons ⟨[_, _, _, _, _, _], rfl⟩ _
  case case12 ih =>
    exact (meets_hexChar ..).bind fun _ _ => ih.cons ⟨[_, _, _, _, _, _, _, _, _, _], rfl⟩ _
  case case17 ih => exact ih.cons ⟨[_, _], rfl⟩ _
  all_goals trivial

lemma extraQuotes_suffix (quote : Char) (cs : List Char) : (extraQuotes quote cs).2 <:+ cs := by
  fun_cases extraQuotes quote cs
  case case2 => exact List.suffix_cons ..
  case case4 => exact ⟨[_, _], rfl⟩
  case case5 => exact List.suffix_cons ..
  all_goals exact List.suffix_rfl

lemma dropNewline_suffix (cs : List Char) : dropNewline cs <:+ cs := by
  fun_cases dropNewline cs
  · exact List.suffix_cons ..
  · exact List.suffix_rfl

lemma shrinks_doubleQuoted (cs : List Char) : Shrinks cs (doubleQuoted cs) := by
  rw [doubleQuoted.eq_def]
  split
  · rename_i rest
    refine (shrinks_basic ..).bind fun p hp => ?_
    have hrest : dropNewline rest <:+ '"' :: '"' :: rest :=
      (dropNewline_suffix rest).trans ⟨[_, _], rfl⟩
    exact (extraQuotes_suffix ..).trans (hp.trans hrest)
  · exact shrinks_basic ..

lemma shrinks_singleQuoted (cs : List Char) : Shrinks cs (singleQuoted cs) := by
  rw [singleQuoted.eq_def]
  split
  · rename_i rest
    refine (shrinks_literal ..).bind fun p hp => ?_
    have hrest : dropNewline rest <:+ '\'' :: '\'' :: rest :=
      (dropNewline_suffix rest).trans ⟨[_, _], rfl⟩
    exact (extraQuotes_suffix ..).trans (hp.trans hrest)
  · exact shrinks_literal ..

lemma shrinks_keyPart (cs : List Char) : Shrinks cs (keyPart cs) := by
  rw [keyPart.eq_def]
  split
  · exact (shrinks_literal ..).bind fun _ hp => hp.trans (List.suffix_cons ..)
  · exact (shrinks_basic ..).bind fun _ hp => hp.trans (List.suffix_cons ..)
  · split
    · trivial
    · exact List.dropWhile_suffix _

/-- Whether a character can lead one level down: it opens an array or a table, or it stands between
the parts of a key. -/
def isStep (c : Char) : Bool := c = '[' || c = '\x7b' || c = '.'

/-- How many such characters there are in a text. -/
def levels (cs : List Char) : Nat := cs.countP isStep

lemma levels_le {r cs : List Char} (h : r <:+ cs) : levels r ≤ levels cs := h.sublist.countP_le

lemma levels_cons {c : Char} (h : isStep c = true) (cs : List Char) :
    levels (c :: cs) = levels cs + 1 := List.countP_cons_of_pos h

/-- A key has at most one part more than there are points in its text. -/
lemma meets_keyParts (fuel : Nat) (cs : List Char) :
    Meets (fun p => p.2 <:+ cs ∧ 0 < p.1.length ∧ p.1.length + levels p.2 ≤ levels cs + 1)
      (keyParts fuel cs) := by
  induction fuel generalizing cs with
  | zero => trivial
  | succ fuel ih =>
    rw [keyParts]
    refine (shrinks_keyPart cs).bind fun ⟨k, r⟩ hp => ?_
    have hskip : skip r <:+ cs := (skip_suffix r).trans hp
    have hlevels := levels_le hskip
    dsimp only
    split
    · rename_i r' hr
      rw [hr] at hskip
      rw [hr, levels_cons rfl] at hlevels
      have hrest : skip r' <:+ cs := (skip_suffix r').trans ((List.suffix_cons ..).trans hskip)
      have hless := levels_le (skip_suffix r')
      refine (ih _).bind fun q hq => ⟨hq.1.trans hrest, Nat.succ_pos _, ?_⟩
      have hlength := hq.2.2
      simp only [List.length_cons]
      omega
    · refine ⟨hskip, Nat.one_pos, ?_⟩
      simp only [List.length_singleton]
      omega

lemma meets_dottedKey (cs : List Char) :
    Meets (fun p => p.2 <:+ cs ∧ 0 < p.1.length ∧ p.1.length + levels p.2 ≤ levels cs + 1)
      (dottedKey cs) := meets_keyParts ..

/-! ### Dates and times -/

lemma suffix_of_twoDigits? {least greatest n : Nat} {cs r : List Char}
    (h : Moment.twoDigits? least greatest cs = some (n, r)) : r <:+ cs := by
  match cs with
  | [] => cases h
  | [_] => cases h
  | a :: b :: rest =>
    simp only [Moment.twoDigits?, Option.bind_eq_bind, Option.bind_eq_some_iff] at h
    obtain ⟨x, -, y, -, h⟩ := h
    split at h
    · cases h
      exact ⟨[_, _], rfl⟩
    · cases h

lemma suffix_of_mark? {c : Char} {cs r : List Char} (h : Moment.mark? c cs = some r) :
    r <:+ cs := by
  rw [eq_append_of_after? h]
  exact List.suffix_append ..

lemma suffix_of_date? {cs r : List Char} {d : Date} (h : Moment.date? cs = some (d, r)) :
    r <:+ cs := by
  simp only [Moment.date?, Option.bind_eq_bind, Option.bind_eq_some_iff, Prod.exists,
    Option.pure_def, Option.some.injEq, Prod.mk.injEq] at h
  obtain ⟨_, r₁, h₁, _, r₂, h₂, r₃, h₃, _, r₄, h₄, r₅, h₅, _, r₆, h₆, -, rfl⟩ := h
  exact (suffix_of_twoDigits? h₆).trans <| (suffix_of_mark? h₅).trans <|
    (suffix_of_twoDigits? h₄).trans <| (suffix_of_mark? h₃).trans <|
    (suffix_of_twoDigits? h₂).trans (suffix_of_twoDigits? h₁)

lemma momentFraction_suffix (cs : List Char) : (Moment.fraction cs).2 <:+ cs := by
  rw [Moment.fraction.eq_def]
  split
  · split
    · exact List.suffix_rfl
    · exact (List.dropWhile_suffix _).trans (List.suffix_cons ..)
  · exact List.suffix_rfl

lemma suffix_of_time? {cs r : List Char} {t : Time} (h : Moment.time? cs = some (t, r)) :
    r <:+ cs := by
  simp only [Moment.time?, Option.bind_eq_bind, Option.bind_eq_some_iff, Prod.exists,
    Option.pure_def, Option.some.injEq, Prod.mk.injEq] at h
  obtain ⟨_, r₁, h₁, r₂, h₂, _, r₃, h₃, r₄, h₄, _, r₅, h₅, -, rfl⟩ := h
  exact (momentFraction_suffix r₅).trans <| (suffix_of_twoDigits? h₅).trans <|
    (suffix_of_mark? h₄).trans <| (suffix_of_twoDigits? h₃).trans <|
    (suffix_of_mark? h₂).trans (suffix_of_twoDigits? h₁)

lemma suffix_of_signedOffset? {negative : Bool} {cs r : List Char} {o : Int}
    (h : Moment.signedOffset? negative cs = some (o, r)) : r <:+ cs := by
  simp only [Moment.signedOffset?, Option.bind_eq_bind, Option.bind_eq_some_iff, Prod.exists,
    Option.pure_def, Option.some.injEq, Prod.mk.injEq] at h
  obtain ⟨_, r₁, h₁, r₂, h₂, _, r₃, h₃, -, rfl⟩ := h
  exact (suffix_of_twoDigits? h₃).trans <| (suffix_of_mark? h₂).trans (suffix_of_twoDigits? h₁)

lemma offset_suffix (cs : List Char) : (Moment.offset cs).2 <:+ cs := by
  rw [Moment.offset.eq_def]
  dsimp only
  split
  · rename_i o rest h
    split at h
    · cases h
      exact List.suffix_cons ..
    · cases h
      exact List.suffix_cons ..
    · exact (suffix_of_signedOffset? h).trans (List.suffix_cons ..)
    · exact (suffix_of_signedOffset? h).trans (List.suffix_cons ..)
    · cases h
  · exact List.suffix_rfl

lemma suffix_of_timeBehind? {cs r : List Char} {p : Time × Option Int}
    (h : Moment.timeBehind? cs = some (p, r)) : r <:+ cs := by
  match cs with
  | [] => cases h
  | c :: rest =>
    rw [Moment.timeBehind?] at h
    split at h
    · obtain ⟨⟨t, r'⟩, ht, hr⟩ := Option.map_eq_some_iff.1 h
      cases hr
      exact (offset_suffix r').trans ((suffix_of_time? ht).trans (List.suffix_cons ..))
    · cases h

lemma suffix_of_word? {α : Type} {table : List (String × α)} {cs r : List Char} {a : α}
    (h : word? table cs = some (a, r)) : r <:+ cs := by
  obtain ⟨w, -, hw⟩ := List.exists_of_findSome?_eq_some h
  obtain ⟨r', hr', hr⟩ := Option.map_eq_some_iff.1 hw
  cases hr
  rw [eq_append_of_after? hr']
  exact List.suffix_append ..

/-! ### Numbers -/

lemma digitRun_suffix (value? : Char → Option Nat) (cs : List Char) :
    (digitRun value? cs).2 <:+ cs := by
  fun_induction digitRun value? cs with
  | case2 _ _ _ _ _ _ _ _ hrun ih =>
    rw [hrun] at ih
    exact ih.trans ⟨[_, _], rfl⟩
  | case3 => exact List.suffix_cons ..
  | case5 _ _ _ _ _ _ _ hrun ih =>
    rw [hrun] at ih
    exact ih.trans (List.suffix_cons ..)
  | _ => exact List.suffix_rfl

lemma suffix_of_inBase? {base : Nat} {value? : Char → Option Nat} {cs r : List Char} {i : Int}
    (h : inBase? base value? cs = some (i, r)) : r <:+ cs := by
  have hrun := digitRun_suffix value? cs
  rw [inBase?] at h
  split at h
  · cases h
  · rename_i hns
    cases h
    rwa [hns] at hrun

lemma suffix_of_based? {cs r : List Char} {i : Int} (h : based? cs = some (i, r)) : r <:+ cs := by
  rw [based?.eq_def] at h
  split at h
  · exact (suffix_of_inBase? h).trans (List.suffix_cons ..)
  · exact (suffix_of_inBase? h).trans (List.suffix_cons ..)
  · exact (suffix_of_inBase? h).trans (List.suffix_cons ..)
  · cases h

lemma suffix_of_whole? {cs r : List Char} {ns : List Nat} (h : whole? cs = some (ns, r)) :
    r <:+ cs := by
  rw [whole?.eq_def] at h
  split at h
  · cases h
    exact List.suffix_cons ..
  · have hrun := digitRun_suffix Digit.ascii? cs
    split at h
    · cases h
    · rename_i hns
      cases h
      rwa [hns] at hrun

lemma fraction_suffix (cs : List Char) : (fraction cs).2 <:+ cs := by
  rw [fraction.eq_def]
  split
  · rename_i rest
    have hrun := digitRun_suffix Digit.ascii? rest
    split
    · exact List.suffix_rfl
    · rename_i hns
      rw [hns] at hrun
      exact hrun.trans (List.suffix_cons ..)
  · exact List.suffix_rfl

lemma exponent_suffix (cs : List Char) : (exponent cs).2 <:+ cs := by
  have hdigits : ∀ {rest r : List Char} {ns : List Nat}, rest <:+ cs →
      digitRun Digit.ascii? rest = (ns, r) → r <:+ cs := by
    intro rest r ns hrest hns
    have hrun := digitRun_suffix Digit.ascii? rest
    rw [hns] at hrun
    exact hrun.trans hrest
  rw [exponent.eq_def]
  dsimp only
  split
  · split
    · split
      all_goals
        split
        · exact List.suffix_rfl
        · rename_i hns
          refine hdigits ?_ hns
          first | exact ⟨[_, _], rfl⟩ | exact List.suffix_cons ..
    · exact List.suffix_rfl
  · exact List.suffix_rfl

lemma suffix_of_decimal? {negative : Bool} {cs r : List Char} {v : Toml}
    (h : decimal? negative cs = some (.ok (v, r))) : r <:+ cs := by
  rw [decimal?, Option.bind_eq_bind, Option.bind_eq_some_iff] at h
  obtain ⟨⟨ns, rest⟩, hwhole, h⟩ := h
  have hrest : (exponent (fraction rest).2).2 <:+ cs :=
    (exponent_suffix _).trans ((fraction_suffix rest).trans (suffix_of_whole? hwhole))
  dsimp only at h
  split at h
  · split at h
    · cases h
    · cases h
      exact hrest
  · cases h
    exact hrest

lemma suffix_of_number? {cs r : List Char} {v : Toml} (h : number? cs = some (.ok (v, r))) :
    r <:+ cs := by
  rw [number?.eq_def] at h
  split at h
  · exact (suffix_of_decimal? h).trans (List.suffix_cons ..)
  · exact (suffix_of_decimal? h).trans (List.suffix_cons ..)
  · split at h
    · rename_i hbased
      cases h
      exact (suffix_of_based? hbased).trans (List.suffix_cons ..)
    · exact suffix_of_decimal? h
  · exact suffix_of_decimal? h

lemma suffix_of_atom {cs r : List Char} {v : Toml} (h : atom cs = .ok (v, r)) : r <:+ cs := by
  rw [atom] at h
  split at h
  · rename_i hword
    cases h
    exact suffix_of_word? hword
  split at h
  · rename_i hdate
    have hrest := suffix_of_date? hdate
    rw [dated] at h
    split at h
    · split at h
      · rename_i ht
        cases h
        exact (suffix_of_timeBehind? ht).trans hrest
      · cases h
        exact hrest
    · cases h
  split at h
  · rename_i htime
    cases h
    exact suffix_of_time? htime
  split at h
  · rename_i hnumber
    exact suffix_of_number? (h ▸ hnumber)
  split at h
  · rename_i hword
    cases h
    exact suffix_of_word? hword
  · cases h

end ProverLink.Toml
