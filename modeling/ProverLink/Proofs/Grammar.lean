import Mathlib.Data.List.Forall2
import ProverLink.Message.Validation

/-!
# The grammar of messages

Which JSON values stand for which parts of a message, said without counting errors: a value either
stands for a part or it does not. The checks accept exactly the values of the grammar, so a line of
JSON always gives a message, and one of a known kind exactly if the grammar has it.
-/

namespace ProverLink

/-! ### Values -/

namespace Json

variable {α : Type}

/-- An integer, or a truth value, a number or a text that stands for one. -/
inductive IsInteger : Json → Int → Prop where
  | int (i : Int) : IsInteger (.int i) i
  | bool (b : Bool) : IsInteger (.bool b) (if b then 1 else 0)
  /-- A number without a fraction, strictly inside the range of 64 bits. -/
  | float {x : Binary64} {i : Int} : x.toInt? = some i → i.natAbs < Nat.pow 2 63 →
    IsInteger (.float x) i
  | text {t : Text} {i : Int} : Decimal.readPlain? t = some i → IsInteger (.str t) i

inductive IsText : Json → Text → Prop where
  | mk (t : Text) : IsText (.str t) t

inductive IsNullOr (R : Json → α → Prop) : Json → Option α → Prop where
  | null : IsNullOr R .null none
  | value {v : Json} {a : α} : v ≠ .null → R v a → IsNullOr R v (some a)

inductive IsList (R : Json → α → Prop) : Json → List α → Prop where
  | mk {items : List Json} {as : List α} : List.Forall₂ R items as → IsList R (.arr items) as

/-- An array of exactly two values. -/
inductive IsPair (R : Json → α → Prop) : Json → α → α → Prop where
  | mk {v w : Json} {a b : α} : R v a → R w b → IsPair R (.arr [v, w]) a b

inductive IsObject (R : Fields → α → Prop) : Json → α → Prop where
  | mk {fields : Fields} {a : α} : R fields a → IsObject R (.obj fields) a

end Json

namespace Fields

variable {α : Type}

/-- A field that may be missing: what it stands for, or else a default. -/
inductive MayHave (fields : Fields) (name : String) (R : Json → α → Prop) (default : α) :
    α → Prop where
  | absent : fields.get? (Text.ofString name) = none → MayHave fields name R default default
  | present {v : Json} {a : α} : fields.get? (Text.ofString name) = some v → R v a →
    MayHave fields name R default a

/-- A field that has to be there. -/
def Has (fields : Fields) (name : String) (R : Json → α → Prop) (a : α) : Prop :=
  ∃ v, fields.get? (Text.ofString name) = some v ∧ R v a

/-- A field that holds a word. -/
def HasWord (fields : Fields) (name word : String) : Prop :=
  fields.get? (Text.ofString name) = some (.str (Text.ofString word))

/-- The fields that are not declared. Their names hold characters only. -/
structure Leaves (fields : Fields) (names : List String) (extra : Fields) : Prop where
  eq : extra = fields.filter fun f => f.1 ∉ names.map Text.ofString
  clean : ∀ f ∈ extra, f.1.hasSurrogate = false

end Fields

/-! ### Parts of messages -/

open Json Fields

/-- A coordinate is an array of a line and a column. -/
def Coordinate.IsWritten (v : Json) (c : Coordinate) : Prop := IsPair IsInteger v c.line c.column

/-- A range has `beg` and `end`, and possibly `fname`. -/
structure SourceRange.IsWritten (fields : Fields) (r : SourceRange) : Prop where
  file : fields.MayHave "fname" (IsNullOr IsText) none r.file
  start : fields.Has "beg" Coordinate.IsWritten r.start
  stop : fields.Has "end" Coordinate.IsWritten r.stop
  extra : fields.Leaves ["fname", "beg", "end"] r.extra

/-- The contents of a progress message may have a stage and a range. -/
structure Progress.IsWritten (fields : Fields) (p : Progress) : Prop where
  stage : fields.MayHave "stage" (IsNullOr IsText) none p.stage
  range : fields.MayHave "ranges" (IsNullOr (IsObject SourceRange.IsWritten)) none p.range
  extra : fields.Leaves ["stage", "ranges"] p.extra

/-- A complaint has a message, and possibly a level and ranges. -/
structure Complaint.IsWritten (fields : Fields) (c : Complaint) : Prop where
  message : fields.Has "message" IsText c.message
  level : fields.MayHave "level" (IsNullOr IsText) none c.level
  ranges : fields.MayHave "ranges" (IsList (IsObject SourceRange.IsWritten)) [] c.ranges
  extra : fields.Leaves ["message", "level", "ranges"] c.extra

/-- An answer is null, a text or a list of complaints. -/
inductive Answer.IsWritten : Json → Answer → Prop where
  | null : IsWritten .null .empty
  | text (t : Text) : IsWritten (.str t) (.rejection t)
  | list {v : Json} {entries : List Complaint} : IsList (IsObject Complaint.IsWritten) v entries →
    IsWritten v (.complaints entries)

/-- An id is a text, or else an integer. -/
inductive QueryId.IsWritten : Json → QueryId → Prop where
  | text (t : Text) : IsWritten (.str t) (.text t)
  | number {v : Json} {i : Int} : (∀ t, v ≠ .str t) → IsInteger v i → IsWritten v (.number i)

/-! ### Messages -/

/-- The tag of a kind of message. -/
def Body.tag : Body → Tag
  | .protocolInfo _ _ => .protocolInfo
  | .progress _ => .progress
  | .failure _ => .failure
  | .success _ => .success
  | .unhandled _ _ => .unhandled

/-- The words that select a known kind of message. -/
inductive Tag.Selected (fields : Fields) : Tag → Prop where
  | protocolInfo : fields.HasWord "kind" "protocol-info" → Selected fields .protocolInfo
  | progress : fields.HasWord "kind" "message" → fields.HasWord "level" "progress" →
    Selected fields .progress
  | failure : fields.HasWord "kind" "response" → fields.HasWord "status" "failure" →
    Selected fields .failure
  | success : fields.HasWord "kind" "response" → fields.HasWord "status" "success" →
    Selected fields .success

/-- The body of a message of a known kind. -/
inductive Body.IsWritten (fields : Fields) : Body → Prop where
  | protocolInfo {version : Option Int} {features : List Text} :
    fields.MayHave "version" (IsNullOr IsInteger) none version →
    fields.MayHave "features" (IsList IsText) [] features →
    IsWritten fields (.protocolInfo version features)
  | progress {p : Progress} : fields.MayHave "contents" (IsObject Progress.IsWritten) {} p →
    IsWritten fields (.progress p)
  | failure {answer : Answer} : fields.MayHave "response" Answer.IsWritten .empty answer →
    IsWritten fields (.failure answer)
  | success {response : Json} : fields.MayHave "response" (fun v w => v = w) .null response →
    IsWritten fields (.success response)

/-- A message of a known kind. Its id stands under `query-id`, or under `query_id` if there is no
`query-id`. -/
structure Message.IsWritten (fields : Fields) (m : Message) : Prop where
  tag : Tag.Selected fields m.body.tag
  id : fields.MayHave (Checked.idName fields) (IsNullOr QueryId.IsWritten) none m.queryId
  body : Body.IsWritten fields m.body
  extra : fields.Leaves (Checked.idName fields :: bodyNames m.body.tag) m.extra

/-! ### Checks that succeed -/

namespace Checked

variable {α β γ δ : Type}

lemma map_eq_ok_iff {f : α → β} {x : Checked α} {b : β} :
    Except.map f x = .ok b ↔ ∃ a, x = .ok a ∧ f a = b := by
  cases x <;> simp [Except.map]

lemma app_eq_ok_iff {f : Checked (α → β)} {x : Checked α} {b : β} :
    app f x = .ok b ↔ ∃ g a, f = .ok g ∧ x = .ok a ∧ g a = b := by
  cases f <;> cases x <;> simp [app]

lemma map2_eq_ok_iff {f : α → β → γ} {x : Checked α} {y : Checked β} {c : γ} :
    map2 f x y = .ok c ↔ ∃ a b, x = .ok a ∧ y = .ok b ∧ f a b = c := by
  simp only [map2, app_eq_ok_iff, map_eq_ok_iff]
  constructor
  · rintro ⟨_, b, ⟨a, ha, rfl⟩, hb, hc⟩
    exact ⟨a, b, ha, hb, hc⟩
  · rintro ⟨a, b, ha, hb, hc⟩
    exact ⟨f a, b, ⟨a, ha, rfl⟩, hb, hc⟩

lemma map3_eq_ok_iff {f : α → β → γ → δ} {x : Checked α} {y : Checked β} {z : Checked γ} {d : δ} :
    map3 f x y z = .ok d ↔ ∃ a b c, x = .ok a ∧ y = .ok b ∧ z = .ok c ∧ f a b c = d := by
  simp only [map3, app_eq_ok_iff, map2_eq_ok_iff]
  constructor
  · rintro ⟨_, c, ⟨a, b, ha, hb, rfl⟩, hc, hd⟩
    exact ⟨a, b, c, ha, hb, hc, hd⟩
  · rintro ⟨a, b, c, ha, hb, hc, hd⟩
    exact ⟨f a b, c, ⟨a, b, ha, hb, rfl⟩, hc, hd⟩

/-- Fields that are not declared are added if their names hold characters only. -/
lemma withExtra_eq_ok_iff {fields : Fields} {names : List String} {c : Checked (Fields → α)}
    {a : α} :
    withExtra (fields.without (declared names)) c = .ok a ↔
      ∃ g extra, c = .ok g ∧ fields.Leaves names extra ∧ g extra = a := by
  have hextra : fields.without (declared names)
      = fields.filter fun f => f.1 ∉ names.map Text.ofString := by
    refine List.filter_congr fun f _ => ?_
    exact Bool.eq_iff_iff.2 (by simp [declared])
  rw [hextra, withExtra]
  split
  · rename_i hdirty
    obtain ⟨f, hf, hsurrogate⟩ := List.any_eq_true.1 hdirty
    refine ⟨nofun, ?_⟩
    rintro ⟨g, extra, -, ⟨rfl, hclean⟩, -⟩
    rw [hclean f hf] at hsurrogate
    cases hsurrogate
  · rename_i hclean
    rw [Bool.not_eq_true, List.any_eq_false] at hclean
    rw [map_eq_ok_iff]
    constructor
    · rintro ⟨g, hg, ha⟩
      exact ⟨g, _, hg, ⟨rfl, fun f hf => by simpa using hclean f hf⟩, ha⟩
    · rintro ⟨g, extra, hg, ⟨rfl, -⟩, ha⟩
      exact ⟨g, hg, ha⟩

section Shapes

variable {R : Json → α → Prop} {check : Json → Checked α}
  (h : ∀ v a, check v = .ok a ↔ R v a)

include h

lemma nullable_eq_ok_iff (v : Json) (a : Option α) :
    nullable check v = .ok a ↔ IsNullOr R v a := by
  have hvalue : v ≠ .null → (nullable check v = .ok a ↔ ∃ b, R v b ∧ some b = a) := by
    intro hv
    rw [nullable.eq_def]
    split
    · exact absurd rfl hv
    · simp only [map_eq_ok_iff, h]
  by_cases hv : v = .null
  · subst hv
    constructor
    · intro hnull
      cases hnull
      exact .null
    · intro hnull
      cases hnull with
      | null => rfl
      | value hne _ => exact absurd rfl hne
  · rw [hvalue hv]
    constructor
    · rintro ⟨b, hb, rfl⟩
      exact .value hv hb
    · intro hvalue
      cases hvalue with
      | null => exact absurd rfl hv
      | value _ hb => exact ⟨_, hb, rfl⟩

lemma all_eq_ok_iff (items : List Json) (as : List α) :
    all check items = .ok as ↔ List.Forall₂ R items as := by
  induction items generalizing as with
  | nil => simp [all, eq_comm]
  | cons v rest ih =>
    simp only [all, map2_eq_ok_iff, h, ih, List.forall₂_cons_left_iff]
    constructor
    · rintro ⟨a, bs, ha, hbs, rfl⟩
      exact ⟨a, bs, ha, hbs, rfl⟩
    · rintro ⟨a, bs, ha, hbs, rfl⟩
      exact ⟨a, bs, ha, hbs, rfl⟩

lemma list_eq_ok_iff (v : Json) (as : List α) : list check v = .ok as ↔ IsList R v as := by
  constructor
  · intro hlist
    cases v with
    | arr items => exact .mk ((all_eq_ok_iff h items as).1 hlist)
    | _ => cases hlist
  · rintro ⟨hitems⟩
    exact (all_eq_ok_iff h _ as).2 hitems

lemma pair_eq_ok_iff {make : α → α → β} (v : Json) (b : β) :
    pair check make v = .ok b ↔ ∃ a a', IsPair R v a a' ∧ make a a' = b := by
  constructor
  · intro hpair
    rw [pair.eq_def] at hpair
    split at hpair
    · obtain ⟨a, a', ha, ha', hb⟩ := map2_eq_ok_iff.1 hpair
      exact ⟨a, a', .mk ((h _ _).1 ha) ((h _ _).1 ha'), hb⟩
    · obtain ⟨a, a', _, hfail, _⟩ := map2_eq_ok_iff.1 hpair
      cases hfail
    · cases hpair
    · cases hpair
  · rintro ⟨a, a', ⟨ha, ha'⟩, hb⟩
    exact map2_eq_ok_iff.2 ⟨a, a', (h _ _).2 ha, (h _ _).2 ha', hb⟩

lemma optional_eq_ok_iff (fields : Fields) (name : String) (default a : α) :
    optional fields name default check = .ok a ↔ fields.MayHave name R default a := by
  rw [optional]
  split
  · rename_i hnone
    constructor
    · intro hdefault
      cases hdefault
      exact .absent hnone
    · intro hfield
      cases hfield with
      | absent _ => rfl
      | present hsome _ =>
        rw [hnone] at hsome
        cases hsome
  · rename_i v hsome
    rw [h]
    constructor
    · exact .present hsome
    · intro hfield
      cases hfield with
      | absent hnone =>
        rw [hsome] at hnone
        cases hnone
      | present hsome' ha =>
        rw [hsome, Option.some.injEq] at hsome'
        exact hsome' ▸ ha

lemma required_eq_ok_iff (fields : Fields) (name : String) (a : α) :
    required fields name check = .ok a ↔ fields.Has name R a := by
  rw [required, Fields.Has]
  cases fields.get? (Text.ofString name) with
  | none => simp [fail]
  | some v => simp [h]

end Shapes

lemma text_eq_ok_iff (v : Json) (t : Text) : text v = .ok t ↔ IsText v t := by
  constructor
  · intro htext
    cases v with
    | str t' =>
      cases htext
      exact .mk t
    | _ => cases htext
  · rintro ⟨⟩
    rfl

lemma anything_eq_ok_iff (v w : Json) : anything v = .ok w ↔ v = w := by
  rw [anything, Except.ok.injEq]

lemma integer_eq_ok_iff (v : Json) (i : Int) : integer v = .ok i ↔ IsInteger v i := by
  constructor
  · intro hinteger
    cases v with
    | int j =>
      cases hinteger
      exact .int i
    | bool b =>
      cases hinteger
      exact .bool b
    | float x =>
      rw [integer] at hinteger
      split at hinteger
      · rename_i j hj
        cases hinteger
        rw [wordInt?, Option.filter_eq_some_iff, decide_eq_true_eq] at hj
        exact .float hj.1 hj.2
      · cases hinteger
    | str t =>
      rw [integer] at hinteger
      split at hinteger
      · rename_i j hj
        cases hinteger
        exact .text hj
      · cases hinteger
    | _ => cases hinteger
  · intro hinteger
    cases hinteger with
    | int i => rfl
    | bool b => rfl
    | float hi hrange =>
      rw [integer, wordInt?, hi, Option.filter_some, if_pos (decide_eq_true hrange)]
    | text hi => rw [integer, hi]

end Checked

/-! ### The checks follow the grammar -/

/-- A check of the fields of an object is a check of the object. -/
lemma isObject_iff {α : Type} {R : Fields → α → Prop} {check : Json → Checked α}
    (hobj : ∀ fields a, check (.obj fields) = .ok a ↔ R fields a)
    (hother : ∀ v a, check v = .ok a → ∃ fields, v = .obj fields) (v : Json) (a : α) :
    check v = .ok a ↔ IsObject R v a := by
  constructor
  · intro hcheck
    obtain ⟨fields, rfl⟩ := hother v a hcheck
    exact .mk ((hobj fields a).1 hcheck)
  · rintro ⟨hfields⟩
    exact (hobj _ a).2 hfields

lemma Coordinate.ofJson_eq_ok_iff (v : Json) (c : Coordinate) :
    ofJson v = .ok c ↔ IsWritten v c := by
  rw [ofJson, Checked.pair_eq_ok_iff Checked.integer_eq_ok_iff, IsWritten]
  constructor
  · rintro ⟨a, b, hpair, rfl⟩
    exact hpair
  · intro hpair
    exact ⟨c.line, c.column, hpair, rfl⟩

lemma SourceRange.ofJson_eq_ok_iff (v : Json) (r : SourceRange) :
    ofJson v = .ok r ↔ IsObject IsWritten v r := by
  refine isObject_iff (fun fields r => ?_) (fun v r h => ?_) v r
  · rw [ofJson, Checked.withExtra_eq_ok_iff]
    simp only [Checked.map3_eq_ok_iff, Checked.required_eq_ok_iff Coordinate.ofJson_eq_ok_iff,
      Checked.optional_eq_ok_iff (Checked.nullable_eq_ok_iff Checked.text_eq_ok_iff)]
    constructor
    · rintro ⟨_, extra, ⟨file, start, stop, hfile, hstart, hstop, rfl⟩, hextra, rfl⟩
      exact ⟨hfile, hstart, hstop, hextra⟩
    · rintro ⟨hfile, hstart, hstop, hextra⟩
      exact ⟨_, _, ⟨_, _, _, hfile, hstart, hstop, rfl⟩, hextra, rfl⟩
  · cases v with
    | obj fields => exact ⟨fields, rfl⟩
    | _ => cases h

lemma Progress.ofJson_eq_ok_iff (v : Json) (p : Progress) :
    ofJson v = .ok p ↔ IsObject IsWritten v p := by
  refine isObject_iff (fun fields p => ?_) (fun v p h => ?_) v p
  · rw [ofJson, Checked.withExtra_eq_ok_iff]
    simp only [Checked.map2_eq_ok_iff,
      Checked.optional_eq_ok_iff (Checked.nullable_eq_ok_iff Checked.text_eq_ok_iff),
      Checked.optional_eq_ok_iff (Checked.nullable_eq_ok_iff SourceRange.ofJson_eq_ok_iff)]
    constructor
    · rintro ⟨_, extra, ⟨stage, range, hstage, hrange, rfl⟩, hextra, rfl⟩
      exact ⟨hstage, hrange, hextra⟩
    · rintro ⟨hstage, hrange, hextra⟩
      exact ⟨_, _, ⟨_, _, hstage, hrange, rfl⟩, hextra, rfl⟩
  · cases v with
    | obj fields => exact ⟨fields, rfl⟩
    | _ => cases h

lemma Complaint.ofJson_eq_ok_iff (v : Json) (c : Complaint) :
    ofJson v = .ok c ↔ IsObject IsWritten v c := by
  refine isObject_iff (fun fields c => ?_) (fun v c h => ?_) v c
  · rw [ofJson, Checked.withExtra_eq_ok_iff]
    simp only [Checked.map3_eq_ok_iff, Checked.required_eq_ok_iff Checked.text_eq_ok_iff,
      Checked.optional_eq_ok_iff (Checked.nullable_eq_ok_iff Checked.text_eq_ok_iff),
      Checked.optional_eq_ok_iff (Checked.list_eq_ok_iff SourceRange.ofJson_eq_ok_iff)]
    constructor
    · rintro ⟨_, extra, ⟨message, level, ranges, hmessage, hlevel, hranges, rfl⟩, hextra, rfl⟩
      exact ⟨hmessage, hlevel, hranges, hextra⟩
    · rintro ⟨hmessage, hlevel, hranges, hextra⟩
      exact ⟨_, _, ⟨_, _, _, hmessage, hlevel, hranges, rfl⟩, hextra, rfl⟩
  · cases v with
    | obj fields => exact ⟨fields, rfl⟩
    | _ => cases h

lemma Answer.ofJson_eq_ok_iff (v : Json) (answer : Answer) :
    ofJson v = .ok answer ↔ IsWritten v answer := by
  have hlist := Checked.list_eq_ok_iff Complaint.ofJson_eq_ok_iff v
  constructor
  · intro h
    rw [ofJson.eq_def] at h
    split at h
    · cases h
      exact .null
    · cases h
      exact .text _
    · split at h
      · rename_i entries hentries
        cases h
        exact .list ((hlist entries).1 hentries)
      · cases h
  · intro h
    cases h with
    | null => rfl
    | text t => rfl
    | list hentries =>
      have hok := (hlist _).2 hentries
      cases hentries with
      | mk hitems => simp only [ofJson, hok]

lemma QueryId.ofJson_eq_ok_iff (v : Json) (id : QueryId) : ofJson v = .ok id ↔ IsWritten v id := by
  constructor
  · intro h
    rw [ofJson.eq_def] at h
    split at h
    · cases h
      exact .text _
    · rename_i hstr
      split at h
      · rename_i i hi
        cases h
        exact .number hstr ((Checked.integer_eq_ok_iff _ i).1 hi)
      · cases h
  · intro h
    cases h with
    | text t => rfl
    | number hstr hi =>
      rw [ofJson.eq_def]
      split
      · rename_i t
        exact absurd rfl (hstr t)
      · rw [(Checked.integer_eq_ok_iff _ _).2 hi]

/-! ### Tags -/

lemma Tag.hasWord_iff (fields : Fields) (name word : String) :
    hasWord (fields.get? (Text.ofString name)) word = true ↔ fields.HasWord name word := by
  rw [Fields.HasWord, hasWord.eq_def]
  split
  · rename_i t ht
    simp [ht]
  · rename_i hother
    simp only [Bool.false_eq_true, false_iff]
    exact hother _

/-- A field holds one word only. -/
lemma Fields.HasWord.unique {fields : Fields} {name word word' : String}
    (h : fields.HasWord name word) (h' : fields.HasWord name word') :
    Text.ofString word = Text.ofString word' := by
  rw [HasWord, h, Option.some.injEq, Json.str.injEq] at h'
  exact h'

lemma Tag.ofFields_of_selected {fields : Fields} {tag : Tag} (h : Selected fields tag) :
    ofFields fields = tag := by
  have hnot : ∀ {name word : String} (word' : String), fields.HasWord name word →
      Text.ofString word ≠ Text.ofString word' →
      ¬hasWord (fields.get? (Text.ofString name)) word' = true := by
    intro name word word' hword hne hword'
    exact hne (hword.unique ((hasWord_iff fields name word').1 hword'))
  have hyes := fun name word => (hasWord_iff fields name word).2
  cases h with
  | protocolInfo hkind => rw [ofFields, choose, if_pos (hyes _ _ hkind)]
  | progress hkind hlevel =>
    rw [ofFields, choose, if_neg (hnot _ hkind (by decide)),
      if_pos (by rw [hyes _ _ hkind, hyes _ _ hlevel]; rfl)]
  | failure hkind hstatus =>
    rw [ofFields, choose, if_neg (hnot _ hkind (by decide)),
      if_neg (by simp [hnot "message" hkind (by decide)]),
      if_pos (by rw [hyes _ _ hkind, hyes _ _ hstatus]; rfl)]
  | success hkind hstatus =>
    rw [ofFields, choose, if_neg (hnot _ hkind (by decide)),
      if_neg (by simp [hnot "message" hkind (by decide)]),
      if_neg (by simp [hnot "failure" hstatus (by decide)]),
      if_pos (by rw [hyes _ _ hkind, hyes _ _ hstatus]; rfl)]

lemma Tag.selected_ofFields {fields : Fields} (h : ofFields fields ≠ .unhandled) :
    Selected fields (ofFields fields) := by
  rw [ofFields, choose] at h ⊢
  split
  · rename_i hkind
    exact .protocolInfo ((hasWord_iff ..).1 hkind)
  · split
    · rename_i hwords
      rw [Bool.and_eq_true] at hwords
      exact .progress ((hasWord_iff ..).1 hwords.1) ((hasWord_iff ..).1 hwords.2)
    · split
      · rename_i hwords
        rw [Bool.and_eq_true] at hwords
        exact .failure ((hasWord_iff ..).1 hwords.1) ((hasWord_iff ..).1 hwords.2)
      · split
        · rename_i hwords
          rw [Bool.and_eq_true] at hwords
          exact .success ((hasWord_iff ..).1 hwords.1) ((hasWord_iff ..).1 hwords.2)
        · rename_i h₁ h₂ h₃ h₄
          exact absurd (by rw [if_neg h₁, if_neg h₂, if_neg h₃, if_neg h₄]) h

/-! ### Lines -/

namespace Message

lemma bodyOf_eq_ok_iff {fields : Fields} {tag : Tag} (h : tag ≠ .unhandled) (body : Body) :
    bodyOf fields tag = .ok body ↔ body.tag = tag ∧ Body.IsWritten fields body := by
  constructor
  · intro hbody
    cases tag with
    | protocolInfo =>
      obtain ⟨version, features, hversion, hfeatures, rfl⟩ := Checked.map2_eq_ok_iff.1 hbody
      rw [Checked.optional_eq_ok_iff (Checked.nullable_eq_ok_iff Checked.integer_eq_ok_iff)]
        at hversion
      rw [Checked.optional_eq_ok_iff (Checked.list_eq_ok_iff Checked.text_eq_ok_iff)] at hfeatures
      exact ⟨rfl, .protocolInfo hversion hfeatures⟩
    | progress =>
      obtain ⟨p, hp, rfl⟩ := Checked.map_eq_ok_iff.1 hbody
      rw [Checked.optional_eq_ok_iff Progress.ofJson_eq_ok_iff] at hp
      exact ⟨rfl, .progress hp⟩
    | failure =>
      obtain ⟨answer, hanswer, rfl⟩ := Checked.map_eq_ok_iff.1 hbody
      rw [Checked.optional_eq_ok_iff Answer.ofJson_eq_ok_iff] at hanswer
      exact ⟨rfl, .failure hanswer⟩
    | success =>
      obtain ⟨response, hresponse, rfl⟩ := Checked.map_eq_ok_iff.1 hbody
      rw [Checked.optional_eq_ok_iff Checked.anything_eq_ok_iff] at hresponse
      exact ⟨rfl, .success hresponse⟩
    | unhandled => exact absurd rfl h
  · rintro ⟨rfl, hbody⟩
    cases hbody with
    | protocolInfo hversion hfeatures =>
      rw [← Checked.optional_eq_ok_iff (Checked.nullable_eq_ok_iff Checked.integer_eq_ok_iff)]
        at hversion
      rw [← Checked.optional_eq_ok_iff (Checked.list_eq_ok_iff Checked.text_eq_ok_iff)] at hfeatures
      exact Checked.map2_eq_ok_iff.2 ⟨_, _, hversion, hfeatures, rfl⟩
    | progress hp =>
      rw [← Checked.optional_eq_ok_iff Progress.ofJson_eq_ok_iff] at hp
      exact Checked.map_eq_ok_iff.2 ⟨_, hp, rfl⟩
    | failure hanswer =>
      rw [← Checked.optional_eq_ok_iff Answer.ofJson_eq_ok_iff] at hanswer
      exact Checked.map_eq_ok_iff.2 ⟨_, hanswer, rfl⟩
    | success hresponse =>
      rw [← Checked.optional_eq_ok_iff Checked.anything_eq_ok_iff] at hresponse
      exact Checked.map_eq_ok_iff.2 ⟨_, hresponse, rfl⟩

/-- The fields of an object give a message if its id, its body and the names of the rest do. -/
lemma ofFields_eq_ok {fields : Fields} {m : Message} :
    ofFields fields = .ok m ↔
      fields.MayHave (Checked.idName fields) (IsNullOr QueryId.IsWritten) none m.queryId ∧
        bodyOf fields (Tag.ofFields fields) = .ok m.body ∧
        fields.Leaves (Checked.idName fields :: bodyNames (Tag.ofFields fields)) m.extra := by
  rw [ofFields, Checked.withExtra_eq_ok_iff]
  simp only [Checked.map2_eq_ok_iff,
    Checked.optional_eq_ok_iff (Checked.nullable_eq_ok_iff QueryId.ofJson_eq_ok_iff)]
  constructor
  · rintro ⟨_, extra, ⟨id, body, hid, hbody, rfl⟩, hextra, rfl⟩
    exact ⟨hid, hbody, hextra⟩
  · rintro ⟨hid, hbody, hextra⟩
    exact ⟨_, _, ⟨_, _, hid, hbody, rfl⟩, hextra, rfl⟩

lemma tag_of_bodyOf {fields : Fields} {tag : Tag} {body : Body}
    (h : bodyOf fields tag = .ok body) : body.tag = tag := by
  by_cases htag : tag = .unhandled
  · subst htag
    obtain ⟨kind, reason, -, -, rfl⟩ := Checked.map2_eq_ok_iff.1 h
    rfl
  · exact ((bodyOf_eq_ok_iff htag body).1 h).1

/-- The checks accept a message of a known kind exactly if the grammar has it. -/
lemma ofFields_eq_ok_iff {fields : Fields} {m : Message} (h : m.body.tag ≠ .unhandled) :
    ofFields fields = .ok m ↔ m.IsWritten fields := by
  rw [ofFields_eq_ok]
  constructor
  · rintro ⟨hid, hbody, hextra⟩
    have htag : m.body.tag = Tag.ofFields fields := tag_of_bodyOf hbody
    rw [← htag] at hbody hextra
    exact ⟨htag ▸ Tag.selected_ofFields (htag ▸ h), hid, ((bodyOf_eq_ok_iff h _).1 hbody).2, hextra⟩
  · rintro ⟨htag, hid, hbody, hextra⟩
    rw [Tag.ofFields_of_selected htag]
    exact ⟨hid, (bodyOf_eq_ok_iff h _).2 ⟨rfl, hbody⟩, hextra⟩

lemma IsWritten.tag_ne {fields : Fields} {m : Message} (h : m.IsWritten fields) :
    m.body.tag ≠ .unhandled := by
  intro htag
  have hselected := h.tag
  rw [htag] at hselected
  cases hselected

/-- What the grammar has is what the object gives. -/
lemma interpret_eq_of_isWritten {fields : Fields} {m : Message} (h : m.IsWritten fields) :
    interpret (.obj fields) = m := by
  rw [interpret, (ofFields_eq_ok_iff h.tag_ne).2 h]

/-- A message of a known kind comes from an object of the grammar. -/
lemma isWritten_of_interpret {v : Json} (h : (interpret v).body.tag ≠ .unhandled) :
    ∃ fields, v = .obj fields ∧ (interpret v).IsWritten fields := by
  cases v with
  | obj fields =>
    refine ⟨fields, rfl, ?_⟩
    rw [interpret] at h ⊢
    split at h
    · rename_i m hm
      exact (ofFields_eq_ok_iff h).1 hm
    · exact absurd rfl h
  | _ => exact absurd rfl h

/-- A line about a piece that was accepted. -/
def fragmentLine : List Char :=
  ("\x7b\"kind\":\"message\",\"level\":\"progress\",\"query-id\":\"2\",\"more\":[],\"contents\":" ++
    "\x7b\"stage\":\"full-buffer-fragment-ok\",\"ranges\":\x7b\"beg\":[true,0]," ++
    "\"end\":[\"2\",4.0]\x7d\x7d\x7d").toList

/-- Every line of JSON gives a message. It is of a known kind exactly if the line is an object with
the words of this kind and its shape, and then it is the message that the grammar has; anything else
is put aside, with the number of errors if the words were right. -/
theorem parse_follows_grammar [Limits] (line : List Char) (v : Json) (h : Json.read line = .ok v) :
    ∃ m, parse line = .ok m ∧
      (∀ tag, tag ≠ .unhandled →
        (m.body.tag = tag ↔ ∃ (fields : Fields) (m' : Message),
          v = .obj fields ∧ m'.body.tag = tag ∧ m'.IsWritten fields)) ∧
      (∀ (fields : Fields) (m' : Message), v = .obj fields → m'.IsWritten fields → m = m') ∧
      (∀ (fields : Fields) (tag : Tag), v = .obj fields → Tag.Selected fields tag →
        (∀ m' : Message, ¬m'.IsWritten fields) →
          ∃ n, m = aside ((fields.get? (Text.ofString "kind")).getD .null) (errorCount n)) ∧
      ((∀ fields, v ≠ .obj fields) →
        m = aside .null ("expected an object, got " ++ v.typeName)) := by
  refine ⟨interpret v, by rw [parse, h]; rfl, fun tag htag => ⟨?_, ?_⟩, ?_, ?_, ?_⟩
  · rintro rfl
    obtain ⟨fields, hv, hwritten⟩ := isWritten_of_interpret htag
    exact ⟨fields, _, hv, rfl, hwritten⟩
  · rintro ⟨fields, m', rfl, hm', hwritten⟩
    rw [interpret_eq_of_isWritten hwritten, hm']
  · rintro fields m' rfl hwritten
    exact interpret_eq_of_isWritten hwritten
  · rintro fields tag rfl hselected hnone
    have htag : tag ≠ .unhandled := by
      rintro rfl
      cases hselected
    rw [interpret]
    rcases hm : ofFields fields with n | m
    · exact ⟨n, rfl⟩
    · have hbody := tag_of_bodyOf (ofFields_eq_ok.1 hm).2.1
      rw [Tag.ofFields_of_selected hselected] at hbody
      exact absurd ((ofFields_eq_ok_iff (hbody ▸ htag)).1 hm) (hnone m)
  · intro hv
    cases v with
    | obj fields => exact absurd rfl (hv fields)
    | _ => rfl

/-- The id is a text, one line number is a truth value and one name is not declared. -/
theorem parse_follows_grammar_progress :
    ∃ line v m, Json.read line = .ok v ∧ parse line = .ok m ∧ m.body.tag = .progress ∧
      ∃ (fields : Fields) (m' : Message),
        v = .obj fields ∧ m'.body.tag = .progress ∧ m'.IsWritten fields := by
  have hread : ((parse fragmentLine).toOption.map fun m => m.body.tag) = some .progress := by
    decide +kernel
  rcases hv : Json.read fragmentLine with e | v
  · rw [parse, hv] at hread
    cases hread
  · obtain ⟨m, hm, hgrammar, -⟩ := parse_follows_grammar fragmentLine v hv
    rw [hm] at hread
    have htag : m.body.tag = .progress := Option.some.inj hread
    exact ⟨fragmentLine, v, m, hv, hm, htag, (hgrammar .progress (by decide)).1 htag⟩

end Message

end ProverLink
