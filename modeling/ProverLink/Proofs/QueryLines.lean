import ProverLink.Proofs.Rereading

/-!
# Queries on one line

A query that holds no surrogate, no floating point number, no overlong integer and no name twice,
and whose arguments are not nested too deeply, is written on a line of its own and read from there
as the object that it stands for. The bound on the nesting is the only one that such a query can
break.
-/

namespace ProverLink

namespace Json

/-! ### Nesting -/

lemma depth_pos (v : Json) : 0 < v.depth := by
  cases v <;> simp [depth]

lemma unwritableText?_eq_none {t : Text} (h : t.hasSurrogate = false) :
    unwritableText? t = none := by
  simp [unwritableText?, h]

mutual

/-- The only thing that keeps a plain value from being written is its depth. -/
lemma unwritable?_eq_none_iff (room : Nat) (v : Json) (h : v.IsPlain) :
    unwritable? room v = none ↔ v.depth ≤ room := by
  cases room with
  | zero =>
    have hpos := v.depth_pos
    simp only [unwritable?, reduceCtorEq, false_iff]
    omega
  | succ room =>
    cases v with
    | null => simp [unwritable?, depth]
    | bool b => simp [unwritable?, depth]
    | int i => simp [unwritable?, depth]
    | float x => exact absurd h id
    | str t => simp [unwritable?, depth, unwritableText?_eq_none h]
    | arr items =>
      rw [unwritable?, depth, Nat.add_le_add_iff_right]
      exact unwritableItem?_eq_none_iff room items h
    | obj fields =>
      rw [unwritable?, depth, Nat.add_le_add_iff_right]
      exact unwritableField?_eq_none_iff room fields h.2

lemma unwritableItem?_eq_none_iff (room : Nat) (items : List Json) (h : ArePlain items) :
    unwritableItem? room items = none ↔ depthOfItems items ≤ room := by
  cases items with
  | nil => simp [unwritableItem?, depthOfItems]
  | cons v rest =>
    rw [unwritableItem?, depthOfItems, Option.or_eq_none_iff, Nat.max_le,
      unwritable?_eq_none_iff room v h.1, unwritableItem?_eq_none_iff room rest h.2]

lemma unwritableField?_eq_none_iff (room : Nat) (fields : List (Text × Json))
    (h : HavePlain fields) :
    unwritableField? room fields = none ↔ depthOfFields fields ≤ room := by
  cases fields with
  | nil => simp [unwritableField?, depthOfFields]
  | cons f rest =>
    obtain ⟨name, v⟩ := f
    rw [unwritableField?, depthOfFields, Option.or_eq_none_iff, Option.or_eq_none_iff, Nat.max_le,
      unwritable?_eq_none_iff room v h.2.1, unwritableField?_eq_none_iff room rest h.2.2,
      unwritableText?_eq_none h.1]
    simp

end

lemma depthOfFields_le {fields : List (Text × Json)} {n : Nat}
    (h : ∀ f ∈ fields, f.2.depth ≤ n) : depthOfFields fields ≤ n := by
  induction fields with
  | nil => exact Nat.zero_le n
  | cons f rest ih =>
    rw [List.forall_mem_cons] at h
    exact Nat.max_le.2 ⟨h.1, ih h.2⟩

lemma HavePlain.of_mem {fields : List (Text × Json)} (h : HavePlain fields) {f : Text × Json}
    (hf : f ∈ fields) : f.1.hasSurrogate = false ∧ f.2.IsPlain := by
  induction fields with
  | nil => cases hf
  | cons g rest ih =>
    rcases List.mem_cons.1 hf with rfl | hf
    · exact ⟨h.1, h.2.1⟩
    · exact ih h.2.2 hf

end Json

lemma Text.mended_of_plain {t : Text} (h : t.hasSurrogate = false) : t.mended = t := by
  rw [hasSurrogate, List.any_eq_false] at h
  have hself : ∀ p ∈ t,
      (if p.isSurrogate then List.replicate 3 (.ofChar '�') else [p]) = [p] :=
    fun p hp => if_neg (h p hp)
  rw [mended, List.flatMap_congr hself, List.flatMap_singleton']

namespace Query

/-! ### Queries -/

/-- Whether a query is read again as it was. -/
structure IsPlain (q : Query) : Prop where
  name : q.name.hasSurrogate = false
  args : (Json.obj q.args).IsPlain
  depth : ∀ a ∈ q.args, a.2.depth ≤ Json.maxDepth
  id : ∀ t, q.id = some t → t.hasSurrogate = false

lemma idJson_injective {q q' : Query} (h : q.idJson = q'.idJson) : q.id = q'.id := by
  rw [idJson, idJson] at h
  rcases hq : q.id with _ | t <;> rcases hq' : q'.id with _ | t' <;> simp_all

lemma depth_idJson (q : Query) : q.idJson.depth = 1 := by
  rw [idJson]
  cases q.id <;> rfl

section Plain

variable {q : Query} (h : q.IsPlain)

include h

lemma IsPlain.idJson : q.idJson.IsPlain := by
  rw [Query.idJson]
  cases hid : q.id with
  | none => trivial
  | some t => exact h.id t hid

/-- No name of an argument is mended. -/
lemma IsPlain.toJson_eq :
    q.toJson = .obj [(Text.ofString "query", .str q.name), (Text.ofString "args", .obj q.args),
      (Text.ofString "query-id", q.idJson)] := by
  have hself : (q.args.map fun a => (a.1.mended, a.2)) = q.args := by
    refine (List.map_congr_left fun a ha => ?_).trans (List.map_id _)
    rw [Text.mended_of_plain (h.args.2.of_mem ha).1]
    rfl
  rw [toJson, hself]

lemma IsPlain.toJson : q.toJson.IsPlain := by
  rw [h.toJson_eq]
  refine ⟨?_, Text.hasSurrogate_ofChars _, h.name, Text.hasSurrogate_ofChars _, h.args,
    Text.hasSurrogate_ofChars _, h.idJson, trivial⟩
  simp only [List.map_cons, List.map_nil]
  decide

/-- The arguments are in an object, and that is in the object of the query. -/
lemma IsPlain.depth_toJson : q.toJson.depth ≤ Json.maxDepth + 2 := by
  have hargs : Json.depthOfFields q.args ≤ Json.maxDepth := Json.depthOfFields_le h.depth
  have hid : q.idJson.depth = 1 := q.depth_idJson
  rw [h.toJson_eq]
  simp only [Json.depth, Json.depthOfFields, hid]
  omega

lemma IsPlain.toLine_eq : q.toLine = .ok (q.toJson.chars ++ ['\n']) := by
  have hroom : ∀ v : Json, v.IsPlain → v.depth = 1 → Json.unwritable? Json.maxDepth v = none := by
    intro v hv hdepth
    rw [Json.unwritable?_eq_none_iff _ v hv, hdepth]
    decide
  apply toLine_of_writable
  intro v hv
  simp only [List.cons_append, List.mem_cons, List.mem_append, List.mem_map, List.not_mem_nil,
    or_false] at hv
  rcases hv with rfl | ⟨a, ha, rfl⟩ | rfl
  · exact hroom _ h.name rfl
  · exact (Json.unwritable?_eq_none_iff _ _ (h.args.2.of_mem ha).2).2 (h.depth a ha)
  · exact hroom _ h.idJson q.depth_idJson

end Plain

/-- A plain query is written as a line: one line break, which is the last character, and no other
control character below the space. What is read from the line is the object with the name, the
arguments and the id of the query, so no other plain query has the same line. -/
theorem toLine_is_read_as_query [Limits] {q : Query} (h : q.IsPlain) :
    (∃ line, q.toLine = .ok line ∧ line.getLast? = some '\n' ∧ line.count '\n' = 1 ∧
      (∀ c ∈ line, c.toNat < 0x20 → c = '\n') ∧
      Json.read line = .ok (.obj [(Text.ofString "query", .str q.name),
        (Text.ofString "args", .obj q.args), (Text.ofString "query-id", q.idJson)])) ∧
    ∀ q' : Query, q'.IsPlain → q'.toLine = q.toLine → q' = q := by
  have hread : ∀ p : Query, p.IsPlain → Json.read (p.toJson.chars ++ ['\n']) = .ok p.toJson :=
    fun p hp => Json.read_chars_append hp.toJson hp.depth_toJson (List.forall_mem_singleton.2 rfl)
  refine ⟨⟨_, h.toLine_eq, by simp, ?_, fun c hc hcontrol => ?_, ?_⟩, fun q' h' hline => ?_⟩
  · rw [List.count_append, List.count_eq_zero_of_not_mem (Json.newline_notMem_chars _ h.toJson)]
    rfl
  · rcases List.mem_append.1 hc with hc | hc
    · exact absurd (Json.le_of_mem_chars _ h.toJson hc) (Nat.not_le.2 hcontrol)
    · exact List.mem_singleton.1 hc
  · rw [hread q h, h.toJson_eq]
  · -- equal lines are read as equal objects, which hold all that makes up a query
    rw [h.toLine_eq, h'.toLine_eq, Except.ok.injEq] at hline
    have hjson : q'.toJson = q.toJson := by
      have hboth := (hread q' h').symm.trans (hline ▸ hread q h)
      exact Except.ok.inj hboth
    rw [h.toJson_eq, h'.toJson_eq] at hjson
    simp only [Json.obj.injEq, List.cons.injEq, Prod.mk.injEq, true_and, and_true,
      Json.str.injEq] at hjson
    obtain ⟨hname, hargs, hid⟩ := hjson
    have hid := idJson_injective hid
    cases q
    cases q'
    simp_all

/-- A query with a nested argument, an integer below zero, and a text of characters that are escaped
and characters that are not. -/
def nestedQuery : Query :=
  { name := Text.ofString "lookup"
    args := [(Text.ofString "symbol", .str (Text.ofString "\"\\\n\x01\x7fé𝄞")),
      (Text.ofString "",
        .arr [.null, .bool false, .int (-120), .obj [(Text.ofString "k", .arr [])]])] }

theorem nestedQuery_is_read_as_query :
    nestedQuery.IsPlain ∧ ∃ line, nestedQuery.toLine = .ok line ∧ line.count '\n' = 1 ∧
      Json.read line = .ok (.obj [(Text.ofString "query", .str nestedQuery.name),
        (Text.ofString "args", .obj nestedQuery.args), (Text.ofString "query-id", .null)]) := by
  have hplain : nestedQuery.IsPlain := by
    refine ⟨by decide, ⟨by decide, ?_⟩, by decide, fun t ht => by cases ht⟩
    simp only [nestedQuery, Json.HavePlain, Json.IsPlain, Json.ArePlain, and_true, true_and]
    decide
  obtain ⟨line, hline, -, hcount, -, hread⟩ := (toLine_is_read_as_query hplain).1
  exact ⟨hplain, line, hline, hcount, hread⟩

end Query

end ProverLink
