import ProverLink.Proofs.Dispatch
import ProverLink.Registry.Basic

/-!
# Laws of the registry

What the parts of a registry are after each change of it, and what the operations on it come down
to. Later proofs look at a registry through `find?`, `session?` and `child?` only.
-/

namespace ProverLink

namespace Registry

/-! ### Parts after a change -/

lemma getElem?_updateSlot (r : Registry) (id j : Nat) (f : Slot → Slot) :
    (r.updateSlot id f).slots[j]? = if id = j then r.slots[j]?.map f else r.slots[j]? := by
  rw [updateSlot, List.getElem?_modify]
  by_cases h : id = j
  · simp [h]
  · simp [h]

lemma job?_updateSlot (r : Registry) (id j : Nat) (f : Slot → Slot) :
    (r.updateSlot id f).job? j = if id = j then r.slots[j]?.bind fun sl => (f sl).job
      else r.job? j := by
  rw [job?, getElem?_updateSlot]
  split
  · rw [Option.bind_map]
    rfl
  · rfl

lemma child?_updateSlot (r : Registry) (id j : Nat) (f : Slot → Slot) :
    (r.updateSlot id f).child? j = if id = j then r.slots[j]?.map fun sl => (f sl).child
      else r.child? j := by
  rw [child?, getElem?_updateSlot]
  split
  · rw [Option.map_map]
    rfl
  · rfl

lemma job?_updateJob (r : Registry) (id j : Nat) (f : Job → Job) :
    (r.updateJob id f).job? j = if id = j then (r.job? j).map f else r.job? j := by
  rw [updateJob, job?_updateSlot, job?]
  cases r.slots[j]? <;> rfl

lemma session?_updateJob (r : Registry) (id j : Nat) (f : Job → Job) :
    (r.updateJob id f).session? j
      = if id = j then (r.job? j).map fun job => (f job).session else r.session? j := by
  rw [session?, job?_updateJob]
  split
  · rw [Option.map_map]
    rfl
  · rfl

lemma session?_updateSession (r : Registry) (id j : Nat) (f : Session → Session) :
    (r.updateSession id f).session? j
      = if id = j then (r.session? j).map f else r.session? j := by
  rw [updateSession, session?_updateJob, session?, Option.map_map]
  rfl

@[simp] lemma session?_updateChild (r : Registry) (id j : Nat) (f : Child → Child) :
    (r.updateChild id f).session? j = r.session? j := by
  rw [session?, updateChild, job?_updateSlot]
  split <;> rfl

lemma child?_updateChild (r : Registry) (id j : Nat) (f : Child → Child) :
    (r.updateChild id f).child? j = if id = j then (r.child? j).map f else r.child? j := by
  rw [updateChild, child?_updateSlot, child?, Option.map_map]
  rfl

@[simp] lemma child?_updateJob (r : Registry) (id j : Nat) (f : Job → Job) :
    (r.updateJob id f).child? j = r.child? j := by
  rw [updateJob, child?_updateSlot]
  split <;> rfl

@[simp] lemma child?_updateSession (r : Registry) (id j : Nat) (f : Session → Session) :
    (r.updateSession id f).child? j = r.child? j := child?_updateJob ..

/-- A document that is taken out is the only one that is not found any more. -/
lemma find?_unregister (r : Registry) (uri v : String) :
    (r.unregister uri).find? v = if v = uri then none else r.find? v := by
  rw [find?, unregister, List.find?_filter]
  by_cases h : v = uri
  · subst h
    rw [if_pos rfl, List.find?_eq_none.2]
    · rfl
    · intro e _
      simp
  · rw [if_neg h, find?]
    congr 2
    funext e
    by_cases he : e.1 = v
    · simp [he, h]
    · simp [he]

lemma find?_register (r : Registry) (uri v : String) (id : Nat) :
    (r.register uri id).find? v = if v = uri then some id else r.find? v := by
  have hu := find?_unregister r uri v
  rw [find?] at hu ⊢
  rw [register, List.find?_append]
  by_cases h : v = uri
  · subst h
    rw [if_pos rfl, Option.map_eq_none_iff] at hu
    simp [hu]
  · rw [if_neg h] at hu ⊢
    simpa [Ne.symm h] using hu

/-- A session that is found has a process. -/
lemma exists_child_of_session {r : Registry} {id : Nat} {s : Session} (h : r.session? id = some s) :
    ∃ c, r.child? id = some c := by
  rw [session?, job?] at h
  cases hs : r.slots[id]? with
  | none => simp [hs] at h
  | some sl => exact ⟨sl.child, by simp [child?, hs]⟩

lemma updateSession_const_self {r : Registry} {id : Nat} {s : Session}
    (h : r.session? id = some s) : (r.updateSession id fun _ => s) = r := by
  have hslots : (r.updateSession id fun _ => s).slots = r.slots := by
    apply List.ext_getElem?
    intro j
    rw [updateSession, updateJob, getElem?_updateSlot]
    by_cases hj : id = j
    · subst hj
      rw [session?, job?] at h
      rcases hs : r.slots[id]? with _ | ⟨c, _ | job⟩
      · simp
      · simp
      · simp only [hs, Option.bind_some, Option.map_some, Option.some.injEq] at h
        subst h
        simp
    · rw [if_neg hj]
  cases r
  simp only [updateSession, updateJob, updateSlot] at hslots ⊢
  rw [hslots]

lemma updateJob_updateJob (r : Registry) (id : Nat) (f g : Job → Job) :
    (r.updateJob id f).updateJob id g = r.updateJob id (g ∘ f) := by
  simp only [updateJob, updateSlot, List.modify_modify_eq]
  congr 2
  funext sl
  simp [Option.map_map]

/-! ### Acts on a session -/

lemma run_onSession {α : Type} {r : Registry} {id : Nat} {s : Session}
    (h : r.session? id = some s) (absent : α) (act : Act Session α) :
    (onSession id absent act).run r
      = { result := (act.run s).result, state := r.updateSession id fun _ => (act.run s).state,
          trace := (act.run s).trace } := by
  simp [onSession, Act.run, h, Act.focus]

end Registry

end ProverLink
