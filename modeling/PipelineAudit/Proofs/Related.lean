import Mathlib.Data.List.Forall2
import Mathlib.Data.List.Nodup

/-!
# Lists related one by one

What keeps the members of two lists related one by one, and what it says about single members; and
what is found by name in a list whose members have distinct names.
-/

namespace PipelineAudit

variable {α β γ : Type} {R : α → β → Prop} {S : γ → β → Prop}

theorem forall₂_set {as : List α} {bs : List β} (h : List.Forall₂ R as bs) {i : Nat} {a : α}
    (ha : ∀ b, bs[i]? = some b → R a b) :
  List.Forall₂ R (as.set i a) bs
  := by
  induction h generalizing i with
  | nil => exact .nil
  | cons hab _ ih =>
    cases i with
    | zero => exact .cons (ha _ rfl) ‹_›
    | succ i => exact .cons hab (ih ha)

theorem forall₂_modify {as : List α} {bs : List β} (h : List.Forall₂ R as bs) {i : Nat}
    {f : α → α} (hf : ∀ a b, bs[i]? = some b → R a b → R (f a) b) :
  List.Forall₂ R (as.modify i f) bs
  := by
  induction h generalizing i with
  | nil => cases i <;> exact .nil
  | cons hab _ ih =>
    cases i with
    | zero => exact .cons (hf _ _ rfl hab) ‹_›
    | succ i => exact .cons hab (ih hf)

/-- The members at an index are related, if there are any. -/
theorem getElem?_rel {as : List α} {bs : List β} (h : List.Forall₂ R as bs) (i : Nat) :
  Option.Rel R as[i]? bs[i]?
  := by
  induction h generalizing i with
  | nil => exact .none
  | cons hab _ ih =>
    cases i with
    | zero => exact .some hab
    | succ i => exact ih i

theorem exists_of_mem_left {as : List α} {bs : List β} (h : List.Forall₂ R as bs) {a : α}
    (ha : a ∈ as) :
  ∃ b ∈ bs, R a b
  := by
  induction h with
  | nil => cases ha
  | cons hab _ ih =>
    cases ha with
    | head => exact ⟨_, .head _, hab⟩
    | tail _ ha =>
      obtain ⟨b, hb, hr⟩ := ih ha
      exact ⟨b, .tail _ hb, hr⟩

theorem exists_of_mem_right {as : List α} {bs : List β} (h : List.Forall₂ R as bs) {b : β}
    (hb : b ∈ bs) :
  ∃ a ∈ as, R a b
  := exists_of_mem_left h.flip hb

theorem find?_rel {κ : Type} {es : List (κ × α)} {fs : List (κ × β)}
    (h : List.Forall₂ (fun e f => e.1 = f.1 ∧ R e.2 f.2) es fs) (test : κ → Bool) :
  Option.Rel R ((es.find? fun e => test e.1).map (·.2)) ((fs.find? fun f => test f.1).map (·.2))
  := by
  induction h with
  | nil => exact .none
  | cons hef _ ih =>
    rw [List.find?_cons, List.find?_cons, hef.1]
    split
    · exact .some hef.2
    · exact ih

theorem forall₂_mapIdx {as : List α} {bs : List β} (h : List.Forall₂ R as bs) {f : Nat → α → γ}
    (hf : ∀ i a b, bs[i]? = some b → R a b → S (f i a) b) :
  List.Forall₂ S (as.mapIdx f) bs
  := by
  induction h generalizing f with
  | nil => exact .nil
  | cons hab _ ih =>
    rw [List.mapIdx_cons]
    exact .cons (hf 0 _ _ rfl hab) (ih fun i a b hb => hf (i + 1) a b hb)

/-- Two lists have the same images if and only if their members, one by one, have the same image. -/
theorem map_eq_map_iff_forall₂ {f : α → γ} {g : β → γ} {as : List α} {bs : List β}
    (h : ∀ a ∈ as, ∀ b ∈ bs, f a = g b ↔ R a b) :
  as.map f = bs.map g ↔ List.Forall₂ R as bs
  := by
  induction as generalizing bs with
  | nil => simp [eq_comm]
  | cons a as ih =>
    cases bs with
    | nil => simp
    | cons b bs =>
      have hhead := h a List.mem_cons_self b List.mem_cons_self
      have htail := ih fun a' ha b' hb =>
        h a' (List.mem_cons_of_mem a ha) b' (List.mem_cons_of_mem b hb)
      rw [List.map_cons, List.map_cons, List.cons.injEq, hhead, htail, List.forall₂_cons]

/-- A computation on each member succeeds on a list with the results of the members. -/
theorem mapM_eq_some_iff {f : α → Option β} {as : List α} {bs : List β} :
  as.mapM f = some bs ↔ List.Forall₂ (fun a b => f a = some b) as bs
  := by
  induction as generalizing bs with
  | nil => simp [eq_comm]
  | cons a rest ih =>
    rw [List.mapM_cons, List.forall₂_cons_left_iff]
    cases hf : f a with
    | none => simp
    | some b =>
      cases hr : rest.mapM f with
      | none => simp [← ih, hr]
      | some bs' => simp [← ih, hr, eq_comm]

/-- A computation that succeeds on each member succeeds on a list, with the results of the
members. -/
theorem mapM_eq_some_map {f : α → Option β} {g : α → β} {as : List α}
    (h : ∀ a ∈ as, f a = some (g a)) :
  as.mapM f = some (as.map g)
  := by
  rw [mapM_eq_some_iff, List.forall₂_map_right_iff, List.forall₂_same]
  exact h

/-- A computation on each member succeeds on a list if it does so on all members. -/
theorem mapM_isSome_iff {f : α → Option β} {as : List α} :
  (as.mapM f).isSome ↔ ∀ a ∈ as, (f a).isSome
  := by
  induction as with
  | nil => simp
  | cons a rest ih =>
    rw [List.mapM_cons, List.forall_mem_cons, ← ih]
    cases f a with
    | none => simp
    | some b => cases rest.mapM f <;> simp

/-- A computation on each member fails on a list if it does so on some member. -/
theorem mapM_eq_none_iff {f : α → Option β} {as : List α} :
  as.mapM f = none ↔ ∃ a ∈ as, f a = none
  := by
  rw [← Option.not_isSome_iff_eq_none, mapM_isSome_iff]
  simp

/-- A computation that may go wrong on each member succeeds on a list with the results of the
members. -/
theorem mapM_eq_ok_iff {ε : Type} {f : α → Except ε β} {as : List α} {bs : List β} :
  as.mapM f = .ok bs ↔ List.Forall₂ (fun a b => f a = .ok b) as bs
  := by
  induction as generalizing bs with
  | nil => simp [pure, Except.pure, eq_comm]
  | cons a rest ih =>
    rw [List.mapM_cons, List.forall₂_cons_left_iff]
    cases hf : f a with
    | error e => simp [bind, Except.bind]
    | ok b =>
      cases hr : rest.mapM f with
      | error e => simp [bind, Except.bind, ← ih, hr]
      | ok bs' => simp [bind, Except.bind, pure, Except.pure, ← ih, hr, eq_comm]

/-! ### Names -/

/-- Among members of distinct names, the name of a member is that of one that passes a test if and
only if the member itself passes it. -/
theorem mem_map_filter_iff {f : α → β} {as : List α} (hn : (as.map f).Nodup) (test : α → Bool)
    {a : α} (ha : a ∈ as) :
  f a ∈ (as.filter test).map f ↔ test a
  := by
  constructor
  · intro h
    obtain ⟨b, hb, he⟩ := List.mem_map.mp h
    obtain ⟨hb, ht⟩ := List.mem_filter.mp hb
    rwa [← List.inj_on_of_nodup_map hn hb ha he]
  · intro ht
    exact List.mem_map_of_mem (List.mem_filter.mpr ⟨ha, ht⟩)

/-- Two different members make more than one. -/
theorem one_lt_length_of_ne {as : List α} {a b : α} (ha : a ∈ as) (hb : b ∈ as) (hne : a ≠ b) :
  1 < as.length
  := by
  match as with
  | [c] => exact absurd ((List.mem_singleton.mp ha).trans (List.mem_singleton.mp hb).symm) hne
  | _ :: _ :: rest => exact Nat.succ_lt_succ (Nat.succ_pos rest.length)

theorem lookup_cons_eq (name : String) (pair : String × α) (pairs : List (String × α)) :
  (pair :: pairs).lookup name = if name = pair.1 then some pair.2 else pairs.lookup name
  := by
  obtain ⟨key, value⟩ := pair
  rw [List.lookup_cons]
  by_cases h : name = key
  · simp [h]
  · simp [h, beq_eq_false_iff_ne.mpr h]

/-- Among pairs of distinct names, a pair is the one found under its name. -/
theorem mem_iff_lookup_eq_some {pairs : List (String × α)} (hn : (pairs.map (·.1)).Nodup)
    {name : String} {value : α} :
  (name, value) ∈ pairs ↔ pairs.lookup name = some value
  := by
  induction pairs with
  | nil => simp
  | cons pair pairs ih =>
    rw [List.map_cons, List.nodup_cons] at hn
    rw [lookup_cons_eq, List.mem_cons]
    by_cases hs : name = pair.1
    · have hm : (name, value) ∉ pairs := fun hm => hn.1 (hs ▸ List.mem_map_of_mem hm)
      rw [if_pos hs, or_iff_left hm, Prod.ext_iff, Option.some.injEq]
      simp [hs, eq_comm]
    · simp [hs, ih hn.2, Prod.ext_iff]

end PipelineAudit
