import PipelineAudit.Document.Access
import PipelineAudit.Proofs.Related

/-!
# Places in a document

A part that is taken out of a document is written out as a document of its own, and one container
may be written out in many ways.  A `Place` is a part as the document has it: what is written there,
and the containers around it, from the inside out.  A reference to an enclosing container leads back
to the place of that container.

A document `depicts` a place if both look the same to whoever goes down into them.

* `depicts_self`: a closed document depicts the place of its root.
* `items_depict`, `entries_depict`, `get_depicts`: what is taken out of a document that depicts a
  place depicts what lies at that place.
* `isClosed_of_mem_items`, `isClosed_of_mem_entries`, `isClosed_get`: parts of closed documents are
  closed.
-/

namespace PipelineAudit.Document

/-- A part of a document: what is written there, and the containers around it, from the inside
out. -/
structure Place where
  written : Document
  around : List Document

namespace Place

/-- The place that a document has nothing at. -/
def nowhere : Place := ⟨.null, []⟩

/-- The places of some containers that lie in each other, from the inside out. -/
def enclosing : List Document → List Place
  | [] => []
  | c :: rest => ⟨c, rest⟩ :: enclosing rest

/-- The place of a part inside of some containers; a reference leads to the container it stands
for. -/
def resolve (around : List Document) : Document → Place
  | .up level => ((enclosing around)[level]?).getD nowhere
  | d => ⟨d, around⟩

/-- The places of the items of a list. -/
def items (p : Place) : List Place :=
  match p.written with
  | .list ds => ds.map (resolve (p.written :: p.around))
  | _ => []

/-- The keys of a mapping with the places of their values. -/
def entries (p : Place) : List (Key × Place) :=
  match p.written with
  | .map es => es.map fun e => (e.1, resolve (p.written :: p.around) e.2)
  | _ => []

/-- The place of the value that a mapping has under a name. -/
def get? (p : Place) (name : String) : Option Place :=
  (p.entries.find? (·.1.isText name)).map (·.2)

/-- The place of the value under a name, nowhere if there is none. -/
def get (p : Place) (name : String) : Place :=
  (p.get? name).getD nowhere

end Place

/-! ### Depiction -/

mutual

/-- Whether a document, whose references out of it lead to the places `env`, looks like a place. -/
def depicts (env : List Place) : Document → Place → Prop
  | scalar s, p => p.written = scalar s
  | list ds, p => p.written.isList ∧ itemsDepict (p :: env) ds p.items
  | map es, p => p.written.isMap ∧ entriesDepict (p :: env) es p.entries
  | up level, p => env[level]? = some p

/-- Whether some documents look like some places, one by one. -/
def itemsDepict (env : List Place) : List Document → List Place → Prop
  | [], [] => True
  | d :: ds, p :: ps => d.depicts env p ∧ itemsDepict env ds ps
  | _, _ => False

/-- Whether some entries have the keys and look like the places of others, one by one. -/
def entriesDepict (env : List Place) : List (Key × Document) → List (Key × Place) → Prop
  | [], [] => True
  | (k, d) :: es, (l, p) :: fs => (k = l ∧ d.depicts env p) ∧ entriesDepict env es fs
  | _, _ => False

end

theorem itemsDepict_iff {env : List Place} {ds : List Document} {ps : List Place} :
  itemsDepict env ds ps ↔ List.Forall₂ (depicts env) ds ps
  := by
  induction ds generalizing ps with
  | nil => cases ps <;> simp [itemsDepict]
  | cons d rest ih => cases ps <;> simp [itemsDepict, ih]

theorem entriesDepict_iff {env : List Place} {es : List (Key × Document)}
    {fs : List (Key × Place)} :
  entriesDepict env es fs ↔ List.Forall₂ (fun e f => e.1 = f.1 ∧ e.2.depicts env f.2) es fs
  := by
  induction es generalizing fs with
  | nil => cases fs <;> simp [entriesDepict]
  | cons e rest ih => cases fs <;> simp [entriesDepict, ih]

mutual

/-- A document keeps looking like a place when there are more places around. -/
theorem depicts_append {env : List Place} (more : List Place) {d : Document} {p : Place}
    (h : d.depicts env p) :
  d.depicts (env ++ more) p
  := by
  match d with
  | scalar _ => exact h
  | list _ =>
    rw [depicts] at h ⊢
    exact ⟨h.1, itemsDepict_append more h.2⟩
  | map _ =>
    rw [depicts] at h ⊢
    exact ⟨h.1, entriesDepict_append more h.2⟩
  | up level =>
    rw [depicts] at h ⊢
    rw [List.getElem?_append_left (List.getElem?_eq_some_iff.mp h).1]
    exact h

theorem itemsDepict_append {env : List Place} (more : List Place) {ds : List Document}
    {ps : List Place} (h : itemsDepict env ds ps) :
  itemsDepict (env ++ more) ds ps
  := by
  match ds, ps with
  | [], [] => trivial
  | _ :: _, _ :: _ => exact ⟨depicts_append more h.1, itemsDepict_append more h.2⟩

theorem entriesDepict_append {env : List Place} (more : List Place) {es : List (Key × Document)}
    {fs : List (Key × Place)} (h : entriesDepict env es fs) :
  entriesDepict (env ++ more) es fs
  := by
  match es, fs with
  | [], [] => trivial
  | _ :: _, _ :: _ =>
    exact ⟨⟨h.1.1, depicts_append more h.1.2⟩, entriesDepict_append more h.2⟩

end

/-! ### Parts that are taken out -/

/-- Whether what is grafted in for a container looks like it, inside of the part and whatever lies
in the part. -/
def StandsFor (around : Nat → Document) (container part : Place) : Prop :=
  ∀ env, env.getLast? = some part → (around env.length).depicts env container

section

variable {around : Nat → Document} {container part : Place}

mutual

/-- Grafting a container into a part of it keeps what the part looks like. -/
theorem depicts_graft (ha : StandsFor around container part) (env : List Place)
    (he : env.getLast? = some part) {d : Document} {p : Place}
    (h : d.depicts (env ++ [container]) p) :
  (d.graft around env.length).depicts env p
  := by
  match d with
  | scalar _ => exact h
  | list _ =>
    rw [graft, depicts]
    rw [depicts] at h
    exact ⟨h.1, itemsDepict_graft ha (p :: env) (by simp [List.getLast?_cons, he]) h.2⟩
  | map _ =>
    rw [graft, depicts]
    rw [depicts] at h
    exact ⟨h.1, entriesDepict_graft ha (p :: env) (by simp [List.getLast?_cons, he]) h.2⟩
  | up level =>
    rw [depicts] at h
    rw [graft]
    split
    case isTrue hl =>
      -- the reference leads to the container, and is replaced by it
      rw [hl, List.getElem?_concat_length] at h
      cases h
      exact ha env he
    case isFalse hl =>
      have hlt : level < env.length := by
        have := (List.getElem?_eq_some_iff.mp h).1
        rw [List.length_append, List.length_singleton] at this
        omega
      rw [List.getElem?_append_left hlt] at h
      exact h

theorem itemsDepict_graft (ha : StandsFor around container part) (env : List Place)
    (he : env.getLast? = some part) {ds : List Document} {ps : List Place}
    (h : itemsDepict (env ++ [container]) ds ps) :
  itemsDepict env (graftItems around env.length ds) ps
  := by
  match ds, ps with
  | [], [] => trivial
  | _ :: _, _ :: _ => exact ⟨depicts_graft ha env he h.1, itemsDepict_graft ha env he h.2⟩

theorem entriesDepict_graft (ha : StandsFor around container part) (env : List Place)
    (he : env.getLast? = some part) {es : List (Key × Document)} {fs : List (Key × Place)}
    (h : entriesDepict (env ++ [container]) es fs) :
  entriesDepict env (graftEntries around env.length es) fs
  := by
  match es, fs with
  | [], [] => trivial
  | _ :: _, _ :: _ =>
    exact ⟨⟨h.1.1, depicts_graft ha env he h.1.2⟩, entriesDepict_graft ha env he h.2⟩

end

end

/-- A part that is taken out of a container looks like before, if the container with a reference in
place of the part looks like the container. -/
theorem takeOut_depicts {c : Document} {i : Nat} {p q : Place}
    (hc : ∀ env, (p :: env)[env.length]? = some q →
      (c.withPart i (up env.length)).depicts env p)
    {d : Document} (h : d.depicts [p] q) :
  (c.takeOut i d).depicts [] q
  := by
  have hl : StandsFor (fun level => c.withPart i (up level)) p q := by
    intro env he
    apply hc
    cases env with
    | nil => cases he
    | cons r rest =>
      rw [← he, List.getLast?_eq_getElem?]
      rfl
  rw [takeOut]
  cases d with
  | scalar s => exact h
  | list ds =>
    rw [graft, depicts]
    rw [depicts] at h
    exact ⟨h.1, itemsDepict_graft hl [q] rfl h.2⟩
  | map es =>
    rw [graft, depicts]
    rw [depicts] at h
    exact ⟨h.1, entriesDepict_graft hl [q] rfl h.2⟩
  | up level =>
    rw [depicts] at h
    cases level with
    | zero =>
      cases h
      rw [graft, if_pos rfl]
      exact hc [] rfl
    | succ _ => cases h

/-- The items of a document that depicts a place depict the items there. -/
theorem items_depict {d : Document} {p : Place} (h : d.depicts [] p) :
  List.Forall₂ (depicts []) d.items p.items
  := by
  cases d with
  | scalar s => simp_all [depicts, items, Place.items]
  | map es =>
    rw [depicts] at h
    cases hw : p.written <;> simp_all [isMap, items, Place.items]
  | up level => cases h
  | list ds =>
    rw [depicts, itemsDepict_iff] at h
    apply forall₂_mapIdx h.2
    intro i d q hq hd
    apply takeOut_depicts _ hd
    intro env hp
    rw [withPart, depicts, itemsDepict_iff]
    refine ⟨h.1, forall₂_set (h.2.imp fun _ _ => depicts_append env) ?_⟩
    intro b hb
    rw [depicts, List.singleton_append, hp, ← hq, hb]

/-- The entries of a document that depicts a place have the keys of those there, and their values
depict the values there. -/
theorem entries_depict {d : Document} {p : Place} (h : d.depicts [] p) :
  List.Forall₂ (fun e f => e.1 = f.1 ∧ e.2.depicts [] f.2) d.entries p.entries
  := by
  cases d with
  | scalar s => simp_all [depicts, entries, Place.entries]
  | list ds =>
    rw [depicts] at h
    cases hw : p.written <;> simp_all [isList, entries, Place.entries]
  | up level => cases h
  | map es =>
    rw [depicts, entriesDepict_iff] at h
    apply forall₂_mapIdx h.2
    intro i e f hf he
    refine ⟨he.1, takeOut_depicts ?_ he.2⟩
    intro env hp
    rw [withPart, depicts, entriesDepict_iff]
    refine ⟨h.1, forall₂_modify (h.2.imp fun _ _ hab => ⟨hab.1, depicts_append env hab.2⟩) ?_⟩
    intro a b hb hab
    refine ⟨hab.1, ?_⟩
    rw [hf] at hb
    cases hb
    exact hp

/-- What lies under a name in a document that depicts a place depicts what lies there. -/
theorem get?_depicts {d : Document} {p : Place} (h : d.depicts [] p) (name : String) :
  Option.Rel (depicts []) (d.get? name) (p.get? name)
  := by
  rw [get?, Place.get?]
  apply find?_rel (entries_depict h) (Key.isText name)

theorem get_depicts {d : Document} {p : Place} (h : d.depicts [] p) (name : String) :
  (d.get name).depicts [] (p.get name)
  := by
  have hr := get?_depicts h name
  rw [get, Place.get]
  generalize d.get? name = v, p.get? name = w at hr
  cases hr with
  | none => rfl
  | some hv => exact hv

/-! ### Closed documents -/

theorem length_enclosing (around : List Document) :
  (Place.enclosing around).length = around.length
  := by
  induction around with
  | nil => rfl
  | cons c rest ih => rw [Place.enclosing, List.length_cons, ih, List.length_cons]

mutual

/-- A part whose references stay within the containers around it depicts its place. -/
theorem depicts_resolve (around : List Document) {d : Document}
    (h : d.closedUnder around.length) :
  d.depicts (Place.enclosing around) (Place.resolve around d)
  := by
  match d with
  | scalar _ => rfl
  | list ds => exact ⟨rfl, itemsDepict_resolve (list ds :: around) h⟩
  | map es => exact ⟨rfl, entriesDepict_resolve (map es :: around) h⟩
  | up level =>
    have hl : level < (Place.enclosing around).length := by
      rw [length_enclosing]
      exact of_decide_eq_true h
    rw [depicts, Place.resolve, List.getElem?_eq_getElem hl, Option.getD_some]

theorem itemsDepict_resolve (around : List Document) {ds : List Document}
    (h : allClosedUnder around.length ds) :
  itemsDepict (Place.enclosing around) ds (ds.map (Place.resolve around))
  := by
  match ds with
  | [] => trivial
  | d :: rest =>
    rw [allClosedUnder, Bool.and_eq_true] at h
    exact ⟨depicts_resolve around h.1, itemsDepict_resolve around h.2⟩

theorem entriesDepict_resolve (around : List Document) {es : List (Key × Document)}
    (h : allEntriesClosedUnder around.length es) :
  entriesDepict (Place.enclosing around) es
    (es.map fun e => (e.1, Place.resolve around e.2))
  := by
  match es with
  | [] => trivial
  | (k, d) :: rest =>
    rw [allEntriesClosedUnder, Bool.and_eq_true] at h
    exact ⟨⟨rfl, depicts_resolve around h.1⟩, entriesDepict_resolve around h.2⟩

end

/-- A closed document depicts the place of its root. -/
theorem depicts_self {d : Document} (h : d.isClosed) :
  d.depicts [] ⟨d, []⟩
  := by
  have hr := depicts_resolve [] h
  cases d with
  | up level => simp [isClosed, closedUnder] at h
  | _ => exact hr

mutual

theorem closedUnder_of_depicts (env : List Place) {d : Document} {p : Place}
    (h : d.depicts env p) :
  d.closedUnder env.length
  := by
  match d with
  | scalar _ => rfl
  | list _ =>
    rw [depicts] at h
    exact allClosedUnder_of_itemsDepict (p :: env) h.2
  | map _ =>
    rw [depicts] at h
    exact allEntriesClosedUnder_of_entriesDepict (p :: env) h.2
  | up level => exact decide_eq_true (List.getElem?_eq_some_iff.mp h).1

theorem allClosedUnder_of_itemsDepict (env : List Place) {ds : List Document} {ps : List Place}
    (h : itemsDepict env ds ps) :
  allClosedUnder env.length ds
  := by
  match ds, ps with
  | [], _ => rfl
  | _ :: _, _ :: _ =>
    rw [allClosedUnder, Bool.and_eq_true]
    exact ⟨closedUnder_of_depicts env h.1, allClosedUnder_of_itemsDepict env h.2⟩

theorem allEntriesClosedUnder_of_entriesDepict (env : List Place) {es : List (Key × Document)}
    {fs : List (Key × Place)} (h : entriesDepict env es fs) :
  allEntriesClosedUnder env.length es
  := by
  match es, fs with
  | [], _ => rfl
  | _ :: _, _ :: _ =>
    rw [allEntriesClosedUnder, Bool.and_eq_true]
    exact ⟨closedUnder_of_depicts env h.1.2, allEntriesClosedUnder_of_entriesDepict env h.2⟩

end

/-- A document that depicts a place has no reference out of it. -/
theorem isClosed_of_depicts {d : Document} {p : Place} (h : d.depicts [] p) :
  d.isClosed
  := closedUnder_of_depicts [] h

/-- The parts of closed documents are closed. -/
theorem isClosed_get {d : Document} (h : d.isClosed) (name : String) :
  (d.get name).isClosed
  := isClosed_of_depicts (get_depicts (depicts_self h) name)

theorem isClosed_get? {d part : Document} (h : d.isClosed) {name : String}
    (hp : d.get? name = some part) :
  part.isClosed
  := by
  have hr := get?_depicts (depicts_self h) name
  rw [hp] at hr
  generalize Place.get? _ _ = q at hr
  cases hr with
  | some hd => exact isClosed_of_depicts hd

theorem isClosed_of_mem_items {d item : Document} (h : d.isClosed) (hi : item ∈ d.items) :
  item.isClosed
  := by
  obtain ⟨p, _, hp⟩ := exists_of_mem_left (items_depict (depicts_self h)) hi
  exact isClosed_of_depicts hp

theorem isClosed_of_mem_entries {d : Document} {e : Key × Document} (h : d.isClosed)
    (he : e ∈ d.entries) :
  e.2.isClosed
  := by
  obtain ⟨f, _, hf⟩ := exists_of_mem_left (entries_depict (depicts_self h)) he
  exact isClosed_of_depicts hf.2

end PipelineAudit.Document
