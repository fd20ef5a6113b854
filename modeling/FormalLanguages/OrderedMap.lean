/-!
# Maps that keep their order

A finite map that remembers the order in which its keys came. A key keeps its place when its value
is replaced.

Results:
* `get?_insert`: a map with one more entry, looked up.
* `keys_insert`: its keys: a new key comes last, a known one stays where it is.
* `entries_insert_of_not_mem`: its entries, if the key is new.
* `mem_keys_iff`, `get?_isSome`: the keys are what can be looked up.
* `mem_entries_iff`: the entries are the keys with their values.
* `ext_entries`, `ext_getD`: maps with the same entries, or with the same keys in the same order and the same
  values, are equal.
* `get?_mapValues`, `get?_filter`: a map with other values or with fewer entries, looked up.
* `get?_ofList_iff`: a map of some entries, looked up.
-/
namespace FormalLanguages

/-- A finite map, as the list of its entries in the order of their keys' arrival. -/
structure OrderedMap (κ α : Type) where
  entries : List (κ × α)
  distinct : (entries.map Prod.fst).Nodup
  deriving DecidableEq

namespace OrderedMap

variable {κ α β : Type}

/-- The map without entries. -/
def empty : OrderedMap κ α := ⟨[], by simp⟩

instance : EmptyCollection (OrderedMap κ α) := ⟨empty⟩

instance : Inhabited (OrderedMap κ α) := ⟨∅⟩

/-- The keys in order. -/
def keys (m : OrderedMap κ α) : List κ := m.entries.map Prod.fst

/-- The values in the order of their keys. -/
def values (m : OrderedMap κ α) : List α := m.entries.map Prod.snd

/-- The map has no entry. -/
def isEmpty (m : OrderedMap κ α) : Bool := m.entries.isEmpty

/-- The same keys with other values. -/
def mapValues (f : κ → α → β) (m : OrderedMap κ α) : OrderedMap κ β :=
  ⟨m.entries.map fun e => (e.1, f e.1 e.2), by
    have : m.entries.map (Prod.fst ∘ fun e : κ × α => (e.1, f e.1 e.2)) = m.entries.map Prod.fst := rfl
    rw [List.map_map, this]; exact m.distinct⟩

/-- The entries for which `p` holds. -/
def filter (p : κ → α → Bool) (m : OrderedMap κ α) : OrderedMap κ α :=
  ⟨m.entries.filter fun e => p e.1 e.2, m.distinct.sublist (List.filter_sublist.map _)⟩

theorem ext_entries {m n : OrderedMap κ α} (h : m.entries = n.entries) : m = n := by
  cases m
  cases n
  congr

@[simp] theorem keys_mapValues (f : κ → α → β) (m : OrderedMap κ α) :
    (m.mapValues f).keys = m.keys := by
  simp [keys, mapValues, Function.comp_def]

variable [DecidableEq κ]

/-- The value of a key. -/
def get? (m : OrderedMap κ α) (k : κ) : Option α := m.entries.lookup k

/-- The map has the key. -/
def contains (m : OrderedMap κ α) (k : κ) : Bool := k ∈ m.keys

/-- The value of a key, or `d`. -/
def getD (m : OrderedMap κ α) (k : κ) (d : α) : α := (m.get? k).getD d

/-- The entries with the value of `k` replaced, or with `k` added at the end. -/
def insertInto (k : κ) (v : α) : List (κ × α) → List (κ × α)
  | [] => [(k, v)]
  | (l, w) :: es => if l = k then (k, v) :: es else (l, w) :: insertInto k v es

theorem keys_insertInto (k : κ) (v : α) (es : List (κ × α)) :
    (insertInto k v es).map Prod.fst =
      if k ∈ es.map Prod.fst then es.map Prod.fst else es.map Prod.fst ++ [k] := by
  induction es with
  | nil => simp [insertInto]
  | cons e es ih =>
    obtain ⟨l, w⟩ := e
    unfold insertInto
    by_cases h : l = k
    · subst h; simp
    · simp only [if_neg h, List.map_cons, ih, List.mem_cons, Ne.symm h, false_or]
      split <;> simp

/-- The map with one more entry; a known key keeps its place and takes the new value. -/
def insert (m : OrderedMap κ α) (k : κ) (v : α) : OrderedMap κ α :=
  ⟨insertInto k v m.entries, by
    rw [keys_insertInto]
    split
    · exact m.distinct
    · next h =>
      refine List.nodup_append.mpr ⟨m.distinct, by simp, fun a ha b hb => ?_⟩
      rcases List.mem_singleton.mp hb with rfl
      exact fun e => h (e ▸ ha)⟩

/-- The map of some entries, of which the last with a key gives the value and the first the place. -/
def ofList (es : List (κ × α)) : OrderedMap κ α := es.foldl (fun m e => m.insert e.1 e.2) ∅

/-- Replaces the value of a key by `f` of it, or of `d` if the key is new. -/
def alter (m : OrderedMap κ α) (k : κ) (d : α) (f : α → α) : OrderedMap κ α :=
  m.insert k (f (m.getD k d))

theorem keys_insert (m : OrderedMap κ α) (k : κ) (v : α) :
    (m.insert k v).keys = if k ∈ m.keys then m.keys else m.keys ++ [k] :=
  keys_insertInto k v m.entries

theorem insertInto_of_not_mem {k : κ} {es : List (κ × α)} (h : k ∉ es.map Prod.fst) (v : α) :
    insertInto k v es = es ++ [(k, v)] := by
  induction es with
  | nil => rfl
  | cons e es ih =>
    obtain ⟨l, w⟩ := e
    rw [insertInto, if_neg (List.ne_of_not_mem_cons h).symm, ih (List.not_mem_of_not_mem_cons h)]
    rfl

/-- An entry with a new key comes last. -/
theorem entries_insert_of_not_mem {m : OrderedMap κ α} {k : κ} (h : k ∉ m.keys) (v : α) :
    (m.insert k v).entries = m.entries ++ [(k, v)] :=
  insertInto_of_not_mem h v

theorem lookup_cons_of_ne {j l : κ} (h : l ≠ j) (w : α) (es : List (κ × α)) :
    ((j, w) :: es).lookup l = es.lookup l := by
  rw [List.lookup_cons, beq_eq_false_iff_ne.mpr h]

theorem lookup_insertInto (k l : κ) (v : α) (es : List (κ × α)) :
    (insertInto k v es).lookup l = if l = k then some v else es.lookup l := by
  induction es with
  | nil =>
    by_cases h : l = k
    · subst h; simp [insertInto]
    · rw [if_neg h]; exact lookup_cons_of_ne h v []
  | cons e es ih =>
    obtain ⟨j, w⟩ := e
    unfold insertInto
    by_cases hj : j = k
    · subst hj
      by_cases h : l = j
      · subst h; simp
      · rw [if_pos rfl, lookup_cons_of_ne h, lookup_cons_of_ne h, if_neg h]
    · simp only [if_neg hj]
      by_cases h : l = j
      · subst h
        simp [hj]
      · rw [lookup_cons_of_ne h, lookup_cons_of_ne h, ih]

@[simp] theorem get?_insert (m : OrderedMap κ α) (k l : κ) (v : α) :
    (m.insert k v).get? l = if l = k then some v else m.get? l :=
  lookup_insertInto k l v m.entries

theorem lookup_isSome {l : κ} {es : List (κ × α)} :
    (es.lookup l).isSome = true ↔ l ∈ es.map Prod.fst := by
  induction es with
  | nil => simp
  | cons e es ih =>
    obtain ⟨j, w⟩ := e
    by_cases h : l = j
    · subst h; simp
    · rw [lookup_cons_of_ne h, ih]; simp [h]

theorem get?_isSome {m : OrderedMap κ α} {k : κ} : (m.get? k).isSome = true ↔ k ∈ m.keys :=
  lookup_isSome

theorem contains_iff {m : OrderedMap κ α} {k : κ} : m.contains k = true ↔ k ∈ m.keys := by
  simp [contains]

theorem mem_keys_iff {m : OrderedMap κ α} {k : κ} : k ∈ m.keys ↔ ∃ v, m.get? k = some v := by
  rw [← get?_isSome, Option.isSome_iff_exists]

theorem lookup_eq_some_iff {es : List (κ × α)} (h : (es.map Prod.fst).Nodup) {k : κ} {v : α} :
    es.lookup k = some v ↔ (k, v) ∈ es := by
  induction es with
  | nil => simp
  | cons e es ih =>
    obtain ⟨j, w⟩ := e
    have ⟨hj, hes⟩ := List.nodup_cons.mp h
    by_cases hk : k = j
    · subst hk
      have : (k, v) ∉ es := fun hmem => hj (List.mem_map.mpr ⟨(k, v), hmem, rfl⟩)
      simp [this, eq_comm]
    · rw [lookup_cons_of_ne hk, ih hes]; simp [hk]

theorem mem_entries_iff {m : OrderedMap κ α} {k : κ} {v : α} :
    (k, v) ∈ m.entries ↔ m.get? k = some v :=
  (lookup_eq_some_iff m.distinct).symm

/-- A map is given by its keys in order and the values that it has, or `d`. -/
theorem entries_eq (m : OrderedMap κ α) (d : α) : m.entries = m.keys.map fun k => (k, m.getD k d) := by
  have hentry : ∀ e ∈ m.entries, (e.1, m.getD e.1 d) = e := fun e he => by
    rw [getD, mem_entries_iff.mp he, Option.getD_some]
  rw [keys, List.map_map]
  exact ((List.map_congr_left (g := id) hentry).trans (List.map_id _)).symm

theorem ext_getD {m n : OrderedMap κ α} (d : α) (hkeys : m.keys = n.keys)
    (h : ∀ k, m.getD k d = n.getD k d) : m = n := by
  refine ext_entries ?_
  rw [entries_eq m d, entries_eq n d, hkeys]
  simp only [h]

theorem lookup_map (f : κ → α → β) (es : List (κ × α)) (k : κ) :
    (es.map fun e => (e.1, f e.1 e.2)).lookup k = (es.lookup k).map (f k) := by
  induction es with
  | nil => rfl
  | cons e es ih =>
    obtain ⟨j, w⟩ := e
    by_cases hk : k = j
    · subst hk; simp
    · rw [List.map_cons, lookup_cons_of_ne hk, lookup_cons_of_ne hk, ih]

@[simp] theorem get?_mapValues (f : κ → α → β) (m : OrderedMap κ α) (k : κ) :
    (m.mapValues f).get? k = (m.get? k).map (f k) :=
  lookup_map f m.entries k

@[simp] theorem get?_filter (p : κ → α → Bool) (m : OrderedMap κ α) (k : κ) :
    (m.filter p).get? k = (m.get? k).filter (p k) := by
  refine Option.ext fun v => ?_
  rw [← mem_entries_iff, Option.filter_eq_some_iff, ← mem_entries_iff]
  exact List.mem_filter

theorem get?_eq_some_getD {m : OrderedMap κ α} {k : κ} (h : k ∈ m.keys) (d : α) :
    m.get? k = some (m.getD k d) := by
  obtain ⟨v, hv⟩ := mem_keys_iff.mp h
  rw [getD, hv, Option.getD_some]

/-- A look-up is told by whether the key is there and what it gives. -/
theorem get?_eq_of_getD_eq {m n : OrderedMap κ α} {k : κ} (hkeys : k ∈ m.keys ↔ k ∈ n.keys) {d : α}
    (h : m.getD k d = n.getD k d) : m.get? k = n.get? k := by
  by_cases hk : k ∈ m.keys
  · rw [get?_eq_some_getD hk d, get?_eq_some_getD (hkeys.mp hk) d, h]
  · have hnone : ∀ {l : OrderedMap κ α}, k ∉ l.keys → l.get? k = none := fun hl =>
      Option.not_isSome_iff_eq_none.mp fun h => hl (get?_isSome.mp h)
    rw [hnone hk, hnone fun h => hk (hkeys.mpr h)]

theorem getD_insert (m : OrderedMap κ α) (k l : κ) (v d : α) :
    (m.insert k v).getD l d = if l = k then v else m.getD l d := by
  unfold getD; rw [get?_insert]; split <;> rfl

theorem getD_alter (m : OrderedMap κ α) (k l : κ) (d : α) (f : α → α) :
    (m.alter k d f).getD l d = if l = k then f (m.getD k d) else m.getD l d :=
  getD_insert m k l (f (m.getD k d)) d

theorem get?_foldr_insert (es : List (κ × α)) (k : κ) :
    (es.foldr (fun e m => insert m e.1 e.2) ∅).get? k = es.lookup k := by
  induction es with
  | nil => rfl
  | cons e es ih =>
    obtain ⟨j, w⟩ := e
    rw [List.foldr_cons, get?_insert]
    by_cases hk : k = j
    · subst hk; simp
    · rw [if_neg hk, lookup_cons_of_ne hk, ih]

/-- The last entry with a key gives its value. -/
theorem get?_ofList (es : List (κ × α)) (k : κ) : (ofList es).get? k = es.reverse.lookup k := by
  rw [← get?_foldr_insert, List.foldr_reverse, ofList]

theorem mem_of_get?_ofList {es : List (κ × α)} {k : κ} {v : α} (h : (ofList es).get? k = some v) :
    (k, v) ∈ es := by
  rw [get?_ofList, List.lookup_eq_some_iff] at h
  obtain ⟨before, after, he, -⟩ := h
  exact List.mem_reverse.mp (he ▸ by simp)

/-- Where entries with the same key have the same value, their order does not matter. -/
theorem get?_ofList_iff {es : List (κ × α)} (hes : ∀ k v w, (k, v) ∈ es → (k, w) ∈ es → v = w)
    {k : κ} {v : α} : (ofList es).get? k = some v ↔ (k, v) ∈ es := by
  refine ⟨mem_of_get?_ofList, fun h => ?_⟩
  have hk : k ∈ es.reverse.map Prod.fst := List.mem_map.mpr ⟨(k, v), List.mem_reverse.mpr h, rfl⟩
  obtain ⟨w, hw⟩ := Option.isSome_iff_exists.mp (lookup_isSome.mpr hk)
  rw [← get?_ofList] at hw
  rw [hw, hes k w v (mem_of_get?_ofList hw) h]

end OrderedMap

end FormalLanguages
