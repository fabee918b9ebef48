import Mathlib.Data.List.Dedup

/-!
Go's built-in maps and the `golang-set` sets the gateway uses, as finite
association lists.

A `GoMap` keeps every key once, so `range` over it visits each entry once; the
order of `entries` is one iteration order, which Go leaves unspecified. Reads
go through `get?` only, and two maps are the same Go map when `get?` agrees on
every key. `MapSet` is `mapset.Set[T]`: its elements, each once.
-/

namespace ApiGateway

/-- A Go `map[K]V`: its entries, each key once. -/
structure GoMap (K V : Type) where
  entries : List (K × V)
  nodup : (entries.map Prod.fst).Nodup
deriving DecidableEq

namespace GoMap

variable {K V W : Type} [DecidableEq K]

instance : EmptyCollection (GoMap K V) := ⟨⟨[], List.nodup_nil⟩⟩

/-- `v, ok := m[k]`. -/
def get? (m : GoMap K V) (k : K) : Option V := m.entries.lookup k

/-- `delete(m, k)`. -/
def erase (m : GoMap K V) (k : K) : GoMap K V :=
  ⟨m.entries.filter (·.1 != k), m.nodup.sublist ((List.filter_sublist _).map _)⟩

/-- `m[k] = v`. -/
def insert (m : GoMap K V) (k : K) (v : V) : GoMap K V :=
  ⟨(k, v) :: (m.erase k).entries, by
    refine List.nodup_cons.mpr ⟨fun hk => ?_, (m.erase k).nodup⟩
    obtain ⟨e, he, rfl⟩ := List.mem_map.mp hk
    simpa using (List.mem_filter.mp he).2⟩

/-- A map with the same keys and every value passed through `f`, as a loop
`result[k] = f(v)` over `range m` builds it. -/
def mapValues (m : GoMap K V) (f : V → W) : GoMap K W :=
  ⟨m.entries.map fun e => (e.1, f e.2), by simpa [Function.comp_def] using m.nodup⟩

/-- A map built by assigning the pairs in order: a later key overwrites an
earlier one. -/
def ofList (l : List (K × V)) : GoMap K V :=
  l.foldl (fun m e => m.insert e.1 e.2) ∅

@[simp] theorem get?_empty (k : K) : (∅ : GoMap K V).get? k = none := rfl

theorem lookup_filter_ne (l : List (K × V)) (k k' : K) :
    (l.filter (·.1 != k)).lookup k' = if k' = k then none else l.lookup k' := by
  induction l with
  | nil => simp
  | cons e l ih =>
    obtain ⟨a, b⟩ := e
    by_cases ha : a = k
    · subst ha
      by_cases hk : k' = a
      · subst hk; simpa [List.filter_cons] using ih
      · simp [List.filter_cons, ih, hk, List.lookup_cons, beq_false_of_ne hk]
    · by_cases hk : k' = a
      · subst hk; simp [List.filter_cons, ha, List.lookup_cons]
      · simp [List.filter_cons, ha, ih, List.lookup_cons, beq_false_of_ne hk]

@[simp] theorem get?_erase (m : GoMap K V) (k k' : K) :
    (m.erase k).get? k' = if k' = k then none else m.get? k' :=
  lookup_filter_ne _ _ _

/-- Deleting a key the map does not hold leaves its entries as they were. -/
theorem erase_entries_of_get?_none {m : GoMap K V} {k : K} (h : m.get? k = none) :
    (m.erase k).entries = m.entries :=
  List.filter_eq_self.mpr fun e he =>
    bne_iff_ne.mpr (bne_iff_ne.mp (List.lookup_eq_none_iff.mp h e he)).symm

theorem lookup_cons_of_ne {a k : K} (h : k ≠ a) (b : V) (l : List (K × V)) :
    ((a, b) :: l).lookup k = l.lookup k := by
  simp [List.lookup_cons, beq_false_of_ne h]

@[simp] theorem get?_insert (m : GoMap K V) (k k' : K) (v : V) :
    (m.insert k v).get? k' = if k' = k then some v else m.get? k' := by
  by_cases h : k' = k
  · simp [insert, get?, h]
  · simp only [insert, get?, if_neg h, lookup_cons_of_ne h]
    exact (get?_erase m k k').trans (if_neg h)

@[simp] theorem get?_mapValues (m : GoMap K V) (f : V → W) (k : K) :
    (m.mapValues f).get? k = (m.get? k).map f := by
  simp only [get?, mapValues]
  induction m.entries with
  | nil => rfl
  | cons e l ih =>
    obtain ⟨a, b⟩ := e
    by_cases h : k = a
    · subst h; simp
    · simp [lookup_cons_of_ne h, ih]

theorem get?_ofList (l : List (K × V)) (k : K) :
    (ofList l).get? k = (l.reverse.lookup k) := by
  suffices ∀ m : GoMap K V, (l.foldl (fun m e => m.insert e.1 e.2) m).get? k =
      ((l.reverse.lookup k).or (m.get? k)) by simpa using this ∅
  induction l with
  | nil => simp
  | cons e l ih =>
    intro m
    obtain ⟨a, b⟩ := e
    rw [List.foldl_cons, ih, List.reverse_cons, List.lookup_append, Option.or_assoc]
    by_cases h : k = a
    · subst h; simp
    · simp [h, lookup_cons_of_ne h]

/-- Looking a key up from the back finds the same entry when keys are
distinct. -/
theorem lookup_reverse {l : List (K × V)} (h : (l.map Prod.fst).Nodup) (k : K) :
    l.reverse.lookup k = l.lookup k := by
  induction l with
  | nil => rfl
  | cons e l ih =>
    obtain ⟨a, b⟩ := e
    rw [List.map_cons, List.nodup_cons] at h
    rw [List.reverse_cons, List.lookup_append, ih h.2]
    by_cases hk : k = a
    · subst hk
      have : l.lookup k = none := List.lookup_eq_none_iff.mpr fun p hp =>
        bne_iff_ne.mpr fun e => h.1 (List.mem_map.mpr ⟨p, hp, e.symm⟩)
      simp [this]
    · simp [lookup_cons_of_ne hk]

theorem lookup_map_of_fst {l : List (K × V)} (f : K × V → K × W) (hf : ∀ e ∈ l, (f e).1 = e.1)
    (k : K) : (l.map f).lookup k = (l.lookup k).map fun v => (f (k, v)).2 := by
  induction l with
  | nil => rfl
  | cons e l ih =>
    obtain ⟨a, b⟩ := e
    have hfe : f (a, b) = (a, (f (a, b)).2) := Prod.ext (hf _ (List.mem_cons_self _ _)) rfl
    rw [List.map_cons, hfe]
    by_cases hk : k = a
    · subst hk; simp
    · rw [lookup_cons_of_ne hk, lookup_cons_of_ne hk, ih fun e he => hf e (List.mem_cons_of_mem _ he)]

/-- **Rebuilding a map from its entries**: a loop that assigns each entry of
`m` under its own key, whatever it stores, builds a map with `m`'s keys. -/
theorem get?_ofList_map (m : GoMap K V) (f : K × V → K × W) (hf : ∀ e ∈ m.entries, (f e).1 = e.1)
    (k : K) : (ofList (m.entries.map f)).get? k = (m.get? k).map fun v => (f (k, v)).2 := by
  have keys : (m.entries.map f).map Prod.fst = m.entries.map Prod.fst := by
    rw [List.map_map]; exact List.map_congr_left hf
  rw [get?_ofList, lookup_reverse (keys ▸ m.nodup), lookup_map_of_fst f hf]; rfl

/-- An entry of the map is what the map answers for its key. -/
theorem get?_of_mem {m : GoMap K V} {e : K × V} (he : e ∈ m.entries) : m.get? e.1 = some e.2 := by
  obtain ⟨k, v⟩ := e
  obtain ⟨l₁, l₂, hl⟩ := List.append_of_mem he
  have hk : k ∉ l₁.map Prod.fst := by
    have := m.nodup; rw [hl, List.map_append, List.map_cons] at this
    exact fun hk => List.disjoint_of_nodup_append this hk (List.mem_cons_self _ _)
  refine List.lookup_eq_some_iff.mpr ⟨l₁, l₂, hl, fun p hp => ?_⟩
  exact bne_iff_ne.mpr fun e => hk (List.mem_map.mpr ⟨p, hp, e.symm⟩)

/-- The map answers `v` for `k` exactly when `(k, v)` is one of its entries. -/
theorem get?_eq_some_iff {m : GoMap K V} {k : K} {v : V} : m.get? k = some v ↔ (k, v) ∈ m.entries :=
  ⟨fun h => by
    obtain ⟨l₁, l₂, hl, -⟩ := List.lookup_eq_some_iff.mp h
    exact hl ▸ List.mem_append_right _ (List.mem_cons_self _ _), get?_of_mem⟩

end GoMap

/-- A `mapset.Set[T]`: its elements, each once. `toSlice` lists them in one
order; the library's is a map's iteration order. -/
structure MapSet (α : Type) where
  elems : List α
  nodup : elems.Nodup
deriving DecidableEq

namespace MapSet

variable {α : Type}

/-- `s.ToSlice()`. -/
def toSlice (s : MapSet α) : List α := s.elems

theorem toSlice_nodup (s : MapSet α) : s.toSlice.Nodup := s.nodup

@[simp] theorem mem_toSlice (s : MapSet α) (a : α) : a ∈ s.toSlice ↔ a ∈ s.elems := Iff.rfl

variable [DecidableEq α]

/-- `mapset.NewThreadUnsafeSet(l...)`. -/
def ofList (l : List α) : MapSet α := ⟨l.dedup, List.nodup_dedup l⟩

/-- `s.ContainsOne(a)`. -/
def containsOne (s : MapSet α) (a : α) : Bool := decide (a ∈ s.elems)

@[simp] theorem containsOne_iff (s : MapSet α) (a : α) : s.containsOne a = true ↔ a ∈ s.elems := by
  simp [containsOne]

@[simp] theorem mem_ofList (l : List α) (a : α) : a ∈ (ofList l).elems ↔ a ∈ l :=
  List.mem_dedup

end MapSet

end ApiGateway
