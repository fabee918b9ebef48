import ApiGateway.Go.Map

/-!
`internal/utils/slice`: element conversion and the permission merge.

`merge` is `slice.Merge`, the union the gateway uses for a method's required
permissions (`ProviderDescription.Permissions`). It takes `s2` through a set
and keeps `s1` as it is minus the elements of `s2`. `mem_merge` is its
membership law; by `merge_nodup_iff` it is free of duplicates exactly when
the part of `s1` outside `s2` is, since nothing removes a repeat within `s1`.
-/

namespace ApiGateway

variable {α β : Type}

/-- `slice.ConvertFuncWithSkip`: convert each element, dropping those the
conversion marks to skip. -/
def convertFuncWithSkip (convert : α → β × Bool) : List α → List β
  | [] => []
  | a :: as =>
    let (b, skip) := convert a
    if skip then convertFuncWithSkip convert as else b :: convertFuncWithSkip convert as

/-- `slice.ConvertFunc`: `ConvertFuncWithSkip` with a conversion that never
skips. -/
def convertFunc (convert : α → β) (l : List α) : List β :=
  convertFuncWithSkip (fun a => (convert a, false)) l

@[simp] theorem convertFunc_eq_map (convert : α → β) (l : List α) :
    convertFunc convert l = l.map convert := by
  induction l with
  | nil => rfl
  | cons a l ih => simp [convertFunc, convertFuncWithSkip] at ih ⊢; exact ih

variable [DecidableEq α]

/-- `slice.Merge`: the elements of `s2`, each once, then the elements of `s1`
that are not in `s2`. -/
def merge (s1 s2 : List α) : List α :=
  let s2Set := MapSet.ofList s2
  s2Set.toSlice ++ s1.filter fun elem => !s2Set.containsOne elem

@[simp] theorem mem_merge (s1 s2 : List α) (a : α) : a ∈ merge s1 s2 ↔ a ∈ s1 ∨ a ∈ s2 := by
  by_cases h : a ∈ s2 <;> simp [merge, MapSet.containsOne, h]

theorem merge_nodup_iff (s1 s2 : List α) :
    (merge s1 s2).Nodup ↔ (s1.filter fun a => a ∉ s2).Nodup := by
  have hp : (fun a => !(MapSet.ofList s2).containsOne a) = fun a => decide (a ∉ s2) := by
    funext a; simp [MapSet.containsOne]
  have hd : (MapSet.ofList s2).toSlice.Disjoint (s1.filter fun a => a ∉ s2) :=
    fun a h1 h2 => by simp_all
  simp only [merge, List.nodup_append, MapSet.toSlice_nodup, true_and, hp, and_iff_left hd]

end ApiGateway
