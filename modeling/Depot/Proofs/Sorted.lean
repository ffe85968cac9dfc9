import Depot.Sorted
import Depot.Pkginfo.Signature

namespace Depot

namespace Sorted

variable {α β : Type} {cmp : α → α → Ordering}

-- A list in strictly increasing order for `cmp`, which is how every set and map is kept.
def Strict (cmp : α → α → Ordering) (xs : List α) : Prop :=
  xs.Pairwise fun a b => cmp a b = .lt

theorem keys_alterBy (k : α) (f : Option β → β) :
    ∀ xs : List (α × β), (alterBy cmp k f xs).map Prod.fst = insertBy cmp k (xs.map Prod.fst)
  | [] => rfl
  | (j, v) :: rest => by
    simp only [alterBy, insertBy, List.map_cons]
    split <;> simp [keys_alterBy k f rest]

section Lawful

variable [Std.LawfulEqCmp cmp] {x y k j : α} {xs : List α}

theorem Strict.nodup (h : Strict cmp xs) : xs.Nodup :=
  h.imp fun hab e => by simp [e, Std.ReflCmp.compare_self] at hab

theorem mem_insertBy : x ∈ insertBy cmp y xs ↔ x = y ∨ x ∈ xs := by
  induction xs with
  | nil => simp [insertBy]
  | cons z zs ih =>
    simp only [insertBy]
    split
    · simp
    · rename_i he
      cases Std.LawfulEqCmp.compare_eq_iff_eq.mp he
      simp
    · simp [ih, or_left_comm]

theorem Strict.insertBy [Std.TransCmp cmp] (h : Strict cmp xs) : Strict cmp (Sorted.insertBy cmp y xs) := by
  induction xs with
  | nil => simp [Strict, Sorted.insertBy]
  | cons z zs ih =>
    obtain ⟨hz, hzs⟩ := List.pairwise_cons.mp h
    simp only [Sorted.insertBy]
    split
    · rename_i hlt
      refine List.pairwise_cons.mpr ⟨fun w hw => ?_, h⟩
      rcases List.mem_cons.mp hw with rfl | hw
      · exact hlt
      · exact Std.TransCmp.lt_trans hlt (hz w hw)
    · exact h
    · rename_i hgt
      refine List.pairwise_cons.mpr ⟨fun w hw => ?_, ih hzs⟩
      rcases mem_insertBy.mp hw with rfl | hw
      · exact Std.OrientedCmp.lt_of_gt hgt
      · exact hz w hw

theorem Strict.alterBy [Std.TransCmp cmp] {f : Option β → β} {xs : List (α × β)} (hs : Strict cmp (xs.map Prod.fst)) :
    Strict cmp ((Sorted.alterBy cmp k f xs).map Prod.fst) := by
  rw [keys_alterBy]
  exact hs.insertBy

-- A strictly increasing list is fixed by its members: the order it is built in is forgotten.
theorem Strict.eq_of_mem_iff [Std.TransCmp cmp] {ys : List α} (h₁ : Strict cmp xs) (h₂ : Strict cmp ys)
    (h : ∀ x, x ∈ xs ↔ x ∈ ys) : xs = ys :=
  ((List.perm_ext_iff_of_nodup h₁.nodup h₂.nodup).mpr h).eq_of_pairwise
    (fun _ _ _ _ hab hba => by simp [Std.OrientedCmp.gt_of_lt hab] at hba) h₁ h₂

theorem mem_foldl_insertBy {ys : List α} (acc : List α) :
    x ∈ ys.foldl (fun s y => Sorted.insertBy cmp y s) acc ↔ x ∈ ys ∨ x ∈ acc := by
  induction ys generalizing acc with
  | nil => simp
  | cons z zs ih => simp [ih, mem_insertBy, or_left_comm, or_assoc]

variable [DecidableEq α]

@[simp] theorem findBy_cons {v : β} {rest : List (α × β)} :
    findBy cmp k ((j, v) :: rest) = if k = j then some v else findBy cmp k rest := by
  simp only [findBy, beq_iff_eq, Std.LawfulEqCmp.compare_eq_iff_eq]

theorem findBy_of_lt [Std.TransCmp cmp] {v : β} {rest : List (α × β)} (hs : Strict cmp (((j, v) :: rest).map Prod.fst))
    (hlt : cmp k j = .lt) : findBy cmp k ((j, v) :: rest) = none := by
  induction rest generalizing j v with
  | nil =>
    have hne : k ≠ j := fun e => by simp [e, Std.ReflCmp.compare_self] at hlt
    simp [findBy, hne]
  | cons e rest ih =>
    obtain ⟨j', v'⟩ := e
    simp only [List.map_cons, Strict, List.pairwise_cons, List.mem_cons] at hs
    have hjj' : cmp j j' = .lt := hs.1 j' (.inl rfl)
    have hrest : Strict cmp (((j', v') :: rest).map Prod.fst) := by
      simpa [Strict] using hs.2
    have hne : k ≠ j := fun e => by simp [e, Std.ReflCmp.compare_self] at hlt
    rw [findBy_cons, if_neg hne]
    exact ih hrest (Std.TransCmp.lt_trans hlt hjj')

theorem findBy_eq_some_iff {xs : List (α × β)} {v : β} (h : (xs.map Prod.fst).Nodup) :
    findBy cmp k xs = some v ↔ (k, v) ∈ xs := by
  induction xs with
  | nil => simp [findBy]
  | cons e rest ih =>
    obtain ⟨j, w⟩ := e
    simp only [List.map_cons, List.nodup_cons] at h
    by_cases hkj : k = j
    · subst hkj
      -- the key is not repeated further on, so only the head can hold it
      have hnot : (k, v) ∉ rest := fun hm => h.1 (List.mem_map.mpr ⟨_, hm, rfl⟩)
      simp [hnot, eq_comm]
    · simp [hkj, ih h.2]

theorem findBy_alterBy [Std.TransCmp cmp] {f : Option β → β} {xs : List (α × β)} (hs : Strict cmp (xs.map Prod.fst)) :
    findBy cmp j (alterBy cmp k f xs) =
      if j = k then some (f (findBy cmp k xs)) else findBy cmp j xs := by
  induction xs with
  | nil => simp [alterBy, findBy]
  | cons e rest ih =>
    obtain ⟨i, v⟩ := e
    have hrest : Strict cmp (rest.map Prod.fst) := (List.pairwise_cons.mp hs).2
    simp only [alterBy]
    split
    · rename_i hlt
      by_cases h : j = k
      · subst h
        simp [findBy_of_lt hs hlt]
      · simp [h]
    · rename_i heq
      cases Std.LawfulEqCmp.compare_eq_iff_eq.mp heq
      by_cases h : j = k <;> simp [h]
    · rename_i hgt
      have hki : k ≠ i := fun e => by simp [e, Std.ReflCmp.compare_self] at hgt
      by_cases hji : j = i
      · subst hji
        simp [Ne.symm hki]
      · simp [hji, hki, ih hrest]

theorem mem_alterBy [Std.TransCmp cmp] {f : Option β → β} {xs : List (α × β)} {v : β}
    (hs : Strict cmp (xs.map Prod.fst)) :
    (j, v) ∈ alterBy cmp k f xs ↔ j = k ∧ v = f (findBy cmp k xs) ∨ j ≠ k ∧ (j, v) ∈ xs := by
  -- both sides are read through `findBy`, which sees the one entry of a key
  have found : ∀ ys : List (α × β), (ys.map Prod.fst).Nodup → (findBy cmp j ys = some v ↔ (j, v) ∈ ys) :=
    fun _ h => findBy_eq_some_iff h
  rw [← found _ hs.alterBy.nodup, findBy_alterBy hs, ← found _ hs.nodup]
  by_cases h : j = k <;> simp [h, eq_comm]

end Lawful

section Texts

variable {x y : String} {xs : List String}

@[simp] theorem mem_insert : x ∈ insert y xs ↔ x = y ∨ x ∈ xs := mem_insertBy

theorem Strict.insert (h : Strict compare xs) : Strict compare (Sorted.insert y xs) :=
  Strict.insertBy h

theorem mem_foldl_insert_map {β : Type} (f : β → String) (ys : List β) (acc : List String) :
    x ∈ ys.foldl (fun s y => Sorted.insert (f y) s) acc ↔ x ∈ ys.map f ∨ x ∈ acc := by
  induction ys generalizing acc with
  | nil => simp
  | cons z zs ih => simp [ih, or_left_comm, or_assoc]

theorem mem_foldl_insert (acc : List String) :
    x ∈ xs.foldl (fun s y => Sorted.insert y s) acc ↔ x ∈ xs ∨ x ∈ acc := by
  induction xs generalizing acc with
  | nil => simp
  | cons z zs ih => simp [ih, or_left_comm, or_assoc]

@[simp] theorem mem_ofList : x ∈ ofList xs ↔ x ∈ xs := by
  simp [ofList, mem_foldl_insert]

theorem strict_foldl_insert (acc : List String) (h : Strict compare acc) :
    Strict compare (xs.foldl (fun s y => Sorted.insert y s) acc) := by
  induction xs generalizing acc with
  | nil => exact h
  | cons z zs ih => exact ih _ h.insert

theorem strict_ofList : Strict compare (ofList xs) :=
  strict_foldl_insert [] List.Pairwise.nil

theorem ofList_eq_of_perm {ys : List String} (h : xs.Perm ys) : ofList xs = ofList ys :=
  strict_ofList.eq_of_mem_iff strict_ofList fun _ => by simp [h.mem_iff]

end Texts

section Pairs

theorem pairCompare_eq :
    (fun a b : String × String => (compare a.1 b.1).then (compare a.2 b.2)) =
      compareLex (compareOn Prod.fst) (compareOn Prod.snd) :=
  rfl

instance pairCompare_transCmp : Std.TransCmp fun a b : String × String => (compare a.1 b.1).then (compare a.2 b.2) := by
  rw [pairCompare_eq]; infer_instance

instance pairCompare_lawfulEqCmp : Std.LawfulEqCmp fun a b : String × String => (compare a.1 b.1).then (compare a.2 b.2) where
  eq_of_compare {a b} h := by
    simp only [Ordering.then_eq_eq, Std.LawfulEqOrd.compare_eq_iff_eq] at h
    exact Prod.ext h.1 h.2
  compare_self := by simp

@[simp] theorem mem_insertPair {x y : String × String} {xs : List (String × String)} :
    x ∈ insertPair y xs ↔ x = y ∨ x ∈ xs :=
  mem_insertBy

end Pairs

end Sorted

namespace Signature

theorem compareLists_eq (xs ys : List String) : compareLists xs ys = compare xs ys := by
  induction xs generalizing ys with
  | nil => cases ys <;> rfl
  | cons x xs ih =>
    cases ys with
    | nil => rfl
    | cons y ys =>
      simp only [compareLists, ih, List.compare_cons_cons]

theorem compareOptions_eq (x y : Option String) : compareOptions x y = compare x y := by
  cases x <;> cases y <;> rfl

theorem compareTo_eq_compareLex :
    compareTo = compareLex (compareOn name) (compareLex (compareOn catalogs)
      (compareLex (compareOn (·.constraints.minimumOsVersion))
      (compareLex (compareOn (·.constraints.maximumOsVersion))
      (compareLex (compareOn (·.constraints.architectures))
      (compareLex (compareOn (·.constraints.installableCondition)) (compareOn receipts)))))) := by
  funext x y
  simp only [compareTo, compareConstraints, compareLists_eq, compareOptions_eq, compareLex,
    compareOn, Ordering.then_assoc]

instance compareTo_transCmp : Std.TransCmp compareTo := by
  rw [compareTo_eq_compareLex]; infer_instance

instance compareTo_lawfulEqCmp : Std.LawfulEqCmp compareTo where
  eq_of_compare {x y} h := by
    simp only [compareTo_eq_compareLex, compareLex_eq_eq, compareOn,
      Std.LawfulEqOrd.compare_eq_iff_eq] at h
    obtain ⟨x₁, x₂, ⟨x₃, x₄, x₅, x₆⟩, x₇⟩ := x
    obtain ⟨y₁, y₂, ⟨y₃, y₄, y₅, y₆⟩, y₇⟩ := y
    simp_all
  compare_self := by simp [compareTo_eq_compareLex, compareOn]

end Signature

end Depot
