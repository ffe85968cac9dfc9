import Depot.Proofs.Decisions

namespace Depot

def firstByKey {α β : Type} [DecidableEq β] (key : α → β) : List α → List α
  | [] => []
  | x :: xs => x :: (firstByKey key xs).filter fun y => key y ≠ key x

section FirstByKey

variable {α β : Type} [DecidableEq β] (key : α → β)

theorem firstByKey_filter (g : β → Prop) [DecidablePred g] :
    ∀ xs : List α,
      firstByKey key (xs.filter fun x => g (key x)) = (firstByKey key xs).filter fun x => g (key x)
  | [] => rfl
  | x :: xs => by
    by_cases hx : g (key x)
    · simp only [List.filter_cons_of_pos (p := fun x => decide (g (key x))) (by simpa using hx),
        firstByKey, firstByKey_filter g xs, List.filter_filter]
      congr 1
      exact List.filter_congr fun y _ => Bool.and_comm _ _
    · rw [List.filter_cons_of_neg (p := fun x => decide (g (key x))) (by simpa using hx),
        firstByKey_filter g xs, firstByKey, List.filter_cons_of_neg (by simpa using hx),
        List.filter_filter]
      -- a kept element is of another class than the dropped head
      exact List.filter_congr fun y _ => by
        by_cases hy : g (key y)
        · have : key y ≠ key x := fun e => hx (e ▸ hy)
          simp [hy, this]
        · simp [hy]

theorem firstByKey_map {γ : Type} (f : γ → α) :
    ∀ xs : List γ, firstByKey key (xs.map f) = (firstByKey (fun x => key (f x)) xs).map f
  | [] => rfl
  | x :: xs => by
    rw [List.map_cons, firstByKey, firstByKey_map f xs, firstByKey, List.map_cons, List.filter_map]
    rfl

end FirstByKey

section Blobs

variable (kept : List String)

theorem blobStep_mk (paths seen : List String) (bytes : Nat) (l : ItemLocation) :
    blobStep kept (paths, seen, bytes) l =
      if Text.lower l.path ∈ kept ∨ Text.lower l.path ∈ seen then (paths, seen, bytes)
      else (paths ++ [l.path], Text.lower l.path :: seen, Size.wrappingAdd bytes l.size) := by
  simp [blobStep]

-- The step of the walk on a location it takes: the path is recorded, its class is seen, and its
-- size is added.
def takeLocation (acc : List String × List String × Nat) (l : ItemLocation) : List String × List String × Nat :=
  (acc.1 ++ [l.path], Text.lower l.path :: acc.2.1, Size.wrappingAdd acc.2.2 l.size)

theorem foldl_blobStep :
    ∀ (ls : List ItemLocation) (paths seen : List String) (bytes : Nat),
      ls.foldl (blobStep kept) (paths, seen, bytes) =
        (firstByKey (fun l => Text.lower l.path)
          (ls.filter fun l => Text.lower l.path ∉ kept ∧ Text.lower l.path ∉ seen)).foldl
            takeLocation (paths, seen, bytes)
  | [], _, _, _ => rfl
  | l :: ls, paths, seen, bytes => by
    rw [List.foldl_cons, blobStep_mk]
    split
    · rename_i hold
      have dropped : ¬ (Text.lower l.path ∉ kept ∧ Text.lower l.path ∉ seen) := by
        simpa [or_iff_not_imp_left] using hold
      rw [foldl_blobStep ls paths seen bytes, List.filter_cons_of_neg (by simpa using dropped)]
    · rename_i hnew
      have taken : Text.lower l.path ∉ kept ∧ Text.lower l.path ∉ seen := by simpa using hnew
      rw [foldl_blobStep ls, List.filter_cons_of_pos (by simpa using taken), firstByKey, List.foldl_cons,
        ← firstByKey_filter (fun x : ItemLocation => Text.lower x.path) (· ≠ Text.lower l.path),
        List.filter_filter]
      -- a location is new to the walk when its class is neither kept, seen, nor the one just taken
      congr 2
      exact List.filter_congr fun q _ => by simp [Bool.and_left_comm]

theorem foldl_takeLocation_fst :
    ∀ (ls : List ItemLocation) (acc : List String × List String × Nat),
      (ls.foldl takeLocation acc).1 = acc.1 ++ ls.map (·.path)
  | [], acc => by simp
  | l :: ls, acc => by
    rw [List.foldl_cons, foldl_takeLocation_fst ls, List.map_cons, takeLocation, List.append_assoc,
      List.singleton_append]

theorem foldl_takeLocation_bytes :
    ∀ (ls : List ItemLocation) (acc : List String × List String × Nat),
      (ls.foldl takeLocation acc).2.2 = ls.foldl (fun n l => Size.wrappingAdd n l.size) acc.2.2
  | [], _ => rfl
  | l :: ls, acc => by
    rw [List.foldl_cons, foldl_takeLocation_bytes ls, List.foldl_cons, takeLocation]

theorem foldl_blobStep_fst (ls : List ItemLocation) (paths seen : List String) (bytes : Nat) :
    (ls.foldl (blobStep kept) (paths, seen, bytes)).1 =
      paths ++ firstByKey Text.lower
        ((ls.map (·.path)).filter fun q => Text.lower q ∉ kept ∧ Text.lower q ∉ seen) := by
  rw [foldl_blobStep, foldl_takeLocation_fst, List.filter_map, firstByKey_map]
  rfl

theorem blobsToDelete_eq_firstByKey (records : List PkginfoRecord) :
    (blobsToDelete kept records).1 =
      firstByKey Text.lower ((itemPaths records).filter fun q => Text.lower q ∉ kept) := by
  have walk := foldl_blobStep_fst kept (records.flatMap PkginfoRecord.itemLocations) [] [] 0
  simp only [List.nil_append, List.not_mem_nil, not_false_eq_true, and_true] at walk
  rw [itemPaths, ← List.map_flatMap]
  exact walk

end Blobs

structure CleanupPlan.BooksItems (p : CleanupPlan) (scan : PkginfoScan) : Prop where
  keptSet : Sorted.Strict compare p.pkgsToKeep
  mem_kept : ∀ q, q ∈ p.pkgsToKeep ↔ q ∈ itemPaths (p.recordsAt scan fun d => !d.isDelete)
  deleted : p.pkgsToDelete =
    firstByKey Text.lower ((itemPaths p.toDelete).filter fun q => Text.lower q ∉ p.pkgsToKeep.map Text.lower)
  distinct : (p.pkgsToDelete.map Text.lower).Nodup
  apart : ∀ q ∈ p.pkgsToDelete, Text.lower q ∉ p.pkgsToKeep.map Text.lower
  once : ∀ r ∈ p.toDelete, ∀ l ∈ r.itemLocations,
    (p.pkgsToDelete.map Text.lower).count (Text.lower l.path) =
      if Text.lower l.path ∈ p.pkgsToKeep.map Text.lower then 0 else 1

section Plan

variable (scan : PkginfoScan) (pinned : List (String × String)) (keep : Nat) (orphans : List String)

theorem keptRecords_eq_recordsAt :
    keptRecords scan pinned keep =
      (planCleanup scan pinned orphans keep).recordsAt scan fun d => !d.isDelete := by
  rw [recordsAt_planCleanup, keptRecords]
  refine List.flatMap_congr fun e _ => List.flatMap_congr fun x _ => ?_
  cases x.1.disposition.isDelete <;> rfl

-- A plan keeps the item paths of its kept records as a set, and deletes the first path of each
-- class up to case among those of its deleted records, leaving the classes of kept paths alone.
theorem planCleanup_books_items : (planCleanup scan pinned orphans keep).BooksItems scan := by
  have distinct : ((planCleanup scan pinned orphans keep).pkgsToDelete.map Text.lower).Nodup :=
    nodup_lower_blobsToDelete _ _
  refine ⟨?keptSet, ?mem_kept, ?deleted, distinct, ?apart, ?once⟩
  case keptSet =>
    rw [planCleanup_pkgsToKeep]
    exact Sorted.strict_ofList
  case mem_kept =>
    intro q
    rw [planCleanup_pkgsToKeep, Sorted.mem_ofList, keptRecords_eq_recordsAt scan pinned keep orphans]
  case deleted =>
    rw [planCleanup_pkgsToDelete, blobsToDelete_eq_firstByKey]
  case apart =>
    intro q hq
    exact (mem_blobsToDelete _ hq).1
  case once =>
    intro r hr l hl
    -- an item of a deleted record is deleted, up to case, unless a kept path has its class
    have deleted :
        Text.lower l.path ∈ (planCleanup scan pinned orphans keep).pkgsToDelete.map Text.lower ↔
          Text.lower l.path ∉ (planCleanup scan pinned orphans keep).pkgsToKeep.map Text.lower := by
      rw [planCleanup_pkgsToDelete, mem_lower_blobsToDelete]
      exact ⟨And.left, fun h => ⟨h, r, hr, l, hl, rfl⟩⟩
    rw [List.Nodup.count distinct]
    by_cases h : Text.lower l.path ∈ (planCleanup scan pinned orphans keep).pkgsToKeep.map Text.lower
    · simp [h, deleted.not.mpr (not_not.mpr h)]
    · simp [h, deleted.mpr h]

end Plan

end Depot
