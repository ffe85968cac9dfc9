import Depot.Proofs.Index
import Depot.Cleanup.Run

namespace Depot

section Decide

variable (name : String) (pinned required : List (String × String)) (keep : Nat)

-- A version that neither a manifest nor a dependency holds, and that the retention window
-- counts.
def retainable (v : String) : Bool := !pinned.contains (name, v) && !required.contains (name, v)

theorem decideVersions_map_fst :
    ∀ (rank : Nat) (vs : List String), (decideVersions name pinned required keep rank vs).map Prod.fst = vs
  | _, [] => rfl
  | rank, w :: ws => by
    simp only [decideVersions]
    split
    · simp [decideVersions_map_fst rank ws]
    · split
      · simp [decideVersions_map_fst rank ws]
      · split
        · simp [decideVersions_map_fst (rank + 1) ws]
        · simp [decideVersions_map_fst rank ws]

-- A deleted version is held by nothing, and at least `keep` retainable versions come before
-- it, less the places `rank` has already used.
theorem decideVersions_delete {v : String} :
    ∀ {rank : Nat} {vs : List String}, (v, .delete) ∈ decideVersions name pinned required keep rank vs →
      ∃ before after, vs = before ++ v :: after ∧ retainable name pinned required v = true ∧
        keep ≤ rank + (before.filter (retainable name pinned required)).length
  | _, [], h => by simp [decideVersions] at h
  | rank, w :: ws, h => by
    simp only [decideVersions] at h
    by_cases hp : pinned.contains (name, w) = true
    · -- a pinned version takes no place in the window
      rw [if_pos hp] at h
      have hw : retainable name pinned required w = false := by
        simp only [retainable, hp, Bool.not_true, Bool.false_and]
      obtain ⟨before, after, rfl, hv, hk⟩ := decideVersions_delete ((List.mem_cons.mp h).resolve_left (by simp))
      refine ⟨w :: before, after, rfl, hv, ?_⟩
      rwa [List.filter_cons_of_neg (by simp [hw])]
    rw [if_neg hp] at h
    by_cases hr : required.contains (name, w) = true
    · rw [if_pos hr] at h
      have hw : retainable name pinned required w = false := by
        simp only [retainable, hr, Bool.not_true, Bool.and_false]
      obtain ⟨before, after, rfl, hv, hk⟩ := decideVersions_delete ((List.mem_cons.mp h).resolve_left (by simp))
      refine ⟨w :: before, after, rfl, hv, ?_⟩
      rwa [List.filter_cons_of_neg (by simp [hw])]
    rw [if_neg hr] at h
    have hw : retainable name pinned required w = true := by
      rw [retainable, Bool.eq_false_iff.mpr hp, Bool.eq_false_iff.mpr hr]
      rfl
    by_cases hk : rank < keep
    · -- a version kept for retention uses one place
      rw [if_pos hk] at h
      obtain ⟨before, after, rfl, hv, hk'⟩ := decideVersions_delete ((List.mem_cons.mp h).resolve_left (by simp))
      refine ⟨w :: before, after, rfl, hv, ?_⟩
      rw [List.filter_cons_of_pos hw, List.length_cons]
      omega
    · rw [if_neg hk] at h
      rcases List.mem_cons.mp h with h | h
      · obtain ⟨rfl, -⟩ := Prod.mk.inj h
        exact ⟨[], ws, rfl, hw, by simpa using hk⟩
      · obtain ⟨before, after, rfl, hv, hk'⟩ := decideVersions_delete h
        refine ⟨w :: before, after, rfl, hv, ?_⟩
        rw [List.filter_cons_of_pos hw, List.length_cons]
        omega

end Decide

@[simp] theorem Disposition.isDelete_eq_true {d : Disposition} : d.isDelete = true ↔ d = .delete := by
  cases d <;> simp [Disposition.isDelete]

theorem Sorted.flatMap_findBy_keys {α β : Type} (cmp : α → α → Ordering) [Std.LawfulEqCmp cmp]
    [DecidableEq α] {ys : List (α × List β)} (h : (ys.map Prod.fst).Nodup) :
    (ys.map Prod.fst).flatMap (fun k => (Sorted.findBy cmp k ys).getD []) = ys.flatMap (·.2) := by
  induction ys with
  | nil => rfl
  | cons e rest ih =>
    obtain ⟨k, v⟩ := e
    simp only [List.map_cons, List.nodup_cons] at h
    -- the later keys differ from the first, so their lookups pass it by
    have skip : ∀ j ∈ rest.map Prod.fst,
        (Sorted.findBy cmp j ((k, v) :: rest)).getD [] = (Sorted.findBy cmp j rest).getD [] := by
      intro j hj
      have hne : j ≠ k := fun e => h.1 (e ▸ hj)
      rw [Sorted.findBy_cons, if_neg hne]
    rw [List.map_cons, List.flatMap_cons, List.flatMap_congr skip, ih h.2, Sorted.findBy_cons, if_pos rfl]
    rfl

theorem VariantIndex.Ordered.line_of_mem {index : VariantIndex} (h : index.Ordered)
    {e : Signature × VariantGroup} (he : e ∈ index) : index.line e.1 = e.2 := by
  unfold VariantIndex.line
  rw [(Sorted.findBy_eq_some_iff h.lines.nodup).mpr he]
  rfl

theorem VariantIndex.Ordered.nodup_versions {index : VariantIndex} (h : index.Ordered)
    {e : Signature × VariantGroup} (he : e ∈ index) : (e.2.map Prod.fst).Nodup := by
  simpa [h.line_of_mem he] using (h.versions e.1).nodup

section Plan

variable (scan : PkginfoScan) (pinned : List (String × String)) (keep : Nat) (orphans : List String)

-- The records at the versions a plan keeps, line by line.
def keptRecords : List PkginfoRecord :=
  scan.index.flatMap fun e => (planGroup scan pinned keep e.1 e.2).flatMap fun x =>
    if x.1.disposition.isDelete then [] else x.2

theorem planCleanup_toDelete :
    (planCleanup scan pinned orphans keep).toDelete =
      scan.index.flatMap fun e => (planGroup scan pinned keep e.1 e.2).flatMap fun x =>
        if x.1.disposition.isDelete then x.2 else [] := by
  simp only [planCleanup, List.flatMap_assoc, List.flatMap_map]

theorem planCleanup_pkgsToKeep :
    (planCleanup scan pinned orphans keep).pkgsToKeep = Sorted.ofList (itemPaths (keptRecords scan pinned keep)) := by
  simp only [planCleanup, keptRecords, List.flatMap_assoc, List.flatMap_map]

theorem planCleanup_pkgsToDelete :
    (planCleanup scan pinned orphans keep).pkgsToDelete =
      (blobsToDelete ((planCleanup scan pinned orphans keep).pkgsToKeep.map Text.lower)
        (planCleanup scan pinned orphans keep).toDelete).1 :=
  rfl

theorem planGroup_records_perm {sig : Signature} {group : VariantGroup} (h : (group.map Prod.fst).Nodup) :
    ((planGroup scan pinned keep sig group).flatMap (·.2)).Perm (group.flatMap (·.2)) := by
  have decided : (planGroup scan pinned keep sig group).flatMap (·.2) =
      (Version.sortNewestFirst (group.map Prod.fst)).flatMap fun v => (Sorted.findBy compare v group).getD [] := by
    conv_rhs => rw [← decideVersions_map_fst sig.name pinned scan.requiredVersions keep 0 (Version.sortNewestFirst _)]
    simp only [planGroup, List.flatMap_map]
  rw [decided, ← Sorted.flatMap_findBy_keys compare h]
  exact (List.mergeSort_perm _ _).flatMap_right _

theorem toDelete_append_kept_perm (h : scan.index.Ordered) :
    ((planCleanup scan pinned orphans keep).toDelete ++ keptRecords scan pinned keep).Perm scan.index.records := by
  rw [planCleanup_toDelete]
  unfold keptRecords VariantIndex.records
  have parts : ∀ x : VersionPlan × List PkginfoRecord,
      ((if x.1.disposition.isDelete then x.2 else []) ++ (if x.1.disposition.isDelete then [] else x.2)).Perm x.2 := by
    intro x
    split <;> simp
  refine (List.flatMap_append_perm _ _ _).trans (List.Perm.flatMap_left _ fun e he => ?_)
  exact ((List.flatMap_append_perm _ _ _).trans (List.Perm.flatMap_left _ fun x _ => parts x)).trans
    (planGroup_records_perm scan pinned keep (h.nodup_versions he))

theorem mem_toDelete {r : PkginfoRecord} :
    r ∈ (planCleanup scan pinned orphans keep).toDelete ↔
      ∃ e ∈ scan.index, ∃ v, (v, .delete) ∈ decideVersions e.1.name pinned scan.requiredVersions keep 0
        (Version.sortNewestFirst (e.2.map Prod.fst)) ∧ r ∈ (Sorted.findBy compare v e.2).getD [] := by
  rw [planCleanup_toDelete]
  simp [planGroup]

end Plan

section Blobs

variable (kept : List String) (locs : List ItemLocation)

-- What the walk over the item locations of deleted records has taken so far: paths that
-- those locations declare, none held by a kept record, each once ignoring case, with their
-- folded forms, newest first, as the set it has seen.
structure BlobsTaken (paths seen : List String) : Prop where
  seen : seen = (paths.map Text.lower).reverse
  nodup : (paths.map Text.lower).Nodup
  free : ∀ p ∈ paths, Text.lower p ∉ kept
  declared : ∀ p ∈ paths, ∃ l ∈ locs, l.path = p

theorem BlobsTaken.step {acc : List String × List String × Nat} (h : BlobsTaken kept locs acc.1 acc.2.1)
    {l : ItemLocation} (hl : l ∈ locs) :
    BlobsTaken kept locs (blobStep kept acc l).1 (blobStep kept acc l).2.1 := by
  obtain ⟨paths, seen, bytes⟩ := acc
  dsimp only at h
  obtain ⟨rfl, nodup, free, declared⟩ := h
  unfold blobStep
  dsimp only
  split
  · exact ⟨rfl, nodup, free, declared⟩
  · rename_i hnew
    simp only [Bool.or_eq_true, not_or, Bool.not_eq_true] at hnew
    -- a path is taken only when no kept record holds it and it was not taken before
    have hkept : Text.lower l.path ∉ kept := by simpa using hnew.1
    have fresh : Text.lower l.path ∉ paths.map Text.lower := by simpa using hnew.2
    refine ⟨by simp, ?_, ?_, ?_⟩
    · rw [List.map_append, List.nodup_append]
      exact ⟨nodup, List.nodup_singleton _, fun a ha b hb => by
        rw [List.mem_singleton.mp hb]
        exact fun e => fresh (e ▸ ha)⟩
    · intro p hp
      rcases List.mem_append.mp hp with hp | hp
      · exact free p hp
      · rw [List.mem_singleton.mp hp]
        exact hkept
    · intro p hp
      rcases List.mem_append.mp hp with hp | hp
      · exact declared p hp
      · exact ⟨l, hl, (List.mem_singleton.mp hp).symm⟩

theorem BlobsTaken.foldl :
    ∀ (ls : List ItemLocation) (acc : List String × List String × Nat), (∀ l ∈ ls, l ∈ locs) →
      BlobsTaken kept locs acc.1 acc.2.1 →
      BlobsTaken kept locs (ls.foldl (blobStep kept) acc).1 (ls.foldl (blobStep kept) acc).2.1
  | [], _, _, h => h
  | l :: ls, _, hls, h =>
    BlobsTaken.foldl ls _ (fun l' hl' => hls l' (List.mem_cons_of_mem _ hl'))
      (h.step kept locs (hls l (List.mem_cons_self ..)))

theorem blobsToDelete_taken (records : List PkginfoRecord) :
    ∃ seen, BlobsTaken kept (records.flatMap PkginfoRecord.itemLocations) (blobsToDelete kept records).1 seen := by
  refine ⟨_, BlobsTaken.foldl kept _ _ ([], [], 0) (fun _ h => h) ⟨rfl, List.nodup_nil, ?_, ?_⟩⟩ <;>
    simp

theorem nodup_lower_blobsToDelete (records : List PkginfoRecord) :
    ((blobsToDelete kept records).1.map Text.lower).Nodup :=
  (blobsToDelete_taken kept records).choose_spec.nodup

theorem mem_blobsToDelete {records : List PkginfoRecord} {p : String} (h : p ∈ (blobsToDelete kept records).1) :
    Text.lower p ∉ kept ∧ ∃ r ∈ records, ∃ l ∈ r.itemLocations, l.path = p := by
  obtain ⟨_, taken⟩ := blobsToDelete_taken kept records
  obtain ⟨l, hl, rfl⟩ := taken.declared p h
  obtain ⟨r, hr, hlr⟩ := List.mem_flatMap.mp hl
  exact ⟨taken.free _ h, r, hr, l, hlr, rfl⟩

end Blobs

section Counted

-- A plan's totals count what it deletes: the records, and the installer items with the
-- orphans that go.
structure CleanupPlan.Counted (p : CleanupPlan) : Prop where
  records : p.stats.pkginfosToDelete = p.toDelete.length
  pkgs : p.stats.pkgsToDelete = p.pkgsToDelete.length + p.orphansToDelete.length

namespace CleanupPlan

variable (p : CleanupPlan)

@[simp] theorem holdOrphans_toDelete : p.holdOrphans.toDelete = p.toDelete := by
  unfold holdOrphans
  split <;> rfl

@[simp] theorem holdOrphans_pkgsToDelete : p.holdOrphans.pkgsToDelete = p.pkgsToDelete := by
  unfold holdOrphans
  split <;> rfl

@[simp] theorem holdOrphans_pkgsToKeep : p.holdOrphans.pkgsToKeep = p.pkgsToKeep := by
  unfold holdOrphans
  split <;> rfl

@[simp] theorem holdOrphans_orphansToDelete : p.holdOrphans.orphansToDelete = [] := by
  unfold holdOrphans orphansToDelete
  split <;> rfl

theorem Counted.holdOrphans {p : CleanupPlan} (h : p.Counted) : p.holdOrphans.Counted := by
  unfold CleanupPlan.holdOrphans
  split
  · exact h
  · rename_i held
    -- the orphans leave the total that counted them
    have hcount : p.stats.pkgsToDelete = p.pkgsToDelete.length + p.orphanedInstallerPaths.length := by
      simpa [orphansToDelete, held] using h.pkgs
    exact ⟨h.records, by simp [orphansToDelete, hcount]⟩

end CleanupPlan

variable (scan : PkginfoScan) (pinned : List (String × String)) (keep : Nat) (orphans : List String)

theorem counted_planCleanup : (planCleanup scan pinned orphans keep).Counted :=
  ⟨rfl, rfl⟩

variable (config : CleanConfig) (manifests : ManifestScan)

theorem counted_planFrom : (planFrom config manifests scan orphans).Counted := by
  unfold planFrom
  split
  · exact (counted_planCleanup _ _ _ _).holdOrphans
  · exact counted_planCleanup _ _ _ _

theorem planFrom_toDelete :
    (planFrom config manifests scan orphans).toDelete =
      (planCleanup scan manifests.pinnedVersions orphans config.keep).toDelete := by
  unfold planFrom
  split <;> simp

theorem planFrom_pkgsToDelete :
    (planFrom config manifests scan orphans).pkgsToDelete =
      (planCleanup scan manifests.pinnedVersions orphans config.keep).pkgsToDelete := by
  unfold planFrom
  split <;> simp

theorem planFrom_pkgsToKeep :
    (planFrom config manifests scan orphans).pkgsToKeep =
      (planCleanup scan manifests.pinnedVersions orphans config.keep).pkgsToKeep := by
  unfold planFrom
  split <;> simp

-- Orphans go only when every record could be loaded.
theorem planFrom_orphansToDelete :
    (planFrom config manifests scan orphans).orphansToDelete =
      if scan.report.hasErrors then [] else orphans := by
  unfold planFrom
  dsimp only
  by_cases h : scan.report.hasErrors = true
  · rw [if_pos h, if_pos h]
    exact CleanupPlan.holdOrphans_orphansToDelete _
  · rw [if_neg h, if_neg h]
    rfl

end Counted

end Depot
