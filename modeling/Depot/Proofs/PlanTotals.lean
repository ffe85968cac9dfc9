import Depot.Proofs.Plan
import Mathlib.Logic.Function.Iterate

namespace Depot

namespace CleanupPlan

variable {p : CleanupPlan}

-- A plan whose totals count what it deletes, and that plans installer items only along with
-- records: the invariant that holding the orphans preserves.
structure Balanced (p : CleanupPlan) : Prop extends p.Counted where
  items_with_records : p.toDelete = [] → p.pkgsToDelete = []

theorem Counted.orphans_le (h : p.Counted) (hfree : p.orphansHeld = false) :
    p.orphanedInstallerPaths.length ≤ p.stats.pkgsToDelete := by
  have pkgs := h.pkgs
  rw [orphansToDelete, if_neg (by simp [hfree])] at pkgs
  omega

theorem Balanced.holdOrphans (h : p.Balanced) : p.holdOrphans.Balanced where
  toCounted := h.toCounted.holdOrphans
  items_with_records := by
    simpa only [holdOrphans_toDelete, holdOrphans_pkgsToDelete] using h.items_with_records

-- The run lemma: holding the orphans any number of times keeps the plan balanced.
theorem Balanced.iterate_holdOrphans (h : p.Balanced) : ∀ k, (CleanupPlan.holdOrphans^[k] p).Balanced
  | 0 => h
  | k + 1 => by
    rw [Function.iterate_succ_apply']
    exact (h.iterate_holdOrphans k).holdOrphans

-- A plan is empty when it deletes no record and no orphan; in a balanced plan that is when
-- both totals are zero, since its installer items come with records.
theorem Balanced.isEmpty_iff (h : p.Balanced) :
    p.isEmpty = true ↔ p.stats.pkginfosToDelete = 0 ∧ p.stats.pkgsToDelete = 0 := by
  have orphans : p.orphansToDelete = [] ↔ (p.orphansHeld = true ∨ p.orphanedInstallerPaths = []) := by
    unfold orphansToDelete
    split <;> simp_all
  rw [h.records, h.pkgs, List.length_eq_zero_iff, Nat.add_eq_zero_iff, List.length_eq_zero_iff,
    List.length_eq_zero_iff, orphans]
  unfold isEmpty
  constructor
  · intro hempty
    simp only [Bool.and_eq_true, List.isEmpty_iff, Bool.or_eq_true] at hempty
    exact ⟨hempty.1, h.items_with_records hempty.1, hempty.2⟩
  · rintro ⟨hrecords, -, hheld⟩
    simpa [hrecords] using hheld

@[simp] theorem holdOrphans_orphansHeld : p.holdOrphans.orphansHeld = true := by
  unfold holdOrphans
  split <;> simp_all

theorem holdOrphans_of_held (h : p.orphansHeld = true) : p.holdOrphans = p := by
  rw [holdOrphans, if_pos h]

-- Once held, the orphans stay held: every call after the first changes nothing.
theorem iterate_succ_holdOrphans (k : Nat) : holdOrphans^[k + 1] p = p.holdOrphans := by
  induction k with
  | zero => rfl
  | succ k ih => rw [Function.iterate_succ_apply', ih, holdOrphans_of_held holdOrphans_orphansHeld]

theorem holdOrphans_warnings :
    p.holdOrphans.warnings = p.warnings ++
      if p.orphansHeld = false ∧ p.orphanedInstallerPaths ≠ [] then
        [toString p.orphanedInstallerPaths.length ++
          " unreferenced pkgs were left in place because some pkginfo items could not be loaded"]
      else [] := by
  unfold holdOrphans
  by_cases held : p.orphansHeld = true
  · simp [held]
  · by_cases none : p.orphanedInstallerPaths = [] <;> simp [held, none]

end CleanupPlan

open CleanupPlan

variable (scan : PkginfoScan) (pinned : List (String × String)) (orphans : List String) (keep : Nat)

theorem balanced_planCleanup : (planCleanup scan pinned orphans keep).Balanced where
  toCounted := counted_planCleanup scan pinned keep orphans
  items_with_records := by
    intro hnone
    -- every installer item planned is an item of a record planned
    refine List.eq_nil_iff_forall_not_mem.2 fun path hpath => ?_
    rw [planCleanup_pkgsToDelete] at hpath
    obtain ⟨-, r, hr, -⟩ := mem_blobsToDelete _ hpath
    rw [hnone] at hr
    exact List.not_mem_nil hr

theorem iterate_holdOrphans_warnings (k : Nat) :
    (holdOrphans^[k] (planCleanup scan pinned orphans keep)).warnings =
      (planCleanup scan pinned orphans keep).warnings ++
        if 0 < k ∧ orphans ≠ [] then
          [toString orphans.length ++
            " unreferenced pkgs were left in place because some pkginfo items could not be loaded"]
        else [] := by
  cases k with
  | zero => simp
  | succ k =>
    -- the first call warns as the plan stands, the later ones change nothing
    rw [iterate_succ_holdOrphans, holdOrphans_warnings]
    simp [planCleanup]

theorem plan_totals_survive_holding (k : Nat) :
    (holdOrphans^[k] (planCleanup scan pinned orphans keep)).stats.pkginfosToDelete =
        (holdOrphans^[k] (planCleanup scan pinned orphans keep)).toDelete.length ∧
      (holdOrphans^[k] (planCleanup scan pinned orphans keep)).stats.pkgsToDelete =
        (holdOrphans^[k] (planCleanup scan pinned orphans keep)).pkgsToDelete.length +
          (holdOrphans^[k] (planCleanup scan pinned orphans keep)).orphansToDelete.length ∧
      ((holdOrphans^[k] (planCleanup scan pinned orphans keep)).orphansHeld = false →
        (holdOrphans^[k] (planCleanup scan pinned orphans keep)).orphanedInstallerPaths.length ≤
          (holdOrphans^[k] (planCleanup scan pinned orphans keep)).stats.pkgsToDelete) ∧
      holdOrphans^[k + 2] (planCleanup scan pinned orphans keep) =
        holdOrphans^[k + 1] (planCleanup scan pinned orphans keep) ∧
      (holdOrphans^[k] (planCleanup scan pinned orphans keep)).warnings =
        (planCleanup scan pinned orphans keep).warnings ++
          (if 0 < k ∧ orphans ≠ [] then
            [toString orphans.length ++
              " unreferenced pkgs were left in place because some pkginfo items could not be loaded"]
          else []) ∧
      ((holdOrphans^[k] (planCleanup scan pinned orphans keep)).isEmpty = true ↔
        (holdOrphans^[k] (planCleanup scan pinned orphans keep)).stats.pkginfosToDelete = 0 ∧
          (holdOrphans^[k] (planCleanup scan pinned orphans keep)).stats.pkgsToDelete = 0) := by
  have balanced := (balanced_planCleanup scan pinned orphans keep).iterate_holdOrphans k
  have settled : holdOrphans^[k + 2] (planCleanup scan pinned orphans keep) =
      holdOrphans^[k + 1] (planCleanup scan pinned orphans keep) := by
    rw [iterate_succ_holdOrphans, iterate_succ_holdOrphans]
  exact ⟨balanced.records, balanced.pkgs, balanced.orphans_le, settled,
    iterate_holdOrphans_warnings scan pinned orphans keep k, balanced.isEmpty_iff⟩

end Depot
