import Mathlib
import Depot.Proofs.ItemPaths

namespace Depot

theorem Size.wrappingAdd_eq (a b : Nat) : Size.wrappingAdd a b = (a + b) % Nat.pow 2 64 := rfl

-- Adding up within a 64-bit word is adding up and then wrapping once.
theorem foldl_wrappingAdd {α : Type} (f : α → Nat) :
    ∀ (xs : List α) (b : Nat), b < Nat.pow 2 64 →
      xs.foldl (fun n x => Size.wrappingAdd n (f x)) b = (b + (xs.map f).sum) % Nat.pow 2 64
  | [], b, hb => by simp [Nat.mod_eq_of_lt hb]
  | x :: xs, b, _ => by
    rw [List.foldl_cons, foldl_wrappingAdd f xs (Size.wrappingAdd b (f x)) (Nat.mod_lt _ (by decide)),
      Size.wrappingAdd_eq, List.map_cons, List.sum_cons, Nat.mod_add_mod, Nat.add_assoc]

section Blobs

variable (kept : List String)

-- The item locations whose paths a walk takes: of the locations given, in order, the first of
-- each class of paths equal up to case, leaving out the classes of kept paths.
def locationsTaken (ls : List ItemLocation) : List ItemLocation :=
  firstByKey (fun l => Text.lower l.path) (ls.filter fun l => Text.lower l.path ∉ kept)

theorem blobsToDelete_paths (records : List PkginfoRecord) :
    (blobsToDelete kept records).1 = (locationsTaken kept (records.flatMap PkginfoRecord.itemLocations)).map (·.path) := by
  rw [blobsToDelete_eq_firstByKey, locationsTaken, itemPaths, ← List.map_flatMap, List.filter_map, firstByKey_map]
  rfl

theorem blobsToDelete_bytes (records : List PkginfoRecord) :
    (blobsToDelete kept records).2 =
      ((locationsTaken kept (records.flatMap PkginfoRecord.itemLocations)).map (·.size)).sum % Nat.pow 2 64 := by
  have walk := foldl_blobStep kept (records.flatMap PkginfoRecord.itemLocations) [] [] 0
  simp only [List.not_mem_nil, not_false_eq_true, and_true] at walk
  show ((records.flatMap PkginfoRecord.itemLocations).foldl (blobStep kept) ([], [], 0)).2.2 = _
  rw [walk, foldl_takeLocation_bytes, foldl_wrappingAdd _ _ 0 (by decide), Nat.zero_add]
  rfl

end Blobs

def CleanupPlan.deletedLocations (p : CleanupPlan) : List ItemLocation :=
  locationsTaken (p.pkgsToKeep.map Text.lower) (p.toDelete.flatMap PkginfoRecord.itemLocations)

structure CleanupPlan.CountsBytes (p : CleanupPlan) : Prop where
  deleted : p.pkgsToDelete = p.deletedLocations.map (·.path)
  pkgBytes : p.stats.pkgBytes = (p.deletedLocations.map (·.size)).sum % Nat.pow 2 64
  metadataBytes : p.stats.metadataBytes = (p.toDelete.map (·.metadataSize)).sum % Nat.pow 2 64

section Plan

variable (scan : PkginfoScan) (pinned : List (String × String)) (keep : Nat) (orphans : List String)

theorem planCleanup_pkgBytes :
    (planCleanup scan pinned orphans keep).stats.pkgBytes =
      (blobsToDelete ((planCleanup scan pinned orphans keep).pkgsToKeep.map Text.lower)
        (planCleanup scan pinned orphans keep).toDelete).2 :=
  rfl

-- Both totals of a plan wrap around at `2 ^ 64`: they are exact only while the sums stay below.
theorem planCleanup_counts_bytes : (planCleanup scan pinned orphans keep).CountsBytes where
  deleted := (planCleanup_pkgsToDelete scan pinned keep orphans).trans (blobsToDelete_paths _ _)
  pkgBytes := (planCleanup_pkgBytes scan pinned keep orphans).trans (blobsToDelete_bytes _ _)
  metadataBytes := by
    rw [planCleanup_metadataBytes, foldl_wrappingAdd _ _ 0 (by decide), Nat.zero_add]

end Plan

namespace CleanupPlan.CountsBytes

variable {p : CleanupPlan} (h : p.CountsBytes)
include h

theorem pkgBytes_eq_sum (hlt : (p.deletedLocations.map (·.size)).sum < Nat.pow 2 64) :
    p.stats.pkgBytes = (p.deletedLocations.map (·.size)).sum := by
  rw [h.pkgBytes, Nat.mod_eq_of_lt hlt]

theorem metadataBytes_eq_sum (hlt : (p.toDelete.map (·.metadataSize)).sum < Nat.pow 2 64) :
    p.stats.metadataBytes = (p.toDelete.map (·.metadataSize)).sum := by
  rw [h.metadataBytes, Nat.mod_eq_of_lt hlt]

end CleanupPlan.CountsBytes

def wideItemsDoc : String :=
  "<plist><dict><key>name</key><string>A</string><key>version</key><string>1</string>" ++
    "<key>installer_item_location</key><string>a</string>" ++
    "<key>installer_item_size</key><integer>18014398509481984</integer>" ++
    "<key>uninstaller_item_location</key><string>u</string>" ++
    "<key>uninstaller_item_size</key><integer>18014398509481984</integer></dict></plist>"

def wideItemsListing : List (String × Except Error PkginfoRecord) :=
  [("pkgsinfo/a", PkginfoRecord.parse "pkgsinfo/a" wideItemsDoc.toUTF8)]

-- Deleting the record deletes both items, whose sizes add up past the largest word.
theorem wide_items_wrap_byte_total :
    (planCleanup (indexPkgsinfo wideItemsListing []) [] [] 0).pkgsToDelete = ["a", "u"] ∧
      ((planCleanup (indexPkgsinfo wideItemsListing []) [] [] 0).deletedLocations.map (·.size)).sum =
        36893488147419103230 ∧
      (planCleanup (indexPkgsinfo wideItemsListing []) [] [] 0).stats.pkgBytes = 18446744073709551614 := by
  decide +kernel

end Depot
