import Depot.Proofs.Plan

namespace Depot

theorem Size.wrappingAdd_right_comm (n a b : Nat) :
    Size.wrappingAdd (Size.wrappingAdd n a) b = Size.wrappingAdd (Size.wrappingAdd n b) a := by
  simp only [Size.wrappingAdd, Nat.mod_add_mod, Nat.add_right_comm]

-- The decisions of a plan, line by line and newest version first.
def CleanupPlan.decisions (p : CleanupPlan) : List (Signature × String × Disposition) :=
  p.groups.flatMap fun g => g.versions.map fun v => (g.signature, v.version, v.disposition)

-- Two plans that decide alike: the same decisions, the same records to delete in some order,
-- the same kept item paths, the same installer items up to case, and the same totals of
-- records, items and metadata bytes. The declared bytes of the installer items may differ,
-- with the spelling that stands for an item named under several cases.
structure CleanupPlan.Agree (p₁ p₂ : CleanupPlan) : Prop where
  decisions : p₁.decisions = p₂.decisions
  toDelete : p₁.toDelete.Perm p₂.toDelete
  pkgsToKeep : p₁.pkgsToKeep = p₂.pkgsToKeep
  pkgsToDelete : ∀ q, q ∈ p₁.pkgsToDelete.map Text.lower ↔ q ∈ p₂.pkgsToDelete.map Text.lower
  pkginfosToDelete : p₁.stats.pkginfosToDelete = p₂.stats.pkginfosToDelete
  pkgCount : p₁.stats.pkgsToDelete = p₂.stats.pkgsToDelete
  metadataBytes : p₁.stats.metadataBytes = p₂.stats.metadataBytes

-- What a plan reads of the shape of an index: each line with its versions.
def VariantIndex.shape (index : VariantIndex) : List (Signature × List String) :=
  index.map fun e => (e.1, e.2.map Prod.fst)

theorem VariantIndex.Ordered.shape_eq {index : VariantIndex} (h : index.Ordered) :
    index.shape = (index.map Prod.fst).map fun sig => (sig, (index.line sig).map Prod.fst) := by
  rw [VariantIndex.shape, List.map_map]
  exact List.map_congr_left fun e he => by simp [h.line_of_mem he]

-- Two scans that a plan cannot tell apart: ordered indexes with the same lines and versions
-- and the same records at each version up to their order, and the same required versions.
structure PkginfoScan.Alike (s₁ s₂ : PkginfoScan) : Prop where
  left : s₁.index.Ordered
  right : s₂.index.Ordered
  shape : s₁.index.shape = s₂.index.shape
  buckets : ∀ sig v, (s₁.index.bucket sig v).Perm (s₂.index.bucket sig v)
  required : ∀ p, p ∈ s₁.requiredVersions ↔ p ∈ s₂.requiredVersions

section Decide

-- The decision on a version reads the required versions only as a set.
theorem decideVersions_congr {required₁ required₂ : List (String × String)}
    (h : ∀ p, p ∈ required₁ ↔ p ∈ required₂) (name : String) (pinned : List (String × String))
    (keep : Nat) (rank : Nat) (vs : List String) :
    decideVersions name pinned required₁ keep rank vs = decideVersions name pinned required₂ keep rank vs := by
  induction vs generalizing rank with
  | nil => rfl
  | cons v vs ih =>
    have hc : required₁.contains (name, v) = required₂.contains (name, v) := by
      simp [h]
    simp only [decideVersions, hc, ih]

end Decide

section Plan

variable (scan : PkginfoScan) (pinned : List (String × String)) (keep : Nat) (orphans : List String)

theorem planCleanup_decisions :
    (planCleanup scan pinned orphans keep).decisions =
      scan.index.shape.flatMap fun e =>
        (decideVersions e.1.name pinned scan.requiredVersions keep 0 (Version.sortNewestFirst e.2)).map
          fun x => (e.1, x.1, x.2) := by
  simp only [planCleanup, CleanupPlan.decisions, VariantIndex.shape, planGroup, List.flatMap_map,
    List.map_map, Function.comp_def]

-- The records a plan takes at its versions, read off its decisions: in an ordered index the
-- records of a version are its bucket.
theorem flatMap_planGroup (h : scan.index.Ordered) (f : Disposition → List PkginfoRecord → List PkginfoRecord) :
    scan.index.flatMap (fun e => (planGroup scan pinned keep e.1 e.2).flatMap fun x => f x.1.disposition x.2) =
      (planCleanup scan pinned orphans keep).decisions.flatMap fun t => f t.2.2 (scan.index.bucket t.1 t.2.1) := by
  rw [planCleanup_decisions, VariantIndex.shape, List.flatMap_map, List.flatMap_assoc]
  refine List.flatMap_congr fun e he => ?_
  simp only [planGroup, List.flatMap_map, VariantIndex.bucket, h.line_of_mem he]

theorem toDelete_eq_decisions (h : scan.index.Ordered) :
    (planCleanup scan pinned orphans keep).toDelete =
      (planCleanup scan pinned orphans keep).decisions.flatMap fun t =>
        if t.2.2.isDelete then scan.index.bucket t.1 t.2.1 else [] := by
  rw [planCleanup_toDelete]
  exact flatMap_planGroup scan pinned keep orphans h fun d rs => if d.isDelete then rs else []

theorem keptRecords_eq_decisions (h : scan.index.Ordered) :
    keptRecords scan pinned keep =
      (planCleanup scan pinned orphans keep).decisions.flatMap fun t =>
        if t.2.2.isDelete then [] else scan.index.bucket t.1 t.2.1 :=
  flatMap_planGroup scan pinned keep orphans h fun d rs => if d.isDelete then [] else rs

theorem planCleanup_metadataBytes :
    (planCleanup scan pinned orphans keep).stats.metadataBytes =
      (planCleanup scan pinned orphans keep).toDelete.foldl (fun n r => Size.wrappingAdd n r.metadataSize) 0 :=
  rfl

end Plan

section Blobs

variable (kept : List String) {q : String}

theorem mem_seen_blobStep (acc : List String × List String × Nat) (l : ItemLocation) :
    q ∈ (blobStep kept acc l).2.1 ↔ q ∈ acc.2.1 ∨ (Text.lower l.path = q ∧ q ∉ kept) := by
  obtain ⟨paths, seen, bytes⟩ := acc
  unfold blobStep
  dsimp only
  split
  · rename_i hold
    -- a path already taken, or kept, adds nothing new
    refine ⟨.inl, fun hq => hq.elim id fun ⟨hl, hk⟩ => ?_⟩
    subst hl
    simpa [hk] using hold
  · rename_i hnew
    have hkept : Text.lower l.path ∉ kept := by simpa using (not_or.mp (by simpa using hnew)).1
    simp only [List.mem_cons]
    constructor
    · rintro (rfl | hq)
      · exact .inr ⟨rfl, hkept⟩
      · exact .inl hq
    · rintro (hq | ⟨rfl, -⟩)
      · exact .inr hq
      · exact .inl rfl

theorem mem_seen_foldl_blobStep :
    ∀ (ls : List ItemLocation) (acc : List String × List String × Nat),
      q ∈ (ls.foldl (blobStep kept) acc).2.1 ↔ q ∈ acc.2.1 ∨ ∃ l ∈ ls, Text.lower l.path = q ∧ q ∉ kept
  | [], acc => by simp
  | l :: ls, acc => by
    rw [List.foldl_cons, mem_seen_foldl_blobStep ls, mem_seen_blobStep]
    simp only [List.mem_cons, exists_eq_or_imp, or_assoc]

theorem mem_lower_blobsToDelete (records : List PkginfoRecord) :
    q ∈ (blobsToDelete kept records).1.map Text.lower ↔
      q ∉ kept ∧ ∃ r ∈ records, ∃ l ∈ r.itemLocations, Text.lower l.path = q := by
  obtain ⟨hseen, -, -, -⟩ : BlobsTaken kept (records.flatMap PkginfoRecord.itemLocations)
      (blobsToDelete kept records).1
      ((records.flatMap PkginfoRecord.itemLocations).foldl (blobStep kept) ([], [], 0)).2.1 :=
    BlobsTaken.foldl kept _ _ ([], [], 0) (fun _ h => h) ⟨rfl, List.nodup_nil, by simp, by simp⟩
  rw [← List.mem_reverse, ← hseen, mem_seen_foldl_blobStep]
  simp only [List.not_mem_nil, false_or, List.mem_flatMap]
  constructor
  · rintro ⟨l, ⟨r, hr, hl⟩, rfl, hk⟩
    exact ⟨hk, r, hr, l, hl, rfl⟩
  · rintro ⟨hk, r, hr, l, hl, rfl⟩
    exact ⟨l, ⟨r, hr, hl⟩, rfl, hk⟩

end Blobs

namespace PkginfoScan.Alike

variable {s₁ s₂ : PkginfoScan} (h : s₁.Alike s₂) (pinned : List (String × String)) (keep : Nat)
  (orphans : List String)
include h

theorem decisions_eq :
    (planCleanup s₁ pinned orphans keep).decisions = (planCleanup s₂ pinned orphans keep).decisions := by
  rw [planCleanup_decisions, planCleanup_decisions, h.shape]
  simp only [decideVersions_congr h.required]

-- The records picked at each decision, by a rule that does not see their order.
theorem perm_flatMap_buckets (f : Disposition → List PkginfoRecord → List PkginfoRecord)
    (hf : ∀ d {rs rs' : List PkginfoRecord}, rs.Perm rs' → (f d rs).Perm (f d rs'))
    (ds : List (Signature × String × Disposition)) :
    (ds.flatMap fun t => f t.2.2 (s₁.index.bucket t.1 t.2.1)).Perm
      (ds.flatMap fun t => f t.2.2 (s₂.index.bucket t.1 t.2.1)) :=
  List.Perm.flatMap_left _ fun t _ => hf t.2.2 (h.buckets t.1 t.2.1)

theorem toDelete_perm :
    (planCleanup s₁ pinned orphans keep).toDelete.Perm (planCleanup s₂ pinned orphans keep).toDelete := by
  rw [toDelete_eq_decisions _ _ _ _ h.left, toDelete_eq_decisions _ _ _ _ h.right,
    h.decisions_eq pinned keep orphans]
  exact h.perm_flatMap_buckets (fun d rs => if d.isDelete then rs else [])
    (fun d _ _ hp => by split <;> simp [hp]) _

theorem keptRecords_perm : (keptRecords s₁ pinned keep).Perm (keptRecords s₂ pinned keep) := by
  rw [keptRecords_eq_decisions _ _ _ [] h.left, keptRecords_eq_decisions _ _ _ [] h.right,
    h.decisions_eq pinned keep []]
  exact h.perm_flatMap_buckets (fun d rs => if d.isDelete then [] else rs)
    (fun d _ _ hp => by split <;> simp [hp]) _

theorem pkgsToKeep_eq :
    (planCleanup s₁ pinned orphans keep).pkgsToKeep = (planCleanup s₂ pinned orphans keep).pkgsToKeep := by
  rw [planCleanup_pkgsToKeep, planCleanup_pkgsToKeep]
  exact Sorted.ofList_eq_of_perm ((h.keptRecords_perm pinned keep).flatMap_right _)

theorem mem_lower_pkgsToDelete {q : String} :
    q ∈ (planCleanup s₁ pinned orphans keep).pkgsToDelete.map Text.lower ↔
      q ∈ (planCleanup s₂ pinned orphans keep).pkgsToDelete.map Text.lower := by
  rw [planCleanup_pkgsToDelete, planCleanup_pkgsToDelete, mem_lower_blobsToDelete,
    mem_lower_blobsToDelete, h.pkgsToKeep_eq pinned keep orphans]
  simp only [(h.toDelete_perm pinned keep orphans).mem_iff]

-- The installer items go once each up to case, and the two plans name the same classes, so
-- they name as many.
theorem length_pkgsToDelete :
    (planCleanup s₁ pinned orphans keep).pkgsToDelete.length =
      (planCleanup s₂ pinned orphans keep).pkgsToDelete.length := by
  have classes : ((planCleanup s₁ pinned orphans keep).pkgsToDelete.map Text.lower).Perm
      ((planCleanup s₂ pinned orphans keep).pkgsToDelete.map Text.lower) :=
    (List.perm_ext_iff_of_nodup (nodup_lower_blobsToDelete _ _) (nodup_lower_blobsToDelete _ _)).mpr
      fun _ => h.mem_lower_pkgsToDelete pinned keep orphans
  simpa using classes.length_eq

theorem metadataBytes_eq :
    (planCleanup s₁ pinned orphans keep).stats.metadataBytes =
      (planCleanup s₂ pinned orphans keep).stats.metadataBytes := by
  rw [planCleanup_metadataBytes, planCleanup_metadataBytes]
  exact (h.toDelete_perm pinned keep orphans).foldl_eq'
    (fun _ _ _ _ n => Size.wrappingAdd_right_comm n _ _) 0

-- Scans that a plan cannot tell apart give plans that decide alike.
theorem agree :
    (planCleanup s₁ pinned orphans keep).Agree (planCleanup s₂ pinned orphans keep) := by
  have counted₁ := counted_planCleanup s₁ pinned keep orphans
  have counted₂ := counted_planCleanup s₂ pinned keep orphans
  refine ⟨h.decisions_eq pinned keep orphans, h.toDelete_perm pinned keep orphans,
    h.pkgsToKeep_eq pinned keep orphans, fun _ => h.mem_lower_pkgsToDelete pinned keep orphans,
    ?records, ?items, h.metadataBytes_eq pinned keep orphans⟩
  case records =>
    rw [counted₁.records, counted₂.records]
    exact (h.toDelete_perm pinned keep orphans).length_eq
  case items =>
    rw [counted₁.pkgs, counted₂.pkgs, h.length_pkgsToDelete pinned keep orphans]
    rfl

end PkginfoScan.Alike

section Listing

variable {L₁ L₂ : List (String × Except Error PkginfoRecord)}

-- Indexing two listings of the same records gives scans that a plan cannot tell apart.
theorem alike_indexPkgsinfo (h : L₁.Perm L₂) (names : List String) :
    (indexPkgsinfo L₁ names).Alike (indexPkgsinfo L₂ names) := by
  have parsed : (parsedRecords L₁).Perm (parsedRecords L₂) := h.filterMap _
  have keys : (indexPkgsinfo L₁ names).index.map Prod.fst = (indexPkgsinfo L₂ names).index.map Prod.fst :=
    (ordered_indexPkgsinfo L₁ names).lines.eq_of_mem_iff (ordered_indexPkgsinfo L₂ names).lines
      fun _ => by simp only [mem_keys_indexPkgsinfo, parsed.mem_iff]
  have versions : ∀ sig, ((indexPkgsinfo L₁ names).index.line sig).map Prod.fst =
      ((indexPkgsinfo L₂ names).index.line sig).map Prod.fst := fun sig => by
    rw [versions_indexPkgsinfo, versions_indexPkgsinfo]
    exact Sorted.ofList_eq_of_perm ((parsed.filter _).map _)
  refine ⟨ordered_indexPkgsinfo L₁ names, ordered_indexPkgsinfo L₂ names, ?shape, ?buckets, ?required⟩
  case shape =>
    rw [(ordered_indexPkgsinfo L₁ names).shape_eq, (ordered_indexPkgsinfo L₂ names).shape_eq, keys]
    simp only [versions]
  case buckets =>
    intro sig v
    rw [bucket_indexPkgsinfo, bucket_indexPkgsinfo]
    exact parsed.filter _
  case required =>
    intro p
    simp only [mem_requiredVersions_indexPkgsinfo, parsed.mem_iff]

-- The deletion decisions do not depend on the order in which the package records are listed.
theorem plan_ignores_listing_order (h : L₁.Perm L₂) (names : List String)
    (pinned : List (String × String)) (orphans : List String) (keep : Nat) :
    (planCleanup (indexPkgsinfo L₁ names) pinned orphans keep).Agree
      (planCleanup (indexPkgsinfo L₂ names) pinned orphans keep) :=
  (alike_indexPkgsinfo h names).agree pinned keep orphans

-- Version `v` of one item, with its installer.
def fooRecord (v : String) : PkginfoRecord where
  identifier := "pkgsinfo/Foo-" ++ v
  metadataSize := 100
  name := "Foo"
  version := v
  catalogs := ["testing"]
  requires := []
  updateFor := []
  uninstallMethod := none
  receipts := []
  installer := some ⟨"Foo-" ++ v ++ ".pkg", 1024⟩
  uninstaller := none
  installerType := none
  remotePackage := false
  constraints := ⟨none, none, [], none⟩
  document := []

-- Two versions of one item, listed oldest first.
def fooListing : List (String × Except Error PkginfoRecord) :=
  [("pkgsinfo/Foo-1.0", .ok (fooRecord "1.0")), ("pkgsinfo/Foo-2.0", .ok (fooRecord "2.0"))]

theorem fooVersions_planned_alike_reversed :
    fooListing.Perm fooListing.reverse ∧
      (planCleanup (indexPkgsinfo fooListing []) [] [] 1).Agree
        (planCleanup (indexPkgsinfo fooListing.reverse []) [] [] 1) :=
  ⟨(List.reverse_perm _).symm, plan_ignores_listing_order (List.reverse_perm _).symm [] [] [] 1⟩

end Listing

end Depot
