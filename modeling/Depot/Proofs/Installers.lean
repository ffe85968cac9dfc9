import Depot.Proofs.Retention

namespace Depot

section Each

variable {σ : Type} [Repository σ]

theorem reach_deleteEach {U : String → Prop} (s : σ) :
    ∀ ids : List String, Repository.Reach (· ∈ ids) U s (deleteEach s ids).1
  | [] => .refl s
  | id :: ids =>
    .delete List.mem_cons_self ((reach_deleteEach (Repository.delete s id).1 ids).mono
      (fun _ h => List.mem_cons_of_mem id h) fun _ h => h)

-- The store a confirmed run leaves before it rebuilds the catalogs: the planned records
-- deleted, then the installer items that no record whose deletion failed holds, then the
-- orphans.
def afterDeletion (s : σ) (plan : CleanupPlan) : σ :=
  let first := deleteEach s (plan.toDelete.map PkginfoRecord.identifier)
  (deleteEach first.1 ((plan.blobs (foldedPaths (failedRecords plan.toDelete first.2))).map
    Collection.pkgs.identifier)).1

-- Some record of the store's listing fails to load.
def RecordFails (s : σ) : Prop :=
  ∃ ids, Repository.list s .pkgsinfo = .ok ids ∧ ∃ id ∈ ids, ∃ e, loadRecord s id = .error e

end Each

section Run

variable {σ γ : Type} [Repository σ] [Confirm γ] (config : CleanConfig) (log : Logger)

theorem cleanup_store_cases (c : Cleaning σ γ) :
    ((cleanup config log).run.run c).2.session.store = c.session.store ∨
      ∃ plan summary c₁, (analyze config log).run.run c = (.ok (plan, summary), c₁) ∧
        Repository.Reach IsCatalog IsCatalogOutput (afterDeletion c.session.store plan)
          ((cleanup config log).run.run c).2.session.store := by
  rcases cleanup_cases config log c with ⟨e, c₁, hs, -, lead, -, hr⟩ | ⟨plan, summary, c₁, ha, lead, after⟩
  · rw [hr]
    exact .inl lead.reach.eq_of_noIdentifier
  have unchanged : c₁.session.store = c.session.store := lead.reach.eq_of_noIdentifier
  rcases after.store_eq_or_confirmed with same | ⟨c', lead', -, summary', tail⟩
  · exact .inl (same.trans unchanged)
  obtain ⟨hs, rebuild, -, -⟩ := tail _ _ (deletePlan_run log plan summary' c'.session)
  refine .inr ⟨plan, summary, c₁, ha, ?_⟩
  -- the deletions start from the store the analysis read
  have start : c'.session.store = c.session.store := lead'.reach.eq_of_noIdentifier.trans unchanged
  rw [← start]
  exact rebuild.reach

end Run

theorem Collection.not_isCatalogOutput {c : Collection} (hc : c = .pkgsinfo ∨ c = .pkgs) (x : String) :
    ¬ IsCatalogOutput (c.identifier x) := by
  -- the first letter tells the collections apart
  rintro (⟨name, h⟩ | h) <;> rcases hc with rfl | rfl <;>
  · have := congrArg (fun s => s.toList.take 1) h
    simp [Collection.identifier, Collection.name, iconHashesName] at this

section Memory

variable {s : MemoryStore} {x : String}

theorem mem_of_mem_deleteEach {ids : List String} (h : x ∈ (deleteEach s ids).1.identifiers) :
    x ∈ s.identifiers :=
  (reach_deleteEach s ids : Repository.Reach _ noIdentifier _ _).mem_identifiers_of h id

theorem mem_deleteEach_of_not_mem {ids : List String} (hx : x ∈ s.identifiers) (hn : x ∉ ids) :
    x ∈ (deleteEach s ids).1.identifiers :=
  (reach_deleteEach s ids : Repository.Reach _ noIdentifier _ _).mem_identifiers hx hn

theorem mem_failedRecords_of_mem_identifiers :
    ∀ {records : List PkginfoRecord} {r : PkginfoRecord} {s : MemoryStore}, r ∈ records →
      r.identifier ∈ (deleteEach s (records.map PkginfoRecord.identifier)).1.identifiers →
      r ∈ failedRecords records (deleteEach s (records.map PkginfoRecord.identifier)).2
  | [], _, _, hr, _ => absurd hr List.not_mem_nil
  | r₀ :: rs, r, s, hr, hm => by
    simp only [List.map_cons, deleteEach_cons] at hm ⊢
    rw [failedRecords_cons]
    rcases List.mem_cons.mp hr with rfl | hr
    · -- had the first deletion gone through, the identifier would be gone for good
      have first : r.identifier ∈ (Repository.delete s r.identifier).1.identifiers := mem_of_mem_deleteEach hm
      rcases MemoryStore.repository_delete_cases s r.identifier with e | ⟨err, e⟩
      · exact absurd first (MemoryStore.not_mem_identifiers_delete (by rw [e]))
      · have failed : failedRecords [r] [.error err] = [r] := rfl
        rw [e, failed]
        exact List.mem_append_left _ List.mem_cons_self
    · exact List.mem_append_right _ (mem_failedRecords_of_mem_identifiers hr hm)

end Memory

section Reading

variable {σ : Type} [Repository σ] {s : σ} (rd : Reading s) (config : CleanConfig)

theorem Reading.mem_parsed {ids : List String} {id : String} {r : PkginfoRecord}
    (hids : Repository.list s .pkgsinfo = .ok ids) (hid : id ∈ ids) (hload : loadRecord s id = .ok r) :
    r ∈ parsedRecords rd.loaded := by
  obtain ⟨ids', hids', hloaded⟩ := rd.loaded_eq
  obtain rfl : ids = ids' := Except.ok.inj (hids.symm.trans hids')
  rw [hloaded]
  exact (mem_parsedRecords_map ids).mpr ⟨id, hid, hload⟩

theorem Reading.lower_mem_pkgsToKeep {r : PkginfoRecord} (hr : r ∈ parsedRecords rd.loaded)
    (hk : r ∉ (rd.plan config).toDelete) {l : ItemLocation} (hl : l ∈ r.itemLocations) :
    Text.lower l.path ∈ (rd.plan config).pkgsToKeep.map Text.lower := by
  have perm := (toDelete_append_kept_perm rd.scan rd.manifests.pinnedVersions config.keep rd.orphans
    rd.ordered).trans rd.records_perm
  rcases List.mem_append.mp (perm.symm.subset hr) with hd | kept
  · exact absurd ((rd.plan_toDelete config).symm ▸ hd) hk
  · apply List.mem_map_of_mem
    unfold Reading.plan
    rw [planFrom_pkgsToKeep, planCleanup_pkgsToKeep, Sorted.mem_ofList]
    exact List.mem_flatMap.mpr ⟨r, kept, List.mem_map_of_mem hl⟩

theorem Reading.lower_ne_of_orphan {o : String} (ho : o ∈ (rd.plan config).orphansToDelete)
    {r : PkginfoRecord} (hr : r ∈ parsedRecords rd.loaded) {l : ItemLocation} (hl : l ∈ r.itemLocations) :
    Text.lower l.path ≠ Text.lower o := by
  obtain ⟨items, -, horphans⟩ := rd.orphans_eq
  have orphan := rd.mem_orphans_of_orphansToDelete config ho
  rw [horphans, List.mem_filter] at orphan
  intro he
  have referenced : Text.lower o ∈ rd.scan.referencedPkgs.map Text.lower :=
    he ▸ List.mem_map_of_mem (rd.mem_referencedPkgs hr hl)
  simp [referenced] at orphan

theorem Reading.hasErrors_of_fails (h : RecordFails s) : rd.scan.report.hasErrors = true := by
  obtain ⟨ids, hids, id, hid, e, he⟩ := h
  obtain ⟨ids', hids', hloaded⟩ := rd.loaded_eq
  obtain rfl : ids = ids' := Except.ok.inj (hids.symm.trans hids')
  have recorded : e ∈ loadErrors rd.loaded := by
    rw [hloaded]
    exact List.mem_filterMap.mpr ⟨(id, loadRecord s id), List.mem_map_of_mem hid, by rw [he]⟩
  unfold Reading.scan scanOf
  rw [Report.hasErrors, referenceIncompleteRecords_errors, errors_indexPkgsinfo]
  simpa using List.ne_nil_of_mem recorded

-- When some listed record fails to load, the plan deletes no orphan.
theorem Reading.orphansToDelete_of_fails (h : RecordFails s) : (rd.plan config).orphansToDelete = [] := by
  unfold Reading.plan
  rw [planFrom_orphansToDelete, if_pos (rd.hasErrors_of_fails h)]

end Reading

section Deleted

variable {s : MemoryStore} (rd : Reading s) (config : CleanConfig)

theorem Reading.mem_blobs_of_deleted {q : String} (hq : Collection.pkgs.identifier q ∈ s.identifiers)
    (hgone : Collection.pkgs.identifier q ∉ (afterDeletion s (rd.plan config)).identifiers) :
    q ∈ (rd.plan config).blobs (foldedPaths (failedRecords (rd.plan config).toDelete
      (deleteEach s ((rd.plan config).toDelete.map PkginfoRecord.identifier)).2)) := by
  -- the records go first, and none of them is an installer item
  have first : Collection.pkgs.identifier q ∈
      (deleteEach s ((rd.plan config).toDelete.map PkginfoRecord.identifier)).1.identifiers := by
    refine mem_deleteEach_of_not_mem hq fun h => ?_
    obtain ⟨r, hr, he⟩ := List.mem_map.mp h
    obtain ⟨x, hx⟩ := rd.identifier_of_parsed (rd.mem_parsed_of_toDelete config hr)
    exact Collection.pkgsinfo_identifier_ne_pkgs x q (hx ▸ he)
  by_contra hn
  refine hgone (mem_deleteEach_of_not_mem first fun h => hn ?_)
  obtain ⟨p, hp, he⟩ := List.mem_map.mp h
  rwa [Collection.identifier_injective _ he] at hp

theorem Reading.held_of_survives {r : PkginfoRecord} (hd : r ∈ (rd.plan config).toDelete)
    (hsurv : r.identifier ∈ (afterDeletion s (rd.plan config)).identifiers) {l : ItemLocation}
    (hl : l ∈ r.itemLocations) :
    Text.lower l.path ∈ foldedPaths (failedRecords (rd.plan config).toDelete
      (deleteEach s ((rd.plan config).toDelete.map PkginfoRecord.identifier)).2) := by
  have failed := mem_failedRecords_of_mem_identifiers hd (mem_of_mem_deleteEach hsurv)
  exact List.mem_flatMap.mpr ⟨r, failed, List.mem_map_of_mem hl⟩

theorem Reading.lower_ne_of_survives {q : String} (hq : Collection.pkgs.identifier q ∈ s.identifiers)
    (hgone : Collection.pkgs.identifier q ∉ (afterDeletion s (rd.plan config)).identifiers)
    {r : PkginfoRecord} (hr : r ∈ parsedRecords rd.loaded)
    (hsurv : r.identifier ∈ (afterDeletion s (rd.plan config)).identifiers) {l : ItemLocation}
    (hl : l ∈ r.itemLocations) : Text.lower l.path ≠ Text.lower q := by
  intro hlow
  rcases List.mem_append.mp (rd.mem_blobs_of_deleted config hq hgone) with planned | orphan
  · obtain ⟨planned, free⟩ := List.mem_filter.mp planned
    by_cases hd : r ∈ (rd.plan config).toDelete
    · -- the record stayed, so its deletion failed and its items were held back
      have held := rd.held_of_survives config hd hsurv hl
      rw [hlow] at held
      simp [held] at free
    · -- the record was kept, so its items were protected
      exact (rd.mem_pkgsToDelete config planned).1 (hlow ▸ rd.lower_mem_pkgsToKeep config hr hd hl)
  · exact rd.lower_ne_of_orphan config orphan hr hl hlow

theorem Reading.deleted_with_record (hfails : RecordFails s) {q : String}
    (hq : Collection.pkgs.identifier q ∈ s.identifiers)
    (hgone : Collection.pkgs.identifier q ∉ (afterDeletion s (rd.plan config)).identifiers) :
    ∃ r ∈ (rd.plan config).toDelete, r.identifier ∉ (afterDeletion s (rd.plan config)).identifiers ∧
      ∃ l ∈ r.itemLocations, l.path = q := by
  have deleted := rd.mem_blobs_of_deleted config hq hgone
  rw [CleanupPlan.blobs, rd.orphansToDelete_of_fails config hfails, List.append_nil] at deleted
  obtain ⟨planned, free⟩ := List.mem_filter.mp deleted
  obtain ⟨-, r, hd, l, hl, rfl⟩ := rd.mem_pkgsToDelete config planned
  refine ⟨r, hd, fun hsurv => ?_, l, hl, rfl⟩
  -- a record that stayed would have held its items back
  have held := rd.held_of_survives config hd hsurv hl
  simp [held] at free

end Deleted

theorem Reading.not_isCatalogOutput_of_parsed {σ : Type} [Repository σ] {s : σ} (rd : Reading s)
    {r : PkginfoRecord} (hr : r ∈ parsedRecords rd.loaded) : ¬ IsCatalogOutput r.identifier := by
  obtain ⟨x, hx⟩ := rd.identifier_of_parsed hr
  rw [hx]
  exact Collection.not_isCatalogOutput (.inl rfl) x

section Run

variable {γ : Type} [Confirm γ] (config : CleanConfig) (log : Logger)

-- No record that parsed and survives a cleanup points at an installer item the run deleted,
-- ignoring case; and when some listed record could not be loaded, every installer item the
-- run deleted is an item of a record that it deleted.
theorem cleanup_spares_installers_of_surviving_records (s : MemoryStore) (g : γ) :
    let run := (cleanup config log : CleanWork MemoryStore γ CleanSummary).runOn s g
    {q | Collection.pkgs.identifier q ∈ s.identifiers ∧
        Collection.pkgs.identifier q ∉ run.2.session.store.identifiers} ⊆
      {q | (∀ ids, Repository.list s .pkgsinfo = .ok ids → ∀ id ∈ ids, ∀ r, loadRecord s id = .ok r →
            id ∈ run.2.session.store.identifiers → ∀ l ∈ r.itemLocations, Text.lower l.path ≠ Text.lower q) ∧
          (RecordFails s → ∃ r, loadRecord s r.identifier = .ok r ∧
            r.identifier ∉ run.2.session.store.identifiers ∧ ∃ l ∈ r.itemLocations, l.path = q)} := by
  intro run
  rintro q ⟨hq, hgone⟩
  rcases cleanup_store_cases config log ({ session := ⟨s, []⟩, confirm := g } : Cleaning MemoryStore γ) with
    same | ⟨plan, summary, c₁, ha, rebuild⟩
  · have same : run.2.session.store = s := same
    exact absurd (same ▸ hq) hgone
  obtain ⟨rd, rfl, -⟩ := analyze_ok ha
  -- the rebuild touches only catalogs: the item went, and the records stayed, in the deletion
  -- phase
  have gone : Collection.pkgs.identifier q ∉ (afterDeletion s (rd.plan config)).identifiers :=
    fun h => hgone (rebuild.mem_identifiers h fun hc => Collection.not_isCatalogOutput (.inr rfl) q (.inl hc))
  refine ⟨fun ids hids id hid r hload hsurv l hl => ?_, fun hfails => ?_⟩
  · have hr := rd.mem_parsed hids hid hload
    rw [← loadRecord_identifier hload] at hsurv
    exact rd.lower_ne_of_survives config hq gone hr
      (rebuild.mem_identifiers_of hsurv (rd.not_isCatalogOutput_of_parsed hr)) hl
  · obtain ⟨r, hd, deleted, l, hl, rfl⟩ := rd.deleted_with_record config hfails hq gone
    refine ⟨r, rd.loadRecord_of_toDelete config hd, fun hsurv => deleted ?_, l, hl, rfl⟩
    exact rebuild.mem_identifiers_of hsurv (rd.not_isCatalogOutput_of_parsed (rd.mem_parsed_of_toDelete config hd))

end Run

-- A record refused for its missing name shares its installer with a record that goes.
def sharedInstallerStore : MemoryStore where
  items := [("pkgs/a", "payload".toUTF8),
    ("pkgsinfo/1", ("<plist><dict><key>name</key><string>F</string><key>version</key><string>1</string>" ++
      "<key>installer_item_location</key><string>a</string></dict></plist>").toUTF8),
    ("pkgsinfo/2", ("<plist><dict><key>version</key><string>1</string>" ++
      "<key>installer_item_location</key><string>a</string></dict></plist>").toUTF8)]

-- Keeping no version, the run deletes the named record and its installer, while the refused
-- record, listed, readable and still there, declares that installer.
theorem incomplete_record_loses_shared_installer :
    Collection.pkgs.identifier "a" ∈ sharedInstallerStore.identifiers ∧
      ((cleanup { keep := 0, auto := true } {} : CleanWork MemoryStore AutoConfirm CleanSummary).runOn
        sharedInstallerStore {}).2.session.store.identifiers = ["catalogs/all", "pkgsinfo/2"] ∧
      (Repository.list sharedInstallerStore .pkgsinfo).toOption = some ["pkgsinfo/1", "pkgsinfo/2"] ∧
      incompleteRecords (loadErrors [("pkgsinfo/2", loadRecord sharedInstallerStore "pkgsinfo/2")]) =
        ["pkgsinfo/2"] ∧
      (Repository.get sharedInstallerStore "pkgsinfo/2" >>= declaredItemPaths "pkgsinfo/2").toOption =
        some ["a"] := by
  decide +kernel

end Depot
