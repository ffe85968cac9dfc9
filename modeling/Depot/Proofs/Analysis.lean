import Depot.Proofs.Plan
import Depot.Proofs.Phases

namespace Depot

section Read

variable {σ γ : Type} [Repository σ]

theorem PkginfoRecord.parse_ok {identifier : String} {data : ByteArray} {r : PkginfoRecord}
    (h : PkginfoRecord.parse identifier data = .ok r) :
    r.identifier = identifier ∧ ∃ datum, decode identifier data PkginfoFields.shape = .ok datum ∧
      nonEmpty (PkginfoFields.ofDatum datum).name = some r.name ∧
      nonEmpty (PkginfoFields.ofDatum datum).version = some r.version := by
  unfold PkginfoRecord.parse at h
  simp only [bind, Except.bind, pure, Except.pure] at h
  cases hf : decode identifier data PkginfoFields.shape with
  | error e => simp only [hf] at h; cases h
  | ok datum =>
    cases hd : decode identifier data .dictionary with
    | error e => simp only [hf, hd] at h; cases h
    | ok doc =>
      cases hn : nonEmpty (PkginfoFields.ofDatum datum).name with
      | none => simp only [hf, hd, hn] at h; cases h
      | some n =>
        cases hv : nonEmpty (PkginfoFields.ofDatum datum).version with
        | none => simp only [hf, hd, hn, hv] at h; cases h
        | some v =>
          simp only [hf, hd, hn, hv] at h
          cases h
          exact ⟨rfl, datum, rfl, hn, hv⟩

theorem nonEmpty_ne_empty {o : Option String} {v : String} (h : nonEmpty o = some v) : v ≠ "" := by
  unfold nonEmpty at h
  split at h
  · split at h
    · cases h
    · rename_i hs
      cases h
      intro he
      simp [he] at hs
  · cases h

theorem loadRecord_ok {s : σ} {id : String} {r : PkginfoRecord} (h : loadRecord s id = .ok r) :
    ∃ data, Repository.get s id = .ok data ∧ PkginfoRecord.parse id data = .ok r := by
  unfold loadRecord at h
  split at h
  · rename_i data hdata
    exact ⟨data, hdata, h⟩
  · cases h

theorem loadRecord_identifier {s : σ} {id : String} {r : PkginfoRecord} (h : loadRecord s id = .ok r) :
    r.identifier = id := by
  obtain ⟨_, -, hp⟩ := loadRecord_ok h
  exact (PkginfoRecord.parse_ok hp).1

theorem loadRecord_version_ne_empty {s : σ} {id : String} {r : PkginfoRecord} (h : loadRecord s id = .ok r) :
    r.version ≠ "" := by
  obtain ⟨_, -, hp⟩ := loadRecord_ok h
  obtain ⟨-, _, -, -, hv⟩ := PkginfoRecord.parse_ok hp
  exact nonEmpty_ne_empty hv

theorem mem_parsedRecords_map {s : σ} {r : PkginfoRecord} (ids : List String) :
    r ∈ parsedRecords (ids.map fun id => (id, loadRecord s id)) ↔ ∃ id ∈ ids, loadRecord s id = .ok r := by
  simp only [parsedRecords, List.filterMap_map, List.mem_filterMap, Function.comp_apply]
  refine exists_congr fun id => and_congr_right fun _ => ?_
  cases loadRecord s id <;> simp [Except.toOption]

theorem parsedRecords_identifiers_sublist (s : σ) :
    ∀ ids : List String, ((parsedRecords (ids.map fun id => (id, loadRecord s id))).map
      PkginfoRecord.identifier).Sublist ids
  | [] => .slnil
  | id :: ids => by
    have rest := parsedRecords_identifiers_sublist s ids
    cases h : loadRecord s id with
    | error e =>
      simpa [h] using rest.cons id
    | ok r =>
      simpa [h, loadRecord_identifier h] using rest.cons_cons id

theorem loadAll_ok {s : σ} {loaded : List (String × Except Error PkginfoRecord)} (h : loadAll s = .ok loaded) :
    ∃ ids, Repository.list s .pkgsinfo = .ok ids ∧ loaded = ids.map fun id => (id, loadRecord s id) := by
  unfold loadAll at h
  cases hl : Repository.list s .pkgsinfo with
  | error e => rw [hl] at h; cases h
  | ok ids =>
    rw [hl] at h
    exact ⟨ids, rfl, (Except.ok.inj h).symm⟩

theorem scanManifests_ok {log : Logger} {w w' : Session σ} {m : ManifestScan}
    (h : (scanManifests log).run.run w = (.ok m, w')) :
    ∃ ids, Repository.list w.store .manifests = .ok ids ∧
      m = ManifestScan.ofLoaded (ids.map fun id => (id, loadManifest w.store id)) ∧ w'.store = w.store := by
  have frame : w'.store = w.store := by
    have reach := (scanManifests_confined log : (scanManifests log : Work σ _).Confined noIdentifier noIdentifier) w
    rw [h] at reach
    exact reach.eq_of_noIdentifier
  unfold scanManifests at h
  rw [Work.run_bind, Work.run_read] at h
  cases hl : Repository.list w.store .manifests with
  | error e => rw [hl] at h; cases h
  | ok ids =>
    rw [hl] at h
    simp only [Work.run_bind, Work.run_say, Work.run_get] at h
    -- the loop only logs; the scan is made from the listing
    split at h
    · have hm : Except.ok (ManifestScan.ofLoaded (ids.map fun id => (id, loadManifest w.store id))) =
          (Except.ok m : Except Error ManifestScan) := (Prod.mk.inj h).1
      exact ⟨ids, rfl, (Except.ok.inj hm).symm, frame⟩
    · cases h

-- The manifests of a store as a cleanup reads them from a listing.
def manifestsOf (s : σ) (ids : List String) : ManifestScan :=
  ManifestScan.ofLoaded (ids.map fun id => (id, loadManifest s id))

-- The index of a store's records as a cleanup makes it.
def scanOf (s : σ) (manifests : ManifestScan) (loaded : List (String × Except Error PkginfoRecord)) :
    PkginfoScan :=
  referenceIncompleteRecords s (indexPkgsinfo loaded manifests.referencedNames)

-- What a cleanup reads from a store before it plans, each part as the store gives it.
structure Reading (s : σ) where
  manifestIds : List String
  loaded : List (String × Except Error PkginfoRecord)
  orphans : List String
  listed : Repository.list s .manifests = .ok manifestIds
  loadedAll : loadAll s = .ok loaded
  found : findOrphans s (scanOf s (manifestsOf s manifestIds) loaded).referencedPkgs = .ok orphans

namespace Reading

variable {s : σ} (rd : Reading s)

def manifests : ManifestScan := manifestsOf s rd.manifestIds

def scan : PkginfoScan := scanOf s rd.manifests rd.loaded

def plan (config : CleanConfig) : CleanupPlan := planFrom config rd.manifests rd.scan rd.orphans

theorem ordered : rd.scan.index.Ordered := by
  unfold scan scanOf
  rw [referenceIncompleteRecords_index]
  exact ordered_indexPkgsinfo _ _

theorem records_perm : rd.scan.index.records.Perm (parsedRecords rd.loaded) := by
  unfold scan scanOf
  rw [referenceIncompleteRecords_index]
  exact records_indexPkgsinfo _ _

theorem mem_referencedPkgs {r : PkginfoRecord} (hr : r ∈ parsedRecords rd.loaded) {l : ItemLocation}
    (hl : l ∈ r.itemLocations) : l.path ∈ rd.scan.referencedPkgs := by
  unfold scan scanOf
  rw [mem_referencedPkgs_referenceIncompleteRecords]
  exact .inl (mem_referencedPkgs_indexPkgsinfo.mpr ⟨r, hr, l, hl, rfl⟩)

theorem identifiers_sublist :
    ∃ ids, Repository.list s .pkgsinfo = .ok ids ∧
      ((parsedRecords rd.loaded).map PkginfoRecord.identifier).Sublist ids := by
  obtain ⟨ids, hids, hloaded⟩ := loadAll_ok rd.loadedAll
  exact ⟨ids, hids, hloaded ▸ parsedRecords_identifiers_sublist s ids⟩

end Reading

theorem analyze_ok {config : CleanConfig} {log : Logger} {c c' : Cleaning σ γ} {plan : CleanupPlan}
    {summary : CleanSummary} (h : (analyze config log).run.run c = (.ok (plan, summary), c')) :
    ∃ rd : Reading c.session.store, plan = rd.plan config ∧ summary.planned = plan.stats ∧
      summary.deletedPkginfos = 0 ∧ summary.deletedPkgs = 0 ∧ c'.session.store = c.session.store := by
  have frame : c'.session.store = c.session.store := by
    have walk := (analyze_walks config log :
      (analyze config log : CleanWork σ γ _).Walks noIdentifier noIdentifier _ _) c
    rw [h] at walk
    exact walk.store_eq
  simp only [analyze, CleanWork.run_bind, CleanWork.run_lift, CleanWork.run_get, CleanWork.run_enter,
    Work.run_say, Work.run_read, CleanWork.run_pure] at h
  generalize hm : (scanManifests log).run.run
    { c.session with log := c.session.log ++ log.info "Analyzing manifest files..." } = m at h
  obtain ⟨_ | manifests, sess₁⟩ := m
  · cases h
  obtain ⟨ids, hids, rfl, hstore₁⟩ := scanManifests_ok hm
  dsimp only at h hstore₁
  cases hl : loadAll sess₁.store with
  | error e => rw [hl] at h; cases h
  | ok loaded =>
    rw [hl] at h
    dsimp only at h
    cases ho : findOrphans sess₁.store (scanOf sess₁.store (manifestsOf c.session.store ids) loaded).referencedPkgs with
    | error e =>
      unfold scanOf manifestsOf at ho
      rw [ho] at h
      cases h
    | ok orphans =>
      unfold scanOf manifestsOf at ho
      rw [ho] at h
      dsimp only at h
      obtain ⟨hres, -⟩ := Prod.mk.inj h
      obtain ⟨rfl, rfl⟩ := Prod.mk.inj (Except.ok.inj hres)
      rw [hstore₁] at hl ho ⊢
      exact ⟨⟨ids, loaded, orphans, hids, hl, ho⟩, rfl, rfl, rfl, rfl, frame⟩

end Read

end Depot
