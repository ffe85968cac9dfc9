import Depot.Proofs.Deletion

namespace Depot

-- A manifest mentions a reference in one of its four lists, or in a conditional block at any
-- depth.
inductive Manifest.Mentions : Manifest → String → Prop
  | listed {a b c d : List String} {cond : Option String} {bs : List Manifest} {ref : String} :
      ref ∈ a ++ b ++ c ++ d → Mentions (.mk a b c d cond bs) ref
  | nested {a b c d : List String} {cond : Option String} {bs : List Manifest} {m : Manifest}
      {ref : String} : m ∈ bs → Mentions m ref → Mentions (.mk a b c d cond bs) ref

theorem Manifest.mem_references_iff : ∀ {m : Manifest} {ref : String}, ref ∈ m.references ↔ m.Mentions ref
  | .mk a b c d cond bs, ref => by
    rw [Manifest.references, List.mem_append]
    simp only [List.mem_flatten, List.mem_map, List.mem_attach, true_and, Subtype.exists]
    constructor
    · rintro (h | ⟨l, ⟨m, hm, rfl⟩, hl⟩)
      · exact .listed h
      · exact .nested hm (Manifest.mem_references_iff.mp hl)
    · intro h
      cases h with
      | listed h => exact .inl h
      | nested hm h => exact .inr ⟨_, ⟨_, hm, rfl⟩, Manifest.mem_references_iff.mpr h⟩
termination_by m => sizeOf m
decreasing_by
  all_goals
    -- a conditional block is smaller than the manifest holding it
    have := List.sizeOf_lt_of_mem ‹_ ∈ bs›
    simp only [Manifest.mk.sizeOf_spec]
    omega

namespace ManifestScan

theorem mem_pinnedVersions_addReference {scan : ManifestScan} {ref : String} {p : String × String} :
    p ∈ (scan.addReference ref).pinnedVersions ↔
      p ∈ scan.pinnedVersions ∨ Version.split ref true = p ∧ p.2 ≠ "" := by
  rcases hs : Version.split ref true with ⟨name, version⟩
  simp only [addReference, hs]
  by_cases hv : version.isEmpty = true
  · -- a reference without a version pins nothing
    have empty : version = "" := String.isEmpty_iff.mp hv
    subst empty
    simp only [hv, if_true]
    constructor
    · exact .inl
    · rintro (h | ⟨rfl, hne⟩)
      · exact h
      · exact absurd rfl hne
  · have nonempty : version ≠ "" := fun e => hv (String.isEmpty_iff.mpr e)
    simp only [hv, Bool.false_eq_true, if_false, Sorted.mem_insertPair]
    constructor
    · rintro (rfl | h)
      · exact .inr ⟨rfl, nonempty⟩
      · exact .inl h
    · rintro (h | ⟨rfl, -⟩)
      · exact .inr h
      · exact .inl rfl

theorem mem_pinnedVersions_foldl {p : String × String} :
    ∀ (refs : List String) (scan : ManifestScan),
      p ∈ (refs.foldl addReference scan).pinnedVersions ↔
        p ∈ scan.pinnedVersions ∨ ∃ ref ∈ refs, Version.split ref true = p ∧ p.2 ≠ ""
  | [], scan => by simp
  | ref :: refs, scan => by
    rw [List.foldl_cons, mem_pinnedVersions_foldl refs, mem_pinnedVersions_addReference]
    simp only [List.mem_cons, exists_eq_or_imp, or_assoc]

theorem mem_pinnedVersions_add {scan : ManifestScan} {x : Except Error Manifest} {p : String × String} :
    p ∈ (scan.add x).pinnedVersions ↔
      p ∈ scan.pinnedVersions ∨ ∃ m, x = .ok m ∧ ∃ ref ∈ m.references, Version.split ref true = p ∧ p.2 ≠ "" := by
  cases x with
  | error e => simp [add]
  | ok m => simp [add, mem_pinnedVersions_foldl]

theorem mem_pinnedVersions_foldl_add {g : ManifestScan → String × Except Error Manifest → ManifestScan}
    (hg : ∀ s x, g s x = s.add x.2) {p : String × String} :
    ∀ (loaded : List (String × Except Error Manifest)) (scan : ManifestScan),
      p ∈ (loaded.foldl g scan).pinnedVersions ↔ p ∈ scan.pinnedVersions ∨
        ∃ x ∈ loaded, ∃ m, x.2 = .ok m ∧ ∃ ref ∈ m.references, Version.split ref true = p ∧ p.2 ≠ ""
  | [], scan => by simp
  | x :: rest, scan => by
    rw [List.foldl_cons, mem_pinnedVersions_foldl_add hg rest, hg, mem_pinnedVersions_add]
    simp only [List.mem_cons, exists_eq_or_imp, or_assoc]

theorem mem_pinnedVersions_ofLoaded {p : String × String} (loaded : List (String × Except Error Manifest)) :
    p ∈ (ofLoaded loaded).pinnedVersions ↔
      ∃ x ∈ loaded, ∃ m, x.2 = .ok m ∧ ∃ ref ∈ m.references, Version.split ref true = p ∧ p.2 ≠ "" := by
  unfold ofLoaded
  simpa using mem_pinnedVersions_foldl_add (fun _ x => by cases x; rfl) loaded {}

end ManifestScan

section Held

variable {σ : Type} [Repository σ] (s : σ)

-- A manifest of the store pins a name at a version: a reference that splits into them stands,
-- at any depth, in a listed manifest that parses.
def Pins (name version : String) : Prop :=
  ∃ ids, Repository.list s .manifests = .ok ids ∧ ∃ id ∈ ids, ∃ m, loadManifest s id = .ok m ∧
    ∃ ref, m.Mentions ref ∧ Version.split ref true = (name, version)

-- A record of the store requires a name at a version: a `requires` entry of a listed record
-- that parses splits into them.
def Requires (name version : String) : Prop :=
  ∃ ids, Repository.list s .pkgsinfo = .ok ids ∧ ∃ id ∈ ids, ∃ r, loadRecord s id = .ok r ∧
    ∃ d ∈ r.requires, Version.split d true = (name, version)

-- The versions of a variant line among the store's records that parse, as a set.
def lineVersions (sig : Signature) : List String :=
  match Repository.list s .pkgsinfo with
  | .ok ids => Sorted.ofList ((((ids.map fun id => (id, loadRecord s id)).filterMap
      fun x => x.2.toOption).filter (·.signature = sig)).map (·.version))
  | .error _ => []

-- What lets a cleanup that keeps `keep` versions delete a record: nothing pins or requires its
-- version, and newest first its line has at least `keep` versions before it that nothing pins
-- or requires.
structure Deletable (keep : Nat) (r : PkginfoRecord) : Prop where
  unpinned : ¬ Pins s r.name r.version
  unrequired : ¬ Requires s r.name r.version
  newer : ∃ before after, Version.sortNewestFirst (lineVersions s r.signature) = before ++ r.version :: after ∧
    ∃ kept : List String, kept.Sublist before ∧ kept.length = keep ∧ ∀ w ∈ kept, ¬ Pins s r.name w ∧ ¬ Requires s r.name w

end Held

section Reading

variable {σ : Type} [Repository σ] {s : σ} (rd : Reading s) (config : CleanConfig)

theorem Reading.loaded_eq : ∃ ids, Repository.list s .pkgsinfo = .ok ids ∧
    rd.loaded = ids.map fun id => (id, loadRecord s id) :=
  loadAll_ok rd.loadedAll

theorem Reading.mem_pinned_iff {name w : String} (hw : w ≠ "") :
    (name, w) ∈ rd.manifests.pinnedVersions ↔ Pins s name w := by
  unfold Reading.manifests manifestsOf Pins
  rw [ManifestScan.mem_pinnedVersions_ofLoaded]
  constructor
  · rintro ⟨x, hx, m, hm, ref, href, hsplit, -⟩
    obtain ⟨id, hid, rfl⟩ := List.mem_map.mp hx
    exact ⟨rd.manifestIds, rd.listed, id, hid, m, hm, ref, Manifest.mem_references_iff.mp href, hsplit⟩
  · rintro ⟨ids, hids, id, hid, m, hm, ref, href, hsplit⟩
    -- the listing is the one the analysis read
    obtain rfl : ids = rd.manifestIds := Except.ok.inj (hids.symm.trans rd.listed)
    exact ⟨_, List.mem_map_of_mem hid, m, hm, ref, Manifest.mem_references_iff.mpr href, hsplit, hw⟩

theorem Reading.mem_required_iff {name w : String} (hw : w ≠ "") :
    (name, w) ∈ rd.scan.requiredVersions ↔ Requires s name w := by
  obtain ⟨ids, hids, hloaded⟩ := rd.loaded_eq
  unfold Reading.scan scanOf Requires
  rw [referenceIncompleteRecords_requiredVersions, mem_requiredVersions_indexPkgsinfo, hloaded]
  constructor
  · rintro ⟨r, hr, d, hd, hsplit, -⟩
    obtain ⟨id, hid, hload⟩ := (mem_parsedRecords_map ids).mp hr
    exact ⟨ids, hids, id, hid, r, hload, d, hd, hsplit⟩
  · rintro ⟨ids', hids', id, hid, r, hload, d, hd, hsplit⟩
    obtain rfl : ids' = ids := Except.ok.inj (hids'.symm.trans hids)
    exact ⟨r, (mem_parsedRecords_map _).mpr ⟨id, hid, hload⟩, d, hd, hsplit, hw⟩

theorem Reading.line_versions (sig : Signature) :
    (rd.scan.index.line sig).map Prod.fst = lineVersions s sig := by
  obtain ⟨ids, hids, hloaded⟩ := rd.loaded_eq
  unfold Reading.scan scanOf lineVersions
  rw [referenceIncompleteRecords_index, versions_indexPkgsinfo, hids, hloaded]
  rfl

theorem Reading.bucket_eq (sig : Signature) (v : String) :
    rd.scan.index.bucket sig v = (parsedRecords rd.loaded).filter fun r => r.signature = sig ∧ r.version = v := by
  unfold Reading.scan scanOf
  rw [referenceIncompleteRecords_index, bucket_indexPkgsinfo]

theorem Reading.ne_empty_of_mem_line {sig : Signature} {w : String}
    (hw : w ∈ (rd.scan.index.line sig).map Prod.fst) : w ≠ "" := by
  obtain ⟨ids, -, hloaded⟩ := rd.loaded_eq
  unfold Reading.scan scanOf at hw
  rw [referenceIncompleteRecords_index, versions_indexPkgsinfo, Sorted.mem_ofList, hloaded] at hw
  obtain ⟨r, hr, rfl⟩ := List.mem_map.mp hw
  obtain ⟨id, -, hload⟩ := (mem_parsedRecords_map ids).mp (List.mem_filter.mp hr).1
  exact loadRecord_version_ne_empty hload

theorem Reading.not_held_of_retainable {name w : String} (hw : w ≠ "")
    (h : retainable name rd.manifests.pinnedVersions rd.scan.requiredVersions w = true) :
    ¬ Pins s name w ∧ ¬ Requires s name w := by
  have unpinned : (name, w) ∉ rd.manifests.pinnedVersions := by
    intro hm
    simp [retainable, hm] at h
  have unrequired : (name, w) ∉ rd.scan.requiredVersions := by
    intro hm
    simp [retainable, hm] at h
  exact ⟨fun hp => unpinned ((rd.mem_pinned_iff hw).mpr hp),
    fun hr => unrequired ((rd.mem_required_iff hw).mpr hr)⟩

-- Every record a plan deletes may be deleted: the decision that deleted its version saw it
-- neither pinned nor required, after at least `keep` newer versions that were neither.
theorem Reading.deletable_of_toDelete {r : PkginfoRecord} (hr : r ∈ (rd.plan config).toDelete) :
    Deletable s config.keep r := by
  rw [rd.plan_toDelete, mem_toDelete] at hr
  obtain ⟨⟨sig, group⟩, he, v, hdel, hmem⟩ := hr
  dsimp only at hdel
  -- the record sits in the bucket of its own signature and version
  have hline : rd.scan.index.line sig = group := rd.ordered.line_of_mem he
  have hbucket : (Sorted.findBy compare v group).getD [] = rd.scan.index.bucket sig v := by
    rw [VariantIndex.bucket, hline]
  rw [hbucket, rd.bucket_eq, List.mem_filter] at hmem
  obtain ⟨-, hsig⟩ := hmem
  simp only [decide_eq_true_eq] at hsig
  obtain ⟨rfl, rfl⟩ := hsig
  obtain ⟨before, after, horder, hv, hk⟩ := decideVersions_delete _ _ _ _ hdel
  have hname : r.signature.name = r.name := rfl
  rw [hname] at hv hk
  have versions : group.map Prod.fst = lineVersions s r.signature := by
    rw [← hline, rd.line_versions]
  -- every version of the line, `r`'s own among them, is a version of a record that loaded
  have line_ne_empty : ∀ w ∈ before ++ r.version :: after, w ≠ "" := by
    intro w hw
    rw [← horder] at hw
    exact rd.ne_empty_of_mem_line ((hline ▸ (List.mergeSort_perm _ _).subset hw))
  have held := rd.not_held_of_retainable (line_ne_empty _ (by simp)) hv
  refine ⟨held.1, held.2, before, after, versions ▸ horder, ?_⟩
  refine ⟨(before.filter (retainable r.name rd.manifests.pinnedVersions rd.scan.requiredVersions)).take config.keep,
    (List.take_sublist _ _).trans List.filter_sublist, ?_, fun w hw => ?_⟩
  · rw [List.length_take]
    omega
  · have hw' := (List.take_sublist _ _).subset hw
    obtain ⟨hb, hret⟩ := List.mem_filter.mp hw'
    exact rd.not_held_of_retainable (line_ne_empty w (List.mem_append_left _ hb)) hret

theorem Reading.loadRecord_of_toDelete {r : PkginfoRecord} (hr : r ∈ (rd.plan config).toDelete) :
    loadRecord s r.identifier = .ok r := by
  obtain ⟨ids, -, hloaded⟩ := rd.loaded_eq
  have parsed := rd.mem_parsed_of_toDelete config hr
  rw [hloaded] at parsed
  obtain ⟨id, -, hload⟩ := (mem_parsedRecords_map ids).mp parsed
  rw [loadRecord_identifier hload]
  exact hload

end Reading

theorem Collection.pkgsinfo_identifier_ne_catalogs (a b : String) :
    Collection.pkgsinfo.identifier a ≠ Collection.catalogs.identifier b := by
  intro h
  have := congrArg (fun s => s.toList.take 1) h
  simp [Collection.identifier, Collection.name] at this

section Run

variable {γ : Type} [Confirm γ] (config : CleanConfig) (log : Logger)

theorem cleanup_removes_only_planned (c : Cleaning MemoryStore γ) {x : String}
    (hx : x ∈ c.session.store.identifiers)
    (hgone : x ∉ ((cleanup config log).run.run c).2.session.store.identifiers) :
    .confirmed ∈ ((cleanup config log).run.run c).2.history ∧
      ∃ plan summary c₁, (analyze config log).run.run c = (.ok (plan, summary), c₁) ∧ PlanDeletes plan x := by
  -- a run that was not confirmed leaves the store as it was
  have confirmed : .confirmed ∈ ((cleanup config log).run.run c).2.history := by
    by_contra hn
    rw [cleanup_store_of_not_confirmed config log c hn] at hgone
    exact hgone hx
  refine ⟨confirmed, ?_⟩
  rcases cleanup_cases config log c with ⟨e, c₁, hs, -, lead, -, hr⟩ | ⟨plan, summary, c₁, ha, lead, after⟩
  · rw [hr, lead.reach.eq_of_noIdentifier] at hgone
    exact absurd hx hgone
  refine ⟨plan, summary, c₁, ha, ?_⟩
  have hx₁ : x ∈ c₁.session.store.identifiers := by
    rw [lead.reach.eq_of_noIdentifier]
    exact hx
  rcases after.store_eq_or_confirmed with same | ⟨c', lead', w, -⟩
  · rw [same] at hgone
    exact absurd hx₁ hgone
  · obtain ⟨hs, lead'', -, -⟩ := w
    by_contra hd
    -- up to the deletion phase nothing changed; from there on only what the plan names goes
    refine hgone (lead''.reach.mem_identifiers ?_ hd)
    rw [lead'.reach.eq_of_noIdentifier]
    exact hx₁

-- A cleanup removes a package record only after deletion was confirmed, and only one that
-- parsed and that nothing pins or requires, behind `keep` newer versions of its line that
-- nothing pins or requires either.
theorem cleanup_deletes_only_unheld_records (s : MemoryStore) (g : γ) :
    let run := (cleanup config log : CleanWork MemoryStore γ CleanSummary).runOn s g
    {X | Collection.pkgsinfo.identifier X ∈ s.identifiers ∧
        Collection.pkgsinfo.identifier X ∉ run.2.session.store.identifiers} ⊆
      {X | .confirmed ∈ run.2.history ∧ ∃ r, loadRecord s (Collection.pkgsinfo.identifier X) = .ok r ∧
        Deletable s config.keep r} := by
  intro run
  rintro X ⟨hx, hgone⟩
  obtain ⟨confirmed, plan, summary, c₁, ha, hd⟩ :=
    cleanup_removes_only_planned config log { session := ⟨s, []⟩, confirm := g } hx hgone
  obtain ⟨rd, rfl, -⟩ := analyze_ok ha
  refine ⟨confirmed, ?_⟩
  -- of what a plan deletes, only its records are package records
  rcases hd with hr | hb | ⟨name, hc⟩
  · obtain ⟨r, hr, hid⟩ := List.mem_map.mp hr
    refine ⟨r, ?_, rd.deletable_of_toDelete config hr⟩
    rw [← hid]
    exact rd.loadRecord_of_toDelete config hr
  · obtain ⟨p, -, hp⟩ := List.mem_map.mp hb
    exact absurd hp.symm (Collection.pkgsinfo_identifier_ne_pkgs X p)
  · exact absurd hc (Collection.pkgsinfo_identifier_ne_catalogs X name)

end Run

end Depot
