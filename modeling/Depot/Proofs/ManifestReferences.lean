import Depot.Proofs.Retention

namespace Depot

variable {σ α β : Type}

section Loop

theorem Work.forIn_run_ok {f : α → β → Work σ (ForInStep β)}
    (hf : ∀ a b w, ∃ r w', (f a b).run.run w = (.ok r, w')) :
    ∀ (xs : List α) (b : β) (w : Session σ), ∃ b' w', (ForIn.forIn xs b f).run.run w = (.ok b', w')
  | [], b, w => ⟨b, w, rfl⟩
  | x :: xs, b, w => by
    obtain ⟨r, w', h⟩ := hf x b w
    rw [List.forIn_cons, Work.run_bind_ok h]
    cases r with
    | done b' => exact ⟨b', w', rfl⟩
    | yield b' => exact Work.forIn_run_ok hf xs b' w'

theorem Work.forIn_run_ne_error {f : α → β → Work σ (ForInStep β)}
    (hf : ∀ a b w, ∃ r w', (f a b).run.run w = (.ok r, w')) (xs : List α) (b : β) (w : Session σ)
    (e : Error) (w' : Session σ) : (ForIn.forIn xs b f).run.run w ≠ (.error e, w') := by
  obtain ⟨b', w'', h⟩ := Work.forIn_run_ok hf xs b w
  rw [h]
  exact fun he => by cases he

theorem scanManifests_run [Repository σ] (log : Logger) (w : Session σ) {ids : List String}
    (hids : Repository.list w.store .manifests = .ok ids) :
    ∃ w', (scanManifests log).run.run w =
      (.ok (ManifestScan.ofLoaded (ids.map fun id => (id, loadManifest w.store id))), w') := by
  unfold scanManifests
  rw [Work.run_bind, Work.run_read, hids]
  simp only [Work.run_bind, Work.run_say, Work.run_get]
  split
  · rename_i w' _
    exact ⟨w', rfl⟩
  · -- the loop only logs, so it cannot fail
    rename_i e w' hloop
    refine absurd hloop (Work.forIn_run_ne_error (fun x _ u => ?_) _ _ _ _ _)
    split <;> exact ⟨_, _, rfl⟩

end Loop

namespace Manifest

-- The references a manifest or a block lists itself, without those of its conditional blocks.
def ownReferences (m : Manifest) : List String :=
  m.managedInstalls ++ m.managedUninstalls ++ m.managedUpdates ++ m.optionalInstalls

-- The manifest and its conditional blocks at every depth, in pre-order: each block before the
-- blocks it holds, and sibling blocks in order.
def blocks : Manifest → List Manifest
  | mk a b c d cond bs => mk a b c d cond bs :: bs.attach.flatMap fun ⟨m, _⟩ => m.blocks

-- The references of a manifest are the four lists of each block in turn, blocks in pre-order.
theorem references_eq_flatMap_blocks : ∀ m : Manifest, m.references = m.blocks.flatMap ownReferences
  | mk a b c d cond bs => by
    have nested : ∀ m ∈ bs, m.references = m.blocks.flatMap ownReferences :=
      fun m _ => references_eq_flatMap_blocks m
    rw [references, blocks, List.flatMap_cons, List.flatMap_assoc]
    simp only [ownReferences, managedInstalls, managedUninstalls, managedUpdates, optionalInstalls,
      List.append_assoc]
    -- block by block, the references of a conditional block are those of its blocks
    congr 4
    simp only [List.flatMap]
    exact congrArg List.flatten (List.map_congr_left fun x _ => nested x.1 x.2)
termination_by m => sizeOf m
decreasing_by
  -- a conditional block is smaller than the manifest holding it
  have := List.sizeOf_lt_of_mem ‹_ ∈ bs›
  simp only [Manifest.mk.sizeOf_spec]
  omega

theorem self_mem_blocks : ∀ m : Manifest, m ∈ m.blocks
  | mk .. => by
    rw [blocks]
    exact List.mem_cons_self

theorem mem_blocks_of_mem_conditionalItems {m b x : Manifest} (hb : b ∈ m.conditionalItems)
    (hx : x ∈ b.blocks) : x ∈ m.blocks := by
  obtain ⟨a, b', c, d, cond, bs⟩ := m
  rw [blocks]
  exact List.mem_cons_of_mem _ (List.mem_flatMap.2 ⟨⟨b, hb⟩, List.mem_attach _ _, hx⟩)

theorem mem_references_iff_blocks {m : Manifest} {ref : String} :
    ref ∈ m.references ↔ ∃ b ∈ m.blocks, ref ∈ b.ownReferences := by
  rw [references_eq_flatMap_blocks, List.mem_flatMap]

end Manifest

namespace ManifestScan

variable {scan : ManifestScan} {ref : String}

-- The manifests of a listing that parsed, in listing order.
def parsed (loaded : List (String × Except Error Manifest)) : List Manifest :=
  loaded.filterMap fun x => x.2.toOption

-- The failures among the manifests of a listing, in listing order.
def failures (loaded : List (String × Except Error Manifest)) : List Error :=
  loaded.filterMap fun x =>
    match x.2 with
    | .ok _ => none
    | .error e => some e

@[simp] theorem parsed_nil : parsed [] = [] := rfl

@[simp] theorem parsed_cons_ok (id : String) (m : Manifest) (rest) :
    parsed ((id, .ok m) :: rest) = m :: parsed rest := rfl

@[simp] theorem parsed_cons_error (id : String) (e : Error) (rest) :
    parsed ((id, .error e) :: rest) = parsed rest := rfl

@[simp] theorem failures_nil : failures [] = [] := rfl

@[simp] theorem failures_cons_ok (id : String) (m : Manifest) (rest) :
    failures ((id, .ok m) :: rest) = failures rest := rfl

@[simp] theorem failures_cons_error (id : String) (e : Error) (rest) :
    failures ((id, .error e) :: rest) = e :: failures rest := rfl

@[simp] theorem addReference_manifestCount : (scan.addReference ref).manifestCount = scan.manifestCount := rfl

@[simp] theorem addReference_report : (scan.addReference ref).report = scan.report := rfl

theorem addReference_referencedNames :
    (scan.addReference ref).referencedNames = Sorted.insert (Version.split ref true).1 scan.referencedNames := rfl

theorem referencedNames_foldl_addReference :
    ∀ (refs : List String) (scan : ManifestScan), (refs.foldl addReference scan).referencedNames =
      (refs.map fun r => (Version.split r true).1).foldl (fun s x => Sorted.insert x s) scan.referencedNames
  | [], _ => rfl
  | r :: rs, scan => by
    rw [List.foldl_cons, referencedNames_foldl_addReference rs, List.map_cons, List.foldl_cons,
      addReference_referencedNames]

theorem strict_pinnedVersions_addReference
    (h : Sorted.Strict (fun a b : String × String => (compare a.1 b.1).then (compare a.2 b.2)) scan.pinnedVersions) :
    Sorted.Strict (fun a b : String × String => (compare a.1 b.1).then (compare a.2 b.2))
      (scan.addReference ref).pinnedVersions := by
  simp only [addReference]
  split
  · exact h
  · exact h.insertBy

theorem strict_pinnedVersions_foldl_addReference :
    ∀ (refs : List String) (scan : ManifestScan),
      Sorted.Strict (fun a b : String × String => (compare a.1 b.1).then (compare a.2 b.2)) scan.pinnedVersions →
      Sorted.Strict (fun a b : String × String => (compare a.1 b.1).then (compare a.2 b.2))
        (refs.foldl addReference scan).pinnedVersions
  | [], _, h => h
  | _ :: refs, _, h => strict_pinnedVersions_foldl_addReference refs _ (strict_pinnedVersions_addReference h)

section Listing

variable {g : ManifestScan → String × Except Error Manifest → ManifestScan} (hg : ∀ s x, g s x = s.add x.2)
include hg

theorem manifestCount_foldl :
    ∀ (loaded : List (String × Except Error Manifest)) (scan : ManifestScan),
      (loaded.foldl g scan).manifestCount = scan.manifestCount + (parsed loaded).length
  | [], scan => rfl
  | (id, x) :: rest, scan => by
    rw [List.foldl_cons, manifestCount_foldl rest, hg]
    cases x with
    | error e => simp [add]
    | ok m =>
      simp only [add, parsed_cons_ok, List.length_cons]
      rw [foldl_proj_eq manifestCount (g := addReference) (fun _ _ => rfl)]
      omega

theorem errors_foldl :
    ∀ (loaded : List (String × Except Error Manifest)) (scan : ManifestScan),
      (loaded.foldl g scan).report.errors = scan.report.errors ++ failures loaded
  | [], scan => by simp
  | (id, x) :: rest, scan => by
    rw [List.foldl_cons, errors_foldl rest, hg]
    cases x with
    | error e => simp [add, Report.error]
    | ok m =>
      simp only [add, failures_cons_ok]
      rw [foldl_proj_eq (fun s : ManifestScan => s.report.errors) (g := addReference) (fun _ _ => rfl)]

theorem referencedNames_foldl :
    ∀ (loaded : List (String × Except Error Manifest)) (scan : ManifestScan),
      (loaded.foldl g scan).referencedNames =
        (((parsed loaded).flatMap Manifest.references).map fun r => (Version.split r true).1).foldl
          (fun s x => Sorted.insert x s) scan.referencedNames
  | [], scan => rfl
  | (id, x) :: rest, scan => by
    rw [List.foldl_cons, referencedNames_foldl rest, hg]
    cases x with
    | error e => rfl
    | ok m =>
      simp only [add, parsed_cons_ok, List.flatMap_cons, List.map_append, List.foldl_append]
      rw [referencedNames_foldl_addReference]

theorem strict_pinnedVersions_foldl :
    ∀ (loaded : List (String × Except Error Manifest)) (scan : ManifestScan),
      Sorted.Strict (fun a b : String × String => (compare a.1 b.1).then (compare a.2 b.2)) scan.pinnedVersions →
      Sorted.Strict (fun a b : String × String => (compare a.1 b.1).then (compare a.2 b.2))
        (loaded.foldl g scan).pinnedVersions
  | [], _, h => h
  | (id, x) :: rest, scan, h => by
    rw [List.foldl_cons]
    refine strict_pinnedVersions_foldl rest _ ?_
    rw [hg]
    cases x with
    | error e => exact h
    | ok m => exact strict_pinnedVersions_foldl_addReference _ _ h

end Listing

theorem manifestCount_ofLoaded (loaded : List (String × Except Error Manifest)) :
    (ofLoaded loaded).manifestCount = (parsed loaded).length := by
  unfold ofLoaded
  simpa using manifestCount_foldl (fun _ x => by cases x; rfl) loaded {}

theorem errors_ofLoaded (loaded : List (String × Except Error Manifest)) :
    (ofLoaded loaded).report.errors = failures loaded := by
  unfold ofLoaded
  simpa using errors_foldl (fun _ x => by cases x; rfl) loaded {}

theorem referencedNames_ofLoaded (loaded : List (String × Except Error Manifest)) :
    (ofLoaded loaded).referencedNames =
      Sorted.ofList (((parsed loaded).flatMap Manifest.references).map fun r => (Version.split r true).1) :=
  referencedNames_foldl (fun _ x => by cases x; rfl) loaded {}

theorem strict_pinnedVersions_ofLoaded (loaded : List (String × Except Error Manifest)) :
    Sorted.Strict (fun a b : String × String => (compare a.1 b.1).then (compare a.2 b.2))
      (ofLoaded loaded).pinnedVersions :=
  strict_pinnedVersions_foldl (fun _ x => by cases x; rfl) loaded {} List.Pairwise.nil

theorem ofLoaded_sets_of_perm {loaded loaded' : List (String × Except Error Manifest)} (h : loaded.Perm loaded') :
    (ofLoaded loaded).referencedNames = (ofLoaded loaded').referencedNames ∧
      (ofLoaded loaded).pinnedVersions = (ofLoaded loaded').pinnedVersions := by
  constructor
  · rw [referencedNames_ofLoaded, referencedNames_ofLoaded]
    exact Sorted.ofList_eq_of_perm (((h.filterMap _).flatMap_right _).map _)
  · refine (strict_pinnedVersions_ofLoaded loaded).eq_of_mem_iff (strict_pinnedVersions_ofLoaded loaded') fun p => ?_
    simp only [mem_pinnedVersions_ofLoaded, h.mem_iff]

end ManifestScan

section Scan

variable [Repository σ] (s : σ)

theorem mem_parsed_map {ids : List String} {m : Manifest} :
    m ∈ ManifestScan.parsed (ids.map fun id => (id, loadManifest s id)) ↔
      ∃ id ∈ ids, loadManifest s id = .ok m := by
  induction ids with
  | nil => simp
  | cons id ids ih =>
    rcases h : loadManifest s id with e | m'
    · simp [h, ih]
    · simp [h, ih, eq_comm]

theorem length_parsed_map (ids : List String) :
    (ManifestScan.parsed (ids.map fun id => (id, loadManifest s id))).length =
      ids.countP fun id => (loadManifest s id).isOk := by
  induction ids with
  | nil => rfl
  | cons id ids ih =>
    rcases h : loadManifest s id with e | m
    · simp [h, ih, Except.isOk, Except.toBool]
    · simp [h, ih, Except.isOk, Except.toBool]

theorem exists_reference_parsed_iff {ids : List String} {P : String → Prop} :
    (∃ m ∈ ManifestScan.parsed (ids.map fun id => (id, loadManifest s id)), ∃ ref ∈ m.references, P ref) ↔
      ∃ id ∈ ids, ∃ m, loadManifest s id = .ok m ∧ ∃ b ∈ m.blocks, ∃ ref ∈ b.ownReferences, P ref := by
  simp only [mem_parsed_map, Manifest.mem_references_iff_blocks]
  constructor
  · rintro ⟨m, ⟨id, hid, hm⟩, ref, ⟨b, hb, href⟩, hp⟩
    exact ⟨id, hid, m, hm, b, hb, ref, href, hp⟩
  · rintro ⟨id, hid, m, hm, b, hb, ref, href, hp⟩
    exact ⟨m, ⟨id, hid, hm⟩, ref, ⟨b, hb, href⟩, hp⟩

-- Scanning the manifests of a store reads every listed manifest: it counts those that load and
-- parse, keeps the failures of the others in listing order, and gathers the name of every
-- reference in every block at every depth, with the version of each that spells one out; the
-- references of a manifest are its blocks' lists in pre-order, and listing the same manifests in
-- another order gathers the same sets.
theorem scanManifests_gathers_every_reference (log : Logger) (w : Session σ) {ids : List String}
    (hids : Repository.list w.store .manifests = .ok ids) :
    ∃ scan, ((scanManifests log).run.run w).1 = .ok scan ∧
      scan.manifestCount = ids.countP (fun id => (loadManifest w.store id).isOk) ∧
      scan.report.errors = ManifestScan.failures (ids.map fun id => (id, loadManifest w.store id)) ∧
      (∀ m : Manifest, m.references = m.blocks.flatMap Manifest.ownReferences) ∧
      (∀ name, name ∈ scan.referencedNames ↔ ∃ id ∈ ids, ∃ m, loadManifest w.store id = .ok m ∧
        ∃ b ∈ m.blocks, ∃ ref ∈ b.ownReferences, (Version.split ref true).1 = name) ∧
      (∀ p, p ∈ scan.pinnedVersions ↔ ∃ id ∈ ids, ∃ m, loadManifest w.store id = .ok m ∧
        ∃ b ∈ m.blocks, ∃ ref ∈ b.ownReferences, Version.split ref true = p ∧ p.2 ≠ "") ∧
      (∀ (w' : Session σ) (ids' : List String), Repository.list w'.store .manifests = .ok ids' →
        ids'.Perm ids → (∀ id ∈ ids, loadManifest w'.store id = loadManifest w.store id) →
        ∃ scan', ((scanManifests log).run.run w').1 = .ok scan' ∧
          scan'.referencedNames = scan.referencedNames ∧ scan'.pinnedVersions = scan.pinnedVersions) := by
  obtain ⟨w₁, hrun⟩ := scanManifests_run log w hids
  refine ⟨_, by rw [hrun], ?_, ManifestScan.errors_ofLoaded _, Manifest.references_eq_flatMap_blocks,
    fun name => ?_, fun p => ?_, fun w' ids' hids' hperm hsame => ?_⟩
  · rw [ManifestScan.manifestCount_ofLoaded, length_parsed_map]
  · rw [ManifestScan.referencedNames_ofLoaded, Sorted.mem_ofList, ← exists_reference_parsed_iff]
    simp only [List.mem_map, List.mem_flatMap]
    constructor
    · rintro ⟨ref, ⟨m, hm, href⟩, rfl⟩
      exact ⟨m, hm, ref, href, rfl⟩
    · rintro ⟨m, hm, ref, href, rfl⟩
      exact ⟨ref, ⟨m, hm, href⟩, rfl⟩
  · rw [ManifestScan.mem_pinnedVersions_ofLoaded, ← exists_reference_parsed_iff]
    simp only [List.mem_map, mem_parsed_map]
    constructor
    · rintro ⟨_, ⟨id, hid, rfl⟩, m, hm, rest⟩
      exact ⟨m, ⟨id, hid, hm⟩, rest⟩
    · rintro ⟨m, ⟨id, hid, hm⟩, rest⟩
      exact ⟨_, ⟨id, hid, rfl⟩, m, hm, rest⟩
  · -- the other store reads the same manifests, listed in another order
    obtain ⟨w₂, hrun'⟩ := scanManifests_run log w' hids'
    have hloaded : (ids'.map fun id => (id, loadManifest w'.store id)) =
        ids'.map fun id => (id, loadManifest w.store id) :=
      List.map_congr_left fun id hid => by rw [hsame id (hperm.mem_iff.1 hid)]
    obtain ⟨names, pins⟩ := ManifestScan.ofLoaded_sets_of_perm (hperm.map fun id => (id, loadManifest w.store id))
    exact ⟨_, by rw [hrun'], by rw [hloaded, names], by rw [hloaded, pins]⟩

end Scan

theorem Except.eq_ok_of_toOption {ε : Type} {x : Except ε α} {a : α} (h : x.toOption = some a) : x = .ok a := by
  cases x with
  | error e => cases h
  | ok b => cases h; rfl

-- A manifest whose one pin stands inside a conditional block.
def nestedPinStore : MemoryStore where
  items := [("manifests/site", "\x7b conditional_items = (\x7b managed_installs = (\"Qux-3.1\"); \x7d); \x7d".toUTF8)]

-- The manifest is counted, and the pin in its conditional block is gathered.
theorem nestedPinStore_pins_nested_reference :
    Repository.list nestedPinStore .manifests = .ok ["manifests/site"] ∧
      ∃ scan, ((scanManifests {} : Work MemoryStore ManifestScan).run.run ⟨nestedPinStore, []⟩).1 = .ok scan ∧
        scan.manifestCount = 1 ∧ ("Qux", "3.1") ∈ scan.pinnedVersions := by
  have listed : Repository.list nestedPinStore .manifests = .ok ["manifests/site"] :=
    Except.eq_ok_of_toOption (by decide +kernel)
  obtain ⟨scan, hrun, hcount, -, -, -, hpins, -⟩ :=
    scanManifests_gathers_every_reference {} ⟨nestedPinStore, []⟩ listed
  -- the conditional block installs the pinned version
  have read : ((loadManifest nestedPinStore "manifests/site").toOption.map fun m =>
      m.conditionalItems.map Manifest.managedInstalls) = some [["Qux-3.1"]] := by decide +kernel
  obtain ⟨m, hm, hblock⟩ : ∃ m, loadManifest nestedPinStore "manifests/site" = .ok m ∧
      m.conditionalItems.map Manifest.managedInstalls = [["Qux-3.1"]] := by
    rcases h : loadManifest nestedPinStore "manifests/site" with e | m
    · rw [h] at read
      cases read
    · rw [h] at read
      exact ⟨m, rfl, Option.some.inj read⟩
  obtain ⟨b, hb, hinstalls⟩ : ∃ b ∈ m.conditionalItems, b.managedInstalls = ["Qux-3.1"] :=
    List.mem_map.1 (hblock ▸ List.mem_cons_self)
  have hown : "Qux-3.1" ∈ b.ownReferences := by simp [Manifest.ownReferences, hinstalls]
  have hsplit : Version.split "Qux-3.1" true = ("Qux", "3.1") := by decide +kernel
  refine ⟨listed, scan, hrun, ?_, (hpins _).2 ⟨"manifests/site", by simp, m, hm, b,
    Manifest.mem_blocks_of_mem_conditionalItems hb (Manifest.self_mem_blocks b), "Qux-3.1", hown, hsplit, by simp⟩⟩
  rw [hcount]
  simp [hm, Except.isOk, Except.toBool]

end Depot
