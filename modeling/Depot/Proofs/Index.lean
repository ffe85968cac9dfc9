import Depot.Proofs.Sorted
import Depot.Cleanup.Index
import Mathlib.Data.List.Perm.Basic
import Mathlib.Data.List.Nodup

namespace Depot

theorem foldl_proj_eq {α β γ : Type} (p : α → γ) {g : α → β → α} (h : ∀ a b, p (g a b) = p a) :
    ∀ (xs : List β) (a : α), p (xs.foldl g a) = p a
  | [], _ => rfl
  | x :: xs, a => (foldl_proj_eq p h xs (g a x)).trans (h a x)

section Alter

variable {α β γ : Type} {cmp : α → α → Ordering}

theorem Sorted.flatMap_alterBy_perm (F : β → List γ) {f : Option β → β} {extra : List γ}
    (hf : ∀ o, (F (f o)).Perm ((o.map F).getD [] ++ extra)) (k : α) :
    ∀ xs : List (α × β), ((Sorted.alterBy cmp k f xs).flatMap (F ·.2)).Perm (xs.flatMap (F ·.2) ++ extra)
  | [] => by simpa [Sorted.alterBy] using hf none
  | (j, v) :: rest => by
    simp only [Sorted.alterBy]
    split
    · -- the new entry goes in front
      simp only [List.flatMap_cons]
      generalize List.flatMap (fun x => F x.2) rest = R
      have h : (F (f none)).Perm extra := by simpa using hf none
      have moved : (F (f none) ++ (F v ++ R)).Perm ((F v ++ R) ++ extra) :=
        (h.append_right _).trans List.perm_append_comm
      simpa only [List.append_assoc] using moved
    · -- the entry's value is replaced
      simp only [List.flatMap_cons]
      generalize List.flatMap (fun x => F x.2) rest = R
      have h : (F (f (some v))).Perm (F v ++ extra) := by simpa using hf (some v)
      have swap : (F v ++ (extra ++ R)).Perm (F v ++ (R ++ extra)) :=
        List.perm_append_comm.append_left _
      have step : ((F v ++ extra) ++ R).Perm ((F v ++ R) ++ extra) := by
        simpa only [List.append_assoc] using swap
      exact (h.append_right R).trans step
    · simpa using (flatMap_alterBy_perm F hf k rest).append_left (F v)

end Alter

-- Every record filed in an index, line by line and version by version.
def VariantIndex.records (index : VariantIndex) : List PkginfoRecord :=
  index.flatMap fun e => e.2.flatMap (·.2)

-- The versions of a variant line, with their records; empty for a line not in the index.
def VariantIndex.line (index : VariantIndex) (sig : Signature) : VariantGroup :=
  (Sorted.findBy Signature.compareTo sig index).getD []

-- The records of one version of a variant line.
def VariantIndex.bucket (index : VariantIndex) (sig : Signature) (v : String) : List PkginfoRecord :=
  (Sorted.findBy compare v (index.line sig)).getD []

-- An index kept in order: lines by signature, and each line's versions.
structure VariantIndex.Ordered (index : VariantIndex) : Prop where
  lines : Sorted.Strict Signature.compareTo (index.map Prod.fst)
  versions : ∀ sig, Sorted.Strict compare ((index.line sig).map Prod.fst)

-- The records that parsed, in listing order.
def parsedRecords (loaded : List (String × Except Error PkginfoRecord)) : List PkginfoRecord :=
  loaded.filterMap fun x => x.2.toOption

@[simp] theorem parsedRecords_nil : parsedRecords [] = [] := rfl

@[simp] theorem parsedRecords_cons_ok (id : String) (r : PkginfoRecord) (rest) :
    parsedRecords ((id, .ok r) :: rest) = r :: parsedRecords rest := rfl

@[simp] theorem parsedRecords_cons_error (id : String) (e : Error) (rest) :
    parsedRecords ((id, .error e) :: rest) = parsedRecords rest := rfl

-- The failures among the loaded records, in listing order.
def loadErrors (loaded : List (String × Except Error PkginfoRecord)) : List Error :=
  loaded.filterMap fun x =>
    match x.2 with
    | .ok _ => none
    | .error e => some e

@[simp] theorem loadErrors_nil : loadErrors [] = [] := rfl

@[simp] theorem loadErrors_cons_ok (id : String) (r : PkginfoRecord) (rest) :
    loadErrors ((id, .ok r) :: rest) = loadErrors rest := rfl

@[simp] theorem loadErrors_cons_error (id : String) (e : Error) (rest) :
    loadErrors ((id, .error e) :: rest) = e :: loadErrors rest := rfl

namespace PkginfoScan

variable {index : VariantIndex} {r : PkginfoRecord} {sig : Signature} {v : String}

theorem records_file (index : VariantIndex) (r : PkginfoRecord) :
    (file index r).records.Perm (index.records ++ [r]) := by
  unfold file VariantIndex.records
  refine Sorted.flatMap_alterBy_perm (fun g : VariantGroup => g.flatMap (·.2)) (fun o => ?_) _ index
  -- the line of the record gains it at its version
  have inner : ((Sorted.alterBy compare r.version (fun rs => rs.getD [] ++ [r]) (o.getD [])).flatMap
      (·.2)).Perm ((o.getD []).flatMap (·.2) ++ [r]) :=
    Sorted.flatMap_alterBy_perm (fun rs => rs) (fun o' => by cases o' <;> simp) _ _
  cases o <;> simpa using inner

theorem line_file (h : index.Ordered) :
    (file index r).line sig =
      if sig = r.signature then Sorted.alterBy compare r.version (fun rs => rs.getD [] ++ [r])
        (index.line r.signature)
      else index.line sig := by
  unfold VariantIndex.line file
  rw [Sorted.findBy_alterBy h.lines]
  split <;> simp

theorem keys_file (index : VariantIndex) (r : PkginfoRecord) :
    (file index r).map Prod.fst = Sorted.insertBy Signature.compareTo r.signature (index.map Prod.fst) :=
  Sorted.keys_alterBy _ _ _

theorem versions_file (h : index.Ordered) :
    ((file index r).line sig).map Prod.fst =
      if sig = r.signature then Sorted.insert r.version ((index.line sig).map Prod.fst)
      else (index.line sig).map Prod.fst := by
  rw [line_file h]
  split
  · subst_vars
    exact Sorted.keys_alterBy _ _ _
  · rfl

end PkginfoScan

theorem VariantIndex.Ordered.file {index : VariantIndex} (h : index.Ordered) (r : PkginfoRecord) :
    (PkginfoScan.file index r).Ordered where
  lines := h.lines.alterBy
  versions sig := by
    rw [PkginfoScan.line_file h]
    split
    · exact (h.versions _).alterBy
    · exact h.versions sig

namespace PkginfoScan

variable {index : VariantIndex} {r : PkginfoRecord} {sig : Signature} {v : String}

theorem bucket_file (h : index.Ordered) :
    (file index r).bucket sig v =
      if sig = r.signature ∧ v = r.version then index.bucket sig v ++ [r] else index.bucket sig v := by
  unfold VariantIndex.bucket
  rw [line_file h]
  by_cases hs : sig = r.signature
  · subst hs
    rw [if_pos rfl, Sorted.findBy_alterBy (h.versions _)]
    by_cases hv : v = r.version
    · subst hv
      simp
    · simp [hv]
  · simp [hs]

theorem addRecord_index (scan : PkginfoScan) (r : PkginfoRecord) :
    (scan.addRecord r).index = file scan.index r := by
  simp only [addRecord]
  rw [foldl_proj_eq index (fun s u => by split <;> rfl),
    foldl_proj_eq index (fun s d => by split <;> split <;> rfl)]

theorem requiredVersions_requires (r : PkginfoRecord) :
    ∀ (s : PkginfoScan) (d : String), ((fun (s : PkginfoScan) d =>
      let (name, version) := Version.split d true
      let s := if version.isEmpty then s
        else { s with requiredVersions := Sorted.insertPair (name, version) s.requiredVersions }
      if s.referencedNames.contains r.name then
        { s with referencedNames := Sorted.insert name s.referencedNames }
      else s) s d).requiredVersions =
    if (Version.split d true).2.isEmpty then s.requiredVersions
    else Sorted.insertPair (Version.split d true) s.requiredVersions := by
  intro s d
  dsimp only
  by_cases h : (Version.split d true).2.isEmpty = true <;>
    simp only [h, if_true, Bool.false_eq_true, if_false] <;> split <;> rfl

theorem mem_foldl_requiredVersions {h : PkginfoScan → String → PkginfoScan}
    (hh : ∀ s d, (h s d).requiredVersions = if (Version.split d true).2.isEmpty then s.requiredVersions
      else Sorted.insertPair (Version.split d true) s.requiredVersions) {p : String × String} :
    ∀ (ds : List String) (s : PkginfoScan), p ∈ (ds.foldl h s).requiredVersions ↔
      p ∈ s.requiredVersions ∨ ∃ d ∈ ds, Version.split d true = p ∧ p.2 ≠ ""
  | [], s => by simp
  | d :: ds, s => by
    rw [List.foldl_cons, mem_foldl_requiredVersions hh ds, hh]
    by_cases he : (Version.split d true).2.isEmpty = true
    · -- a dependency without a version pins nothing
      have hne : ∀ {p : String × String}, Version.split d true = p → p.2 = "" := by
        rintro p rfl
        simpa using he
      simp only [he, if_true, List.mem_cons, exists_eq_or_imp]
      constructor
      · rintro (h | ⟨d', hd', h⟩)
        · exact .inl h
        · exact .inr (.inr ⟨d', hd', h⟩)
      · rintro (h | ⟨e, hp⟩ | h)
        · exact .inl h
        · exact absurd (hne e) hp
        · exact .inr h
    · have hne : (Version.split d true).2 ≠ "" := by simpa using he
      simp only [he, Bool.false_eq_true, if_false, Sorted.mem_insertPair, List.mem_cons, exists_eq_or_imp]
      constructor
      · rintro ((rfl | h) | ⟨d', hd', h⟩)
        · exact .inr (.inl ⟨rfl, hne⟩)
        · exact .inl h
        · exact .inr (.inr ⟨d', hd', h⟩)
      · rintro (h | ⟨rfl, -⟩ | h)
        · exact .inl (.inr h)
        · exact .inl (.inl rfl)
        · exact .inr h

theorem mem_requiredVersions_addRecord (scan : PkginfoScan) (r : PkginfoRecord) {p : String × String} :
    p ∈ (scan.addRecord r).requiredVersions ↔
      p ∈ scan.requiredVersions ∨ ∃ d ∈ r.requires, Version.split d true = p ∧ p.2 ≠ "" := by
  simp only [addRecord]
  rw [foldl_proj_eq requiredVersions (fun s u => by split <;> rfl)]
  exact mem_foldl_requiredVersions (requiredVersions_requires r) _ _

theorem addRecord_report (scan : PkginfoScan) (r : PkginfoRecord) : (scan.addRecord r).report = scan.report := by
  simp only [addRecord]
  rw [foldl_proj_eq report (fun s u => by split <;> rfl),
    foldl_proj_eq report (fun s d => by split <;> split <;> rfl)]

theorem mem_referencedPkgs_addRecord (scan : PkginfoScan) (r : PkginfoRecord) {p : String} :
    p ∈ (scan.addRecord r).referencedPkgs ↔
      p ∈ scan.referencedPkgs ∨ ∃ l ∈ r.itemLocations, l.path = p := by
  simp only [addRecord]
  rw [Sorted.mem_foldl_insert_map, foldl_proj_eq referencedPkgs (fun s u => by split <;> rfl),
    foldl_proj_eq referencedPkgs (fun s d => by split <;> split <;> rfl)]
  simp only [List.mem_map]
  exact or_comm

end PkginfoScan

section Fold

open PkginfoScan

variable {g : PkginfoScan → String × Except Error PkginfoRecord → PkginfoScan} {sig : Signature}
  {v : String}

-- Indexing, step by step: the folds below are over any step that adds the loaded record.
theorem records_foldl (hg : ∀ s x, g s x = s.add x.2) :
    ∀ (loaded : List (String × Except Error PkginfoRecord)) (scan : PkginfoScan),
      (loaded.foldl g scan).index.records.Perm (scan.index.records ++ parsedRecords loaded)
  | [], scan => by simp
  | (id, x) :: rest, scan => by
    rw [List.foldl_cons, hg]
    cases x with
    | error e => simpa [add] using records_foldl hg rest { scan with report := scan.report.error e }
    | ok r =>
      have step := records_foldl hg rest (scan.addRecord r)
      rw [addRecord_index] at step
      simpa [add] using step.trans ((records_file _ _).append_right _)

theorem ordered_foldl (hg : ∀ s x, g s x = s.add x.2) :
    ∀ (loaded : List (String × Except Error PkginfoRecord)) (scan : PkginfoScan),
      scan.index.Ordered → (loaded.foldl g scan).index.Ordered
  | [], _, h => h
  | (id, x) :: rest, scan, h => by
    rw [List.foldl_cons, hg]
    cases x with
    | error e => exact ordered_foldl hg rest _ h
    | ok r =>
      refine ordered_foldl hg rest _ ?_
      rw [add, addRecord_index]
      exact h.file r

theorem bucket_foldl (hg : ∀ s x, g s x = s.add x.2) :
    ∀ (loaded : List (String × Except Error PkginfoRecord)) (scan : PkginfoScan),
      scan.index.Ordered → (loaded.foldl g scan).index.bucket sig v =
        scan.index.bucket sig v ++ (parsedRecords loaded).filter fun r => r.signature = sig ∧ r.version = v
  | [], _, _ => by simp
  | (id, x) :: rest, scan, h => by
    rw [List.foldl_cons, hg]
    cases x with
    | error e => simpa [add] using bucket_foldl hg rest { scan with report := scan.report.error e } h
    | ok r =>
      have hr : (scan.add (.ok r)).index = file scan.index r := addRecord_index scan r
      rw [bucket_foldl hg rest _ (hr ▸ h.file r), hr, bucket_file h]
      by_cases hs : sig = r.signature ∧ v = r.version
      · obtain ⟨rfl, rfl⟩ := hs
        simp
      · have hs' : ¬(r.signature = sig ∧ r.version = v) := fun ⟨a, b⟩ => hs ⟨a.symm, b.symm⟩
        simp [hs, hs']

theorem versions_foldl (hg : ∀ s x, g s x = s.add x.2) :
    ∀ (loaded : List (String × Except Error PkginfoRecord)) (scan : PkginfoScan),
      scan.index.Ordered → ((loaded.foldl g scan).index.line sig).map Prod.fst =
        (((parsedRecords loaded).filter (·.signature = sig)).map (·.version)).foldl
          (fun s y => Sorted.insert y s) ((scan.index.line sig).map Prod.fst)
  | [], _, _ => by simp
  | (id, x) :: rest, scan, h => by
    rw [List.foldl_cons, hg]
    cases x with
    | error e => simpa [add] using versions_foldl hg rest { scan with report := scan.report.error e } h
    | ok r =>
      have hr : (scan.add (.ok r)).index = file scan.index r := addRecord_index scan r
      rw [versions_foldl hg rest _ (hr ▸ h.file r), hr, versions_file h]
      by_cases hs : sig = r.signature
      · subst hs
        simp
      · have hs' : ¬r.signature = sig := fun e => hs e.symm
        simp [hs, hs']

theorem keys_foldl (hg : ∀ s x, g s x = s.add x.2) :
    ∀ (loaded : List (String × Except Error PkginfoRecord)) (scan : PkginfoScan),
      (loaded.foldl g scan).index.map Prod.fst =
        ((parsedRecords loaded).map (·.signature)).foldl
          (fun s y => Sorted.insertBy Signature.compareTo y s) (scan.index.map Prod.fst)
  | [], _ => by simp
  | (id, x) :: rest, scan => by
    rw [List.foldl_cons, hg, keys_foldl hg rest]
    cases x with
    | error e => rfl
    | ok r => simp [add, addRecord_index, keys_file]

theorem errors_foldl (hg : ∀ s x, g s x = s.add x.2) :
    ∀ (loaded : List (String × Except Error PkginfoRecord)) (scan : PkginfoScan),
      (loaded.foldl g scan).report.errors = scan.report.errors ++ loadErrors loaded
  | [], scan => by simp
  | (id, x) :: rest, scan => by
    rw [List.foldl_cons, hg, errors_foldl hg rest]
    cases x with
    | error e => simp [add, Report.error]
    | ok r => simp [add, addRecord_report]

theorem mem_requiredVersions_foldl (hg : ∀ s x, g s x = s.add x.2) {p : String × String} :
    ∀ (loaded : List (String × Except Error PkginfoRecord)) (scan : PkginfoScan),
      p ∈ (loaded.foldl g scan).requiredVersions ↔ p ∈ scan.requiredVersions ∨
        ∃ r ∈ parsedRecords loaded, ∃ d ∈ r.requires, Version.split d true = p ∧ p.2 ≠ ""
  | [], scan => by simp
  | (id, x) :: rest, scan => by
    rw [List.foldl_cons, hg, mem_requiredVersions_foldl hg rest]
    cases x with
    | error e => simp [add]
    | ok r => simp [add, mem_requiredVersions_addRecord, or_assoc]

theorem mem_referencedPkgs_foldl (hg : ∀ s x, g s x = s.add x.2) {p : String} :
    ∀ (loaded : List (String × Except Error PkginfoRecord)) (scan : PkginfoScan),
      p ∈ (loaded.foldl g scan).referencedPkgs ↔ p ∈ scan.referencedPkgs ∨
        ∃ r ∈ parsedRecords loaded, ∃ l ∈ r.itemLocations, l.path = p
  | [], scan => by simp
  | (id, x) :: rest, scan => by
    rw [List.foldl_cons, hg, mem_referencedPkgs_foldl hg rest]
    cases x with
    | error e => simp [add]
    | ok r => simp [add, mem_referencedPkgs_addRecord, or_assoc]

end Fold

section Scan

variable {loaded : List (String × Except Error PkginfoRecord)} {names : List String}
  {sig : Signature} {v : String}

theorem ordered_empty : VariantIndex.Ordered [] :=
  ⟨List.Pairwise.nil, fun _ => List.Pairwise.nil⟩

theorem records_indexPkgsinfo (loaded : List (String × Except Error PkginfoRecord)) (names : List String) :
    (indexPkgsinfo loaded names).index.records.Perm (parsedRecords loaded) := by
  unfold indexPkgsinfo
  simpa [VariantIndex.records] using records_foldl (fun _ x => by cases x; rfl) loaded
    { referencedNames := Sorted.ofList names }

theorem ordered_indexPkgsinfo (loaded : List (String × Except Error PkginfoRecord)) (names : List String) :
    (indexPkgsinfo loaded names).index.Ordered := by
  unfold indexPkgsinfo
  exact ordered_foldl (fun _ x => by cases x; rfl) loaded _ ordered_empty

theorem bucket_indexPkgsinfo (loaded : List (String × Except Error PkginfoRecord)) (names : List String)
    (sig : Signature) (v : String) :
    (indexPkgsinfo loaded names).index.bucket sig v =
      (parsedRecords loaded).filter fun r => r.signature = sig ∧ r.version = v := by
  unfold indexPkgsinfo
  simpa [VariantIndex.bucket, VariantIndex.line, Sorted.findBy] using
    bucket_foldl (fun _ x => by cases x; rfl) loaded { referencedNames := Sorted.ofList names }
      ordered_empty

theorem versions_indexPkgsinfo (loaded : List (String × Except Error PkginfoRecord)) (names : List String)
    (sig : Signature) :
    ((indexPkgsinfo loaded names).index.line sig).map Prod.fst =
      Sorted.ofList (((parsedRecords loaded).filter (·.signature = sig)).map (·.version)) := by
  unfold indexPkgsinfo
  simpa [VariantIndex.line, Sorted.findBy, Sorted.ofList] using
    versions_foldl (fun _ x => by cases x; rfl) loaded { referencedNames := Sorted.ofList names }
      ordered_empty

theorem mem_keys_indexPkgsinfo :
    sig ∈ (indexPkgsinfo loaded names).index.map Prod.fst ↔ ∃ r ∈ parsedRecords loaded, r.signature = sig := by
  unfold indexPkgsinfo
  rw [keys_foldl (fun _ x => by cases x; rfl), Sorted.mem_foldl_insertBy]
  simp

theorem errors_indexPkgsinfo (loaded : List (String × Except Error PkginfoRecord)) (names : List String) :
    (indexPkgsinfo loaded names).report.errors = loadErrors loaded := by
  unfold indexPkgsinfo
  simpa using errors_foldl (fun _ x => by cases x; rfl) loaded { referencedNames := Sorted.ofList names }

theorem mem_requiredVersions_indexPkgsinfo {p : String × String} :
    p ∈ (indexPkgsinfo loaded names).requiredVersions ↔
      ∃ r ∈ parsedRecords loaded, ∃ d ∈ r.requires, Version.split d true = p ∧ p.2 ≠ "" := by
  unfold indexPkgsinfo
  simpa using mem_requiredVersions_foldl (fun _ x => by cases x; rfl) loaded
    { referencedNames := Sorted.ofList names }

theorem mem_referencedPkgs_indexPkgsinfo {p : String} :
    p ∈ (indexPkgsinfo loaded names).referencedPkgs ↔
      ∃ r ∈ parsedRecords loaded, ∃ l ∈ r.itemLocations, l.path = p := by
  unfold indexPkgsinfo
  simpa using mem_referencedPkgs_foldl (fun _ x => by cases x; rfl) loaded
    { referencedNames := Sorted.ofList names }

end Scan

section Incomplete

variable {σ : Type} [Repository σ] (s : σ) (scan : PkginfoScan)

theorem referenceIncompleteRecords_index : (referenceIncompleteRecords s scan).index = scan.index :=
  foldl_proj_eq PkginfoScan.index (fun _ _ => by split <;> rfl) _ _

theorem referenceIncompleteRecords_requiredVersions :
    (referenceIncompleteRecords s scan).requiredVersions = scan.requiredVersions :=
  foldl_proj_eq PkginfoScan.requiredVersions (fun _ _ => by split <;> rfl) _ _

theorem referenceIncompleteRecords_errors :
    (referenceIncompleteRecords s scan).report.errors = scan.report.errors :=
  foldl_proj_eq (fun scan : PkginfoScan => scan.report.errors) (fun _ _ => by split <;> rfl) _ _

theorem mem_referencedPkgs_foldl_incomplete {p : String} :
    ∀ (ids : List String) (scan : PkginfoScan),
      p ∈ (ids.foldl (fun scan id =>
        match Repository.get s id >>= declaredItemPaths id with
        | .ok paths => { scan with referencedPkgs := paths.foldl (fun ps p => Sorted.insert p ps) scan.referencedPkgs }
        | .error e =>
          { scan with report := scan.report.warn ("Could not read items of " ++ id ++ ": " ++ e.chainMessage) })
        scan).referencedPkgs ↔
      p ∈ scan.referencedPkgs ∨ ∃ id ∈ ids, ∃ paths,
        (Repository.get s id >>= declaredItemPaths id) = .ok paths ∧ p ∈ paths
  | [], scan => by simp
  | id :: ids, scan => by
    rw [List.foldl_cons, mem_referencedPkgs_foldl_incomplete ids]
    split
    · rename_i paths hpaths
      simp only [Sorted.mem_foldl_insert, List.mem_cons, exists_eq_or_imp, hpaths, Except.ok.injEq,
        exists_eq_left']
      constructor
      · rintro ((h | h) | h)
        · exact .inr (.inl h)
        · exact .inl h
        · exact .inr (.inr h)
      · rintro (h | h | h)
        · exact .inl (.inr h)
        · exact .inl (.inl h)
        · exact .inr h
    · rename_i e he
      simp [he]

-- The item paths after reading back: those of the parsed records, and those that each record
-- refused for a missing name or version declares, when it can be read again.
theorem mem_referencedPkgs_referenceIncompleteRecords {p : String} :
    p ∈ (referenceIncompleteRecords s scan).referencedPkgs ↔
      p ∈ scan.referencedPkgs ∨ ∃ id ∈ incompleteRecords scan.report.errors, ∃ paths,
        (Repository.get s id >>= declaredItemPaths id) = .ok paths ∧ p ∈ paths :=
  mem_referencedPkgs_foldl_incomplete s _ _

end Incomplete

end Depot
