import Depot.Proofs.Index
import Mathlib.Data.List.Basic

namespace Depot

-- The names that dependencies pull in from the names the manifests reference: the least set
-- holding those names and closed under two rules over the parsed records. A record whose name
-- is referenced references every name it requires; a record that updates a referenced name is
-- referenced.
inductive Referenced (names : List String) (records : List PkginfoRecord) : String → Prop
  | named {n : String} : n ∈ names → Referenced names records n
  | required {r : PkginfoRecord} {d : String} : r ∈ records → Referenced names records r.name →
      d ∈ r.requires → Referenced names records (Version.split d true).1
  | updates {r : PkginfoRecord} {u : String} : r ∈ records → u ∈ r.updateFor →
      Referenced names records (Version.split u true).1 → Referenced names records r.name

namespace PkginfoScan

variable {names : List String} {records : List PkginfoRecord}

theorem referenced_addRecord {s : PkginfoScan} {r : PkginfoRecord} (hr : r ∈ records)
    (h : ∀ n ∈ s.referencedNames, Referenced names records n) :
    ∀ n ∈ (s.addRecord r).referencedNames, Referenced names records n := by
  simp only [addRecord]
  refine List.foldlRecOn (motive := fun s : PkginfoScan => ∀ n ∈ s.referencedNames, Referenced names records n) _ _
    (List.foldlRecOn (motive := fun s : PkginfoScan => ∀ n ∈ s.referencedNames, Referenced names records n) _ _ h ?_) ?_
  · -- a dependency's name comes in only when the record's own name is referenced
    intro s hs d hd n hn
    have hmem : r.name ∈ s.referencedNames ∧ n = (Version.split d true).1 ∨ n ∈ s.referencedNames := by
      split_ifs at hn <;> simp_all
    rcases hmem with ⟨hname, rfl⟩ | hn
    · exact .required hr (hs _ hname) hd
    · exact hs n hn
  · -- the record's name comes in only when it updates a referenced name
    intro s hs u hu n hn
    have hmem : (Version.split u true).1 ∈ s.referencedNames ∧ n = r.name ∨ n ∈ s.referencedNames := by
      split_ifs at hn <;> simp_all
    rcases hmem with ⟨hname, rfl⟩ | hn
    · exact .updates hr hu (hs _ hname)
    · exact hs n hn

theorem mem_referencedNames_addRecord {s : PkginfoScan} {r : PkginfoRecord} {n : String}
    (h : n ∈ s.referencedNames) : n ∈ (s.addRecord r).referencedNames := by
  simp only [addRecord]
  -- both folds only ever insert names
  refine List.foldlRecOn (motive := fun s : PkginfoScan => n ∈ s.referencedNames) _ _
    (List.foldlRecOn (motive := fun s : PkginfoScan => n ∈ s.referencedNames) _ _ h ?_) ?_
  · intro s hs d _
    split_ifs <;> simp_all
  · intro s hs u _
    split_ifs <;> simp_all

theorem addRecord_total (s : PkginfoScan) (r : PkginfoRecord) : (s.addRecord r).total = s.total + 1 := by
  simp only [addRecord]
  rw [foldl_proj_eq total (fun s u => by split <;> rfl),
    foldl_proj_eq total (fun s d => by split <;> split <;> rfl)]

end PkginfoScan

section Fold

open PkginfoScan

variable {g : PkginfoScan → String × Except Error PkginfoRecord → PkginfoScan} (hg : ∀ s x, g s x = s.add x.2)
  {names : List String} {records : List PkginfoRecord}
include hg

theorem total_foldl :
    ∀ (loaded : List (String × Except Error PkginfoRecord)) (scan : PkginfoScan),
      (loaded.foldl g scan).total = scan.total + (parsedRecords loaded).length
  | [], scan => rfl
  | (id, x) :: rest, scan => by
    rw [List.foldl_cons, hg, total_foldl rest]
    cases x with
    | error e => rfl
    | ok r =>
      simp only [add, addRecord_total, parsedRecords_cons_ok, List.length_cons]
      omega

theorem mem_referencedNames_foldl_of_mem {n : String} :
    ∀ (loaded : List (String × Except Error PkginfoRecord)) (scan : PkginfoScan),
      n ∈ scan.referencedNames → n ∈ (loaded.foldl g scan).referencedNames
  | [], _, h => h
  | (id, x) :: rest, scan, h => by
    rw [List.foldl_cons, hg]
    refine mem_referencedNames_foldl_of_mem rest _ ?_
    cases x with
    | error e => exact h
    | ok r => exact mem_referencedNames_addRecord h

theorem referenced_foldl :
    ∀ (loaded : List (String × Except Error PkginfoRecord)) (scan : PkginfoScan),
      (∀ r ∈ parsedRecords loaded, r ∈ records) →
      (∀ n ∈ scan.referencedNames, Referenced names records n) →
      ∀ n ∈ (loaded.foldl g scan).referencedNames, Referenced names records n
  | [], _, _, h => h
  | (id, x) :: rest, scan, hrs, h => by
    rw [List.foldl_cons, hg]
    cases x with
    | error e => exact referenced_foldl rest _ hrs h
    | ok r =>
      -- the record is one of the parsed records, so its rules are among the closure's
      have hr : r ∈ records := hrs r (by simp)
      exact referenced_foldl rest _ (fun r' hr' => hrs r' (by simp [hr'])) (referenced_addRecord hr h)

end Fold

section Index

variable (loaded : List (String × Except Error PkginfoRecord)) (names : List String)

theorem total_indexPkgsinfo : (indexPkgsinfo loaded names).total = (parsedRecords loaded).length := by
  unfold indexPkgsinfo
  simpa using total_foldl (fun _ x => by cases x; rfl) loaded { referencedNames := Sorted.ofList names }

theorem mem_referencedNames_indexPkgsinfo_of_mem {n : String} (h : n ∈ names) :
    n ∈ (indexPkgsinfo loaded names).referencedNames :=
  mem_referencedNames_foldl_of_mem (fun _ x => by cases x; rfl) loaded _ (Sorted.mem_ofList.2 h)

theorem referenced_of_mem_indexPkgsinfo {n : String} (h : n ∈ (indexPkgsinfo loaded names).referencedNames) :
    Referenced names (parsedRecords loaded) n :=
  referenced_foldl (fun _ x => by cases x; rfl) loaded _ (fun _ hr => hr)
    (fun _ hn => .named (Sorted.mem_ofList.1 hn)) n h

-- Indexing accounts for every record it is given: each parsed record is filed once, under its
-- signature and version, in listing order among the records of that pair; the count is that of
-- the parsed records and the errors are the failures in listing order; the required versions and
-- the item paths are exactly those the parsed records name; and the referenced names hold the
-- names given and lie within their closure under the two dependency rules.
theorem indexPkgsinfo_accounts_for_every_record :
    (indexPkgsinfo loaded names).index.records.Perm (parsedRecords loaded) ∧
      (∀ sig v, (indexPkgsinfo loaded names).index.bucket sig v =
        (parsedRecords loaded).filter fun r => r.signature = sig ∧ r.version = v) ∧
      (indexPkgsinfo loaded names).total = (parsedRecords loaded).length ∧
      (indexPkgsinfo loaded names).report.errors = loadErrors loaded ∧
      (∀ p, p ∈ (indexPkgsinfo loaded names).requiredVersions ↔
        ∃ r ∈ parsedRecords loaded, ∃ d ∈ r.requires, Version.split d true = p ∧ p.2 ≠ "") ∧
      (∀ p, p ∈ (indexPkgsinfo loaded names).referencedPkgs ↔
        ∃ r ∈ parsedRecords loaded, ∃ l ∈ r.itemLocations, l.path = p) ∧
      (∀ n ∈ names, n ∈ (indexPkgsinfo loaded names).referencedNames) ∧
      (∀ n ∈ (indexPkgsinfo loaded names).referencedNames, Referenced names (parsedRecords loaded) n) :=
  ⟨records_indexPkgsinfo loaded names, bucket_indexPkgsinfo loaded names, total_indexPkgsinfo loaded names,
    errors_indexPkgsinfo loaded names, fun _ => mem_requiredVersions_indexPkgsinfo,
    fun _ => mem_referencedPkgs_indexPkgsinfo, fun _ => mem_referencedNames_indexPkgsinfo_of_mem loaded names,
    fun _ => referenced_of_mem_indexPkgsinfo loaded names⟩

end Index

-- Version 1.0 of an item that updates the items `updates`.
def updaterRecord (name : String) (updates : List String) : PkginfoRecord where
  identifier := "pkgsinfo/" ++ name ++ "-1.0"
  metadataSize := 100
  name := name
  version := "1.0"
  catalogs := ["testing"]
  requires := []
  updateFor := updates
  uninstallMethod := none
  receipts := []
  installer := none
  uninstaller := none
  installerType := some "nopkg"
  remotePackage := false
  constraints := ⟨none, none, [], none⟩
  document := []

-- A plugin updating a referenced application, and an item updating nothing referenced.
def updaterListing : List (String × Except Error PkginfoRecord) :=
  [("pkgsinfo/Plugin-1.0", .ok (updaterRecord "Plugin" ["App-2.0"])),
    ("pkgsinfo/Other-1.0", .ok (updaterRecord "Other" ["Unused"]))]

-- The plugin is pulled in by its update of the referenced application, as the closure allows.
theorem updaterListing_pulls_in_plugin :
    "App" ∈ ["App"] ∧ "App" ∈ (indexPkgsinfo updaterListing ["App"]).referencedNames ∧
      "Plugin" ∈ (indexPkgsinfo updaterListing ["App"]).referencedNames ∧
      Referenced ["App"] (parsedRecords updaterListing) "Plugin" := by
  obtain ⟨-, -, -, -, -, -, named, closed⟩ := indexPkgsinfo_accounts_for_every_record updaterListing ["App"]
  have plugin : "Plugin" ∈ (indexPkgsinfo updaterListing ["App"]).referencedNames := by decide +kernel
  exact ⟨by simp, named "App" (by simp), plugin, closed "Plugin" plugin⟩

end Depot
