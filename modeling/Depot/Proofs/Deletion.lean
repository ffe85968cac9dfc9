import Depot.Proofs.Analysis

namespace Depot

section Each

variable {σ : Type} [Repository σ]

-- Deletes identifiers one after another: the store left and each deletion's result.
def deleteEach (s : σ) : List String → σ × List (Except Error Unit)
  | [] => (s, [])
  | id :: ids =>
    let r := Repository.delete s id
    let rest := deleteEach r.1 ids
    (rest.1, r.2 :: rest.2)

@[simp] theorem deleteEach_nil (s : σ) : deleteEach s [] = (s, []) := rfl

@[simp] theorem deleteEach_cons (s : σ) (id : String) (ids : List String) :
    deleteEach s (id :: ids) =
      ((deleteEach (Repository.delete s id).1 ids).1,
        (Repository.delete s id).2 :: (deleteEach (Repository.delete s id).1 ids).2) :=
  rfl

@[simp] theorem length_deleteEach (s : σ) : ∀ ids : List String, (deleteEach s ids).2.length = ids.length
  | [] => rfl
  | _ :: ids => by simp [length_deleteEach _ ids]

theorem deleteEach_append (s : σ) :
    ∀ xs ys : List String, deleteEach s (xs ++ ys) =
      ((deleteEach (deleteEach s xs).1 ys).1, (deleteEach s xs).2 ++ (deleteEach (deleteEach s xs).1 ys).2)
  | [], _ => rfl
  | x :: xs, ys => by simp [deleteEach_append _ xs ys]

end Each

-- How many deletions went through.
def okCount (results : List (Except Error Unit)) : Nat :=
  results.countP (·.isOk)

-- The errors a run of deletions records, each naming the identifier it failed on.
def deletionErrors (ids : List String) (results : List (Except Error Unit)) : List Error :=
  (ids.zip results).filterMap fun x =>
    match x.2 with
    | .ok () => none
    | .error e => some (.deletion x.1 e)

-- The records whose deletion failed.
def failedRecords (records : List PkginfoRecord) (results : List (Except Error Unit)) :
    List PkginfoRecord :=
  ((records.zip results).filter fun x => !x.2.isOk).map Prod.fst

-- The item paths of records, folded.
def foldedPaths (records : List PkginfoRecord) : List String :=
  records.flatMap fun r => r.itemLocations.map (Text.lower ·.path)

section Counting

variable {x : Except Error Unit} {xs ys : List (Except Error Unit)} {id : String} {ids : List String}

@[simp] theorem okCount_nil : okCount [] = 0 := rfl

theorem okCount_cons : okCount (x :: xs) = okCount [x] + okCount xs := by
  simp only [okCount, List.countP_cons, List.countP_nil]
  omega

@[simp] theorem okCount_append : okCount (xs ++ ys) = okCount xs + okCount ys :=
  List.countP_append

theorem okCount_le : okCount xs ≤ xs.length :=
  List.countP_le_length

theorem okCount_eq_length : okCount xs = xs.length ↔ ∀ r ∈ xs, r = .ok () := by
  rw [okCount, List.countP_eq_length]
  refine forall₂_congr fun r _ => ?_
  cases r <;> simp [Except.isOk, Except.toBool]

theorem okCount_eq_planned_iff {m : Nat} (hm : ys.length ≤ m) :
    (okCount xs = xs.length ∧ okCount ys = m) ↔ (∀ r ∈ xs ++ ys, r = .ok ()) ∧ ys.length = m := by
  have hys : okCount ys ≤ ys.length := okCount_le
  rw [List.forall_mem_append, ← okCount_eq_length, ← okCount_eq_length]
  constructor
  · intro h
    omega
  · intro h
    omega

@[simp] theorem deletionErrors_nil : deletionErrors [] xs = [] := rfl

theorem deletionErrors_cons :
    deletionErrors (id :: ids) (x :: xs) = deletionErrors [id] [x] ++ deletionErrors ids xs := by
  cases x <;> rfl

theorem deletionErrors_append {as : List String} (h : as.length = xs.length) :
    deletionErrors (as ++ ids) (xs ++ ys) = deletionErrors as xs ++ deletionErrors ids ys := by
  simp [deletionErrors, List.zip_append h]

theorem okCount_add_length_deletionErrors :
    ∀ {ids : List String} {xs : List (Except Error Unit)}, ids.length = xs.length →
      okCount xs + (deletionErrors ids xs).length = xs.length
  | [], [], _ => rfl
  | id :: ids, x :: xs, h => by
    have rest := okCount_add_length_deletionErrors (Nat.succ.inj h)
    have one : okCount [x] + (deletionErrors [id] [x]).length = 1 := by
      cases x <;> rfl
    rw [okCount_cons, deletionErrors_cons, List.length_append, List.length_cons]
    omega

@[simp] theorem failedRecords_nil {records : List PkginfoRecord} : failedRecords records [] = [] := by
  simp [failedRecords]

theorem failedRecords_cons {r : PkginfoRecord} {records : List PkginfoRecord} :
    failedRecords (r :: records) (x :: xs) = failedRecords [r] [x] ++ failedRecords records xs := by
  cases x <;> rfl

@[simp] theorem foldedPaths_nil : foldedPaths [] = [] := rfl

@[simp] theorem foldedPaths_append {as bs : List PkginfoRecord} :
    foldedPaths (as ++ bs) = foldedPaths as ++ foldedPaths bs :=
  List.flatMap_append

theorem deletions_accounted (summary : CleanSummary) (h : ids.length = xs.length + ys.length) :
    summary.deletedPkginfos + okCount xs + (summary.deletedPkgs + okCount ys) +
        (summary.report.errors ++ deletionErrors ids (xs ++ ys)).length =
      summary.deletedPkginfos + summary.deletedPkgs + summary.report.errors.length + ids.length := by
  have each := okCount_add_length_deletionErrors (by simpa using h : ids.length = (xs ++ ys).length)
  rw [okCount_append, List.length_append] at each
  rw [List.length_append]
  omega

theorem Report.foldl_error (es : List Error) (r : Report) :
    es.foldl Report.error r = { r with errors := r.errors ++ es } := by
  induction es generalizing r with
  | nil => simp
  | cons e es ih => simp [ih, Report.error]

end Counting

section Run

variable {σ : Type} [Repository σ] (log : Logger)

theorem deleteRecord_run (acc : List String × CleanSummary) (r : PkginfoRecord) (sess : Session σ) :
    let d := Repository.delete sess.store r.identifier
    (deleteRecord log acc r).run.run sess =
      (.ok (acc.1 ++ foldedPaths (failedRecords [r] [d.2]),
          { acc.2 with
            deletedPkginfos := acc.2.deletedPkginfos + okCount [d.2]
            report := (deletionErrors [r.identifier] [d.2]).foldl Report.error acc.2.report }),
        { store := d.1, log := sess.log ++ log.detail 1 ("Deleting " ++ r.identifier) }) := by
  unfold deleteRecord
  simp only [Work.run_bind, Work.run_say, Work.run_change]
  generalize Repository.delete sess.store r.identifier = d
  obtain ⟨s', e | _⟩ := d
  · -- the record stays, and its item paths are held
    have held : foldedPaths (failedRecords [r] [.error e]) = r.itemLocations.map (Text.lower ·.path) := by
      simp [foldedPaths, failedRecords, Except.isOk, Except.toBool]
    rw [held]
    rfl
  · have none_held : foldedPaths (failedRecords [r] [.ok ()]) = [] := rfl
    rw [none_held, List.append_nil]
    rfl

-- The records are deleted one after another; the item paths of those that stay are held.
theorem deleteRecords_run :
    ∀ (records : List PkginfoRecord) (acc : List String × CleanSummary) (sess : Session σ),
      let d := deleteEach sess.store (records.map PkginfoRecord.identifier)
      (records.foldlM (deleteRecord log) acc).run.run sess =
        (.ok (acc.1 ++ foldedPaths (failedRecords records d.2),
            { acc.2 with
              deletedPkginfos := acc.2.deletedPkginfos + okCount d.2
              report := (deletionErrors (records.map PkginfoRecord.identifier) d.2).foldl Report.error
                acc.2.report }),
          { store := d.1, log := sess.log ++ records.flatMap fun r => log.detail 1 ("Deleting " ++ r.identifier) })
  | [], acc, sess => by
    simp only [List.map_nil, deleteEach_nil, failedRecords_nil, foldedPaths_nil, List.append_nil,
      List.flatMap_nil]
    rfl
  | r :: rs, acc, sess => by
    rw [List.foldlM_cons, Work.run_bind, deleteRecord_run]
    dsimp only
    rw [deleteRecords_run rs]
    -- the first deletion, then the others, is the deletion of all of them
    conv_rhs => rw [List.map_cons, deleteEach_cons, failedRecords_cons, foldedPaths_append, okCount_cons,
      deletionErrors_cons, List.foldl_append, List.flatMap_cons]
    simp only [List.append_assoc, Nat.add_assoc]

theorem deleteBlob_run (summary : CleanSummary) (path : String) (sess : Session σ) :
    let id := Collection.pkgs.identifier path
    let d := Repository.delete sess.store id
    (deleteBlob log summary path).run.run sess =
      (.ok { summary with
            deletedPkgs := summary.deletedPkgs + okCount [d.2]
            report := (deletionErrors [id] [d.2]).foldl Report.error summary.report },
        { store := d.1, log := sess.log ++ log.detail 1 ("Deleting " ++ id) }) := by
  unfold deleteBlob
  simp only [Work.run_bind, Work.run_say, Work.run_change]
  generalize Repository.delete sess.store (Collection.pkgs.identifier path) = d
  obtain ⟨s', _ | _⟩ := d <;> rfl

theorem deleteBlobs_run :
    ∀ (paths : List String) (summary : CleanSummary) (sess : Session σ),
      let ids := paths.map Collection.pkgs.identifier
      let d := deleteEach sess.store ids
      (paths.foldlM (deleteBlob log) summary).run.run sess =
        (.ok { summary with
              deletedPkgs := summary.deletedPkgs + okCount d.2
              report := (deletionErrors ids d.2).foldl Report.error summary.report },
          { store := d.1, log := sess.log ++ ids.flatMap fun id => log.detail 1 ("Deleting " ++ id) })
  | [], summary, sess => by
    simp only [List.map_nil, deleteEach_nil, List.flatMap_nil, List.append_nil]
    rfl
  | p :: ps, summary, sess => by
    rw [List.foldlM_cons, Work.run_bind, deleteBlob_run]
    dsimp only
    rw [deleteBlobs_run ps]
    conv_rhs => rw [List.map_cons, deleteEach_cons, okCount_cons, deletionErrors_cons, List.foldl_append,
      List.flatMap_cons]
    simp only [List.append_assoc, Nat.add_assoc]

-- The deletion phase as one equation: the deletions it makes, in order, the store they leave
-- and what the summary gains.
theorem deletePlan_run (plan : CleanupPlan) (summary : CleanSummary) (sess : Session σ) :
    let records := plan.toDelete.map PkginfoRecord.identifier
    let first := deleteEach sess.store records
    let blobs := (plan.blobs (foldedPaths (failedRecords plan.toDelete first.2))).map
      Collection.pkgs.identifier
    let second := deleteEach first.1 blobs
    (deletePlan log plan summary).run.run sess =
      (.ok { summary with
            deletedPkginfos := summary.deletedPkginfos + okCount first.2
            deletedPkgs := summary.deletedPkgs + okCount second.2
            report := (deletionErrors (records ++ blobs) (first.2 ++ second.2)).foldl Report.error
              summary.report },
        { store := second.1,
          log := sess.log ++ (records ++ blobs).flatMap fun id => log.detail 1 ("Deleting " ++ id) }) := by
  unfold deletePlan
  rw [Work.run_bind, deleteRecords_run]
  dsimp only
  rw [deleteBlobs_run, deletionErrors_append (by simp), List.foldl_append, List.flatMap_append,
    List.append_assoc]
  -- the summaries agree as they are; the logs once each line is read through its identifier
  refine Prod.ext rfl (congrArg (Session.mk _) ?_)
  simp only [List.flatMap_map, List.nil_append]

end Run

section Distinct

variable {σ : Type} [Repository σ]

-- A store whose every listing names each item once, as a store keyed by identifier does.
def ListsOnce (s : σ) : Prop :=
  ∀ c items, Repository.itemlist s c = .ok items → items.Nodup

theorem Collection.identifier_injective (c : Collection) : Function.Injective c.identifier :=
  fun _ _ h => (String.append_right_inj _).mp h

theorem Collection.pkgsinfo_identifier_ne_pkgs (a b : String) :
    Collection.pkgsinfo.identifier a ≠ Collection.pkgs.identifier b := by
  intro h
  -- the fifth character is `i` on one side and `/` on the other
  have := congrArg (fun s => s.toList.take 5) h
  simp [Collection.identifier, Collection.name] at this

theorem ListsOnce.nodup_list {s : σ} (h : ListsOnce s) {c : Collection} {ids : List String}
    (hl : Repository.list s c = .ok ids) : ids.Nodup := by
  unfold Repository.list at hl
  cases hi : Repository.itemlist s c with
  | error e => rw [hi] at hl; cases hl
  | ok items =>
    rw [hi] at hl
    obtain rfl : items.map c.identifier = ids := Except.ok.inj hl
    exact (h c items hi).map (Collection.identifier_injective c)

theorem eq_of_relative {p a b : String} (ha : p.isPrefixOf a = true) (hb : p.isPrefixOf b = true)
    (h : String.ofList (a.toList.drop p.length) = String.ofList (b.toList.drop p.length)) : a = b := by
  rw [String.isPrefixOf, String.startsWith_string_iff] at ha hb
  obtain ⟨ta, hta⟩ := ha
  obtain ⟨tb, htb⟩ := hb
  rw [← String.length_toList, ← hta, ← htb, List.drop_left, List.drop_left] at h
  apply String.toList_injective
  rw [← hta, ← htb, String.ofList_injective h]

theorem MemoryStore.listsOnce {s : MemoryStore} (h : s.identifiers.Nodup) : ListsOnce s := by
  intro c items hi
  obtain rfl : s.itemlist c = items := Except.ok.inj hi
  -- a listing reads only the identifiers, which are distinct
  have keys : s.itemlist c = (s.items.map Prod.fst).filterMap fun k =>
      if (c.name ++ "/").isPrefixOf k then
        if hasHiddenPart (String.ofList (k.toList.drop (c.name ++ "/").length)) then none
        else some (String.ofList (k.toList.drop (c.name ++ "/").length))
      else none := by
    rw [List.filterMap_map]
    rfl
  rw [keys]
  refine List.Nodup.filterMap (fun a b x ha hb => ?_) h
  simp only [Option.mem_def] at ha hb
  split at ha
  · split at hb
    · rename_i hpa hpb
      -- a hidden path is listed on neither side
      split at ha <;> split at hb
      · cases ha
      · cases ha
      · cases hb
      · exact eq_of_relative hpa hpb ((Option.some.inj ha).trans (Option.some.inj hb).symm)
    · cases hb
  · cases ha

end Distinct

section Planned

variable {σ : Type} [Repository σ] {s : σ} (rd : Reading s) (config : CleanConfig)

theorem Reading.plan_toDelete :
    (rd.plan config).toDelete = (planCleanup rd.scan rd.manifests.pinnedVersions rd.orphans config.keep).toDelete :=
  planFrom_toDelete _ _ _ _

theorem Reading.mem_parsed_of_toDelete {r : PkginfoRecord} (hr : r ∈ (rd.plan config).toDelete) :
    r ∈ parsedRecords rd.loaded := by
  rw [rd.plan_toDelete] at hr
  have perm := (toDelete_append_kept_perm rd.scan rd.manifests.pinnedVersions config.keep rd.orphans
    rd.ordered).trans rd.records_perm
  exact perm.subset (List.mem_append_left _ hr)

theorem Reading.nodup_toDelete (hs : ListsOnce s) :
    ((rd.plan config).toDelete.map PkginfoRecord.identifier).Nodup := by
  obtain ⟨ids, hids, hsub⟩ := rd.identifiers_sublist
  have parsed : ((parsedRecords rd.loaded).map PkginfoRecord.identifier).Nodup :=
    hsub.nodup (hs.nodup_list hids)
  have perm := ((toDelete_append_kept_perm rd.scan rd.manifests.pinnedVersions config.keep rd.orphans
    rd.ordered).trans rd.records_perm).map PkginfoRecord.identifier
  have planned := perm.nodup_iff.mpr parsed
  rw [List.map_append] at planned
  rw [rd.plan_toDelete]
  exact (List.nodup_append.mp planned).1

theorem Reading.identifier_of_parsed {r : PkginfoRecord} (hr : r ∈ parsedRecords rd.loaded) :
    ∃ x, r.identifier = Collection.pkgsinfo.identifier x := by
  obtain ⟨ids, hids, hsub⟩ := rd.identifiers_sublist
  have hmem : r.identifier ∈ ids := hsub.subset (List.mem_map_of_mem hr)
  unfold Repository.list at hids
  cases hi : Repository.itemlist s .pkgsinfo with
  | error e => rw [hi] at hids; cases hids
  | ok items =>
    rw [hi] at hids
    obtain rfl : items.map Collection.pkgsinfo.identifier = ids := Except.ok.inj hids
    obtain ⟨x, -, hx⟩ := List.mem_map.mp hmem
    exact ⟨x, hx.symm⟩

theorem Reading.mem_pkgsToDelete {q : String} (hq : q ∈ (rd.plan config).pkgsToDelete) :
    Text.lower q ∉ (rd.plan config).pkgsToKeep.map Text.lower ∧
      ∃ r ∈ (rd.plan config).toDelete, ∃ l ∈ r.itemLocations, l.path = q := by
  unfold Reading.plan at hq ⊢
  rw [planFrom_pkgsToDelete, planCleanup_pkgsToDelete] at hq
  rw [planFrom_pkgsToKeep, planFrom_toDelete]
  exact mem_blobsToDelete _ hq

-- The installer items a plan deletes are item paths of records, so none is an orphan.
theorem Reading.referenced_of_pkgsToDelete {p : String} (hp : p ∈ (rd.plan config).pkgsToDelete) :
    p ∈ rd.scan.referencedPkgs := by
  obtain ⟨-, r, hr, l, hl, rfl⟩ := rd.mem_pkgsToDelete config hp
  exact rd.mem_referencedPkgs (rd.mem_parsed_of_toDelete config hr) hl

theorem Reading.nodup_pkgsToDelete : (rd.plan config).pkgsToDelete.Nodup := by
  unfold Reading.plan
  rw [planFrom_pkgsToDelete, planCleanup_pkgsToDelete]
  exact (nodup_lower_blobsToDelete _ _).of_map _

theorem Reading.orphans_eq :
    ∃ items, Repository.itemlist s .pkgs = .ok items ∧
      rd.orphans = items.filter fun p => !(rd.scan.referencedPkgs.map Text.lower).contains (Text.lower p) := by
  have h := rd.found
  unfold findOrphans at h
  cases hi : Repository.itemlist s .pkgs with
  | error e => rw [hi] at h; cases h
  | ok items =>
    rw [hi] at h
    exact ⟨items, rfl, (Except.ok.inj h).symm⟩

theorem Reading.mem_orphans_of_orphansToDelete {o : String} (ho : o ∈ (rd.plan config).orphansToDelete) :
    o ∈ rd.orphans := by
  unfold Reading.plan at ho
  rw [planFrom_orphansToDelete] at ho
  split at ho
  · cases ho
  · exact ho

theorem Reading.nodup_blobs (hs : ListsOnce s) (held : List String) : ((rd.plan config).blobs held).Nodup := by
  obtain ⟨items, hi, horphans⟩ := rd.orphans_eq
  have orphans : (rd.plan config).orphansToDelete.Nodup := by
    unfold Reading.plan
    rw [planFrom_orphansToDelete]
    split
    · exact List.nodup_nil
    · exact horphans ▸ (hs .pkgs items hi).filter _
  refine List.nodup_append.mpr ⟨(rd.nodup_pkgsToDelete config).filter _, orphans, fun p hp o ho => ?_⟩
  rintro rfl
  have referenced : Text.lower p ∈ rd.scan.referencedPkgs.map Text.lower :=
    List.mem_map_of_mem (rd.referenced_of_pkgsToDelete config (List.mem_filter.mp hp).1)
  have orphan := rd.mem_orphans_of_orphansToDelete config ho
  rw [horphans, List.mem_filter] at orphan
  simp [referenced] at orphan

theorem Reading.nodup_deletions (hs : ListsOnce s) (held : List String) :
    ((rd.plan config).toDelete.map PkginfoRecord.identifier ++
      ((rd.plan config).blobs held).map Collection.pkgs.identifier).Nodup := by
  refine List.nodup_append.mpr ⟨rd.nodup_toDelete config hs,
    (rd.nodup_blobs config hs held).map (Collection.identifier_injective _), fun a ha b hb => ?_⟩
  obtain ⟨r, hr, rfl⟩ := List.mem_map.mp ha
  obtain ⟨p, -, rfl⟩ := List.mem_map.mp hb
  obtain ⟨x, hx⟩ := rd.identifier_of_parsed (rd.mem_parsed_of_toDelete config hr)
  rw [hx]
  exact Collection.pkgsinfo_identifier_ne_pkgs x p

end Planned

theorem CleanupPlan.Counted.deleted_eq_planned_iff {plan : CleanupPlan} (hc : plan.Counted)
    {held : List String} {xs ys : List (Except Error Unit)} (hx : xs.length = plan.toDelete.length)
    (hy : ys.length = (plan.pkgsToDelete.filter fun p => !held.contains (Text.lower p)).length +
      plan.orphansToDelete.length) :
    (okCount xs = plan.stats.pkginfosToDelete ∧ okCount ys = plan.stats.pkgsToDelete) ↔
      (∀ r ∈ xs ++ ys, r = .ok ()) ∧ ∀ p ∈ plan.pkgsToDelete, Text.lower p ∉ held := by
  have filtered := List.length_filter_le (fun p => !held.contains (Text.lower p)) plan.pkgsToDelete
  have hm : ys.length ≤ plan.pkgsToDelete.length + plan.orphansToDelete.length := by
    omega
  rw [hc.records, hc.pkgs, ← hx, okCount_eq_planned_iff hm]
  -- no item is held back exactly when the filter keeps them all
  have none_held : (plan.pkgsToDelete.filter fun p => !held.contains (Text.lower p)).length =
      plan.pkgsToDelete.length ↔ ∀ p ∈ plan.pkgsToDelete, Text.lower p ∉ held := by
    rw [List.length_filter_eq_length_iff]
    simp
  rw [← none_held, hy]
  exact and_congr_right fun _ => ⟨fun h => by omega, fun h => by omega⟩

-- A property of a result, claimed only when there is one.
def WhenOk {ε α : Type} (P : α → Prop) : Except ε α → Prop
  | .ok a => P a
  | .error _ => True

section Phase

variable {σ γ : Type} [Repository σ]

-- What deleting a plan from a store does: one deletion for each planned record, then one for
-- each planned installer item that no record whose deletion failed holds, then one for each
-- orphan, and nothing else, no identifier twice; the summary gains one count or one error
-- per deletion, and reaches the planned totals exactly when each deletion went through and no
-- installer item was held back.
def DeletesAsPlanned (log : Logger) (s : σ) (plan : CleanupPlan) (planned : CleanupStats) : Prop :=
  let records := plan.toDelete.map PkginfoRecord.identifier
  let first := deleteEach s records
  let held := foldedPaths (failedRecords plan.toDelete first.2)
  let blobs := ((plan.pkgsToDelete.filter fun p => !held.contains (Text.lower p)) ++
    plan.orphansToDelete).map Collection.pkgs.identifier
  let second := deleteEach first.1 blobs
  (records ++ blobs).Nodup ∧
  ∀ (summary : CleanSummary) (lines : List String),
    let out : CleanSummary := { summary with
      deletedPkginfos := summary.deletedPkginfos + okCount first.2
      deletedPkgs := summary.deletedPkgs + okCount second.2
      report := { summary.report with
        errors := summary.report.errors ++ deletionErrors (records ++ blobs) (first.2 ++ second.2) } }
    (deletePlan log plan summary).run.run ⟨s, lines⟩ =
      (.ok out, ⟨second.1, lines ++ (records ++ blobs).flatMap fun id => log.detail 1 ("Deleting " ++ id)⟩) ∧
    out.deletedPkginfos + out.deletedPkgs + out.report.errors.length =
      summary.deletedPkginfos + summary.deletedPkgs + summary.report.errors.length +
        (records ++ blobs).length ∧
    ((out.deletedPkginfos = summary.deletedPkginfos + planned.pkginfosToDelete ∧
        out.deletedPkgs = summary.deletedPkgs + planned.pkgsToDelete) ↔
      (∀ r ∈ first.2 ++ second.2, r = .ok ()) ∧ ∀ p ∈ plan.pkgsToDelete, Text.lower p ∉ held)

-- Every plan an analysis makes from a store that lists each item once is deleted as planned.
theorem deletion_deletes_each_planned_once (config : CleanConfig) (log : Logger) (s : σ) (g : γ)
    (hs : ListsOnce s) :
    WhenOk (fun r => DeletesAsPlanned log s r.1 r.2.planned)
      ((analyze config log : CleanWork σ γ _).runOn s g).1 := by
  unfold CleanWork.runOn
  generalize h : (analyze config log : CleanWork σ γ _).run.run { session := ⟨s, []⟩, confirm := g } = r
  obtain ⟨_ | ⟨plan, summary⟩, c'⟩ := r
  · trivial
  · obtain ⟨rd, rfl, hplanned, -, -, -⟩ := analyze_ok h
    refine ⟨rd.nodup_deletions config hs _, fun summary₀ lines => ⟨?_, ?_, ?_⟩⟩
    · rw [deletePlan_run, Report.foldl_error]
      rfl
    · exact deletions_accounted summary₀ (by simp)
    · have counted : (rd.plan config).Counted := counted_planFrom _ _ _ _
      rw [hplanned]
      simp only [Nat.add_left_cancel_iff]
      exact counted.deleted_eq_planned_iff (by simp) (by simp)

-- Keeping no version, the record and its installer go; the orphan is undeletable, so its
-- deletion fails.
def sampleStore : MemoryStore where
  items := [("pkgs/Foo-1.0.pkg", "payload".toUTF8), ("pkgs/stray.pkg", "payload".toUTF8),
    ("pkgsinfo/Foo-1.0", ("<plist><dict><key>name</key><string>Foo</string>" ++
      "<key>version</key><string>1.0</string>" ++
      "<key>installer_item_location</key><string>Foo-1.0.pkg</string></dict></plist>").toUTF8)]
  undeletable := ["pkgs/stray.pkg"]

theorem sampleStore_deletes_as_planned :
    ListsOnce sampleStore ∧
      (((analyze { keep := 0 } {} : CleanWork MemoryStore Unit _).runOn sampleStore ()).1.toOption.map
          fun r => (r.1.toDelete.map PkginfoRecord.identifier, r.1.pkgsToDelete, r.1.orphansToDelete)) =
        some (["pkgsinfo/Foo-1.0"], ["Foo-1.0.pkg"], ["stray.pkg"]) ∧
      (deleteEach sampleStore ["pkgsinfo/Foo-1.0", "pkgs/Foo-1.0.pkg", "pkgs/stray.pkg"]).2.map
        Except.toBool = [true, true, false] ∧
      WhenOk (fun r => DeletesAsPlanned {} sampleStore r.1 r.2.planned)
        ((analyze { keep := 0 } {} : CleanWork MemoryStore Unit _).runOn sampleStore ()).1 := by
  have hs : ListsOnce sampleStore := MemoryStore.listsOnce (by decide)
  refine ⟨hs, ?_, ?_, deletion_deletes_each_planned_once { keep := 0 } {} sampleStore () hs⟩
  · decide +kernel
  · decide +kernel

end Phase

end Depot
