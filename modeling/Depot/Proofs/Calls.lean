import Depot.Proofs.Installers
import Depot.Proofs.Paths

namespace Depot

inductive StoreCall where
  | put (id : String)
  | delete (id : String)
  deriving DecidableEq, Repr

def StoreCall.Within (D U : String → Prop) : StoreCall → Prop
  | .put id => U id
  | .delete id => D id

structure Traced (σ : Type) where
  store : σ
  calls : List StoreCall := []

namespace Traced

variable {σ : Type} [Repository σ]

instance : Repository (Traced σ) where
  itemlist t := Repository.itemlist t.store
  get t := Repository.get t.store
  put t id data :=
    (⟨(Repository.put t.store id data).1, t.calls ++ [.put id]⟩, (Repository.put t.store id data).2)
  delete t id :=
    (⟨(Repository.delete t.store id).1, t.calls ++ [.delete id]⟩, (Repository.delete t.store id).2)

@[simp] theorem calls_delete (t : Traced σ) (id : String) :
    (Repository.delete t id).1.calls = t.calls ++ [.delete id] :=
  rfl

@[simp] theorem calls_put (t : Traced σ) (id : String) (data : ByteArray) :
    (Repository.put t id data).1.calls = t.calls ++ [.put id] :=
  rfl

@[simp] theorem list_eq (t : Traced σ) (c : Collection) : Repository.list t c = Repository.list t.store c :=
  rfl

end Traced

section Calls

variable {σ α : Type} [Repository σ] {D U : String → Prop}

theorem Repository.Reach.calls {t t' : Traced σ} (h : Repository.Reach D U t t') :
    ∃ cs, t'.calls = t.calls ++ cs ∧ ∀ c ∈ cs, c.Within D U := by
  induction h with
  | refl => exact ⟨[], by simp, by simp⟩
  | @delete t _ id hd _ ih =>
    obtain ⟨cs, hcs, hin⟩ := ih
    refine ⟨.delete id :: cs, by simp [hcs], ?_⟩
    rintro c (_ | ⟨_, hc⟩)
    · exact hd
    · exact hin c hc
  | @put t _ id data hu _ ih =>
    obtain ⟨cs, hcs, hin⟩ := ih
    refine ⟨.put id :: cs, by simp [hcs], ?_⟩
    rintro c (_ | ⟨_, hc⟩)
    · exact hu
    · exact hin c hc

theorem Work.Confined.calls {w : Work (Traced σ) α} (h : w.Confined D U) (sess : Session (Traced σ)) :
    ∃ cs, (w.run.run sess).2.store.calls = sess.store.calls ++ cs ∧ ∀ c ∈ cs, c.Within D U :=
  (h sess).calls

theorem deleteEach_calls (t : Traced σ) :
    ∀ ids : List String, (deleteEach t ids).1.calls = t.calls ++ ids.map .delete
  | [] => by simp
  | id :: ids => by simp [deleteEach_calls _ ids]

end Calls

section Commands

variable {σ γ : Type} [Repository σ] [Confirm γ]

theorem makeCatalogs_calls (options : CatalogOptions) (log : Logger) (s : σ) :
    ∀ c ∈ ((makeCatalogs options log : Work (Traced σ) CatalogReport).runOn ⟨s, []⟩).2.store.calls,
      c.Within IsCatalog IsCatalogOutput := by
  obtain ⟨cs, hcs, hin⟩ := (makeCatalogs_confined options log).calls ⟨⟨s, []⟩, []⟩
  intro c hc
  exact hin c (by simpa [Work.runOn, hcs] using hc)

theorem afterDeletion_calls (t : Traced σ) (plan : CleanupPlan) :
    ∃ blobs : List String, (afterDeletion t plan).calls =
      t.calls ++ (plan.toDelete.map PkginfoRecord.identifier).map .delete ++
        (blobs.map Collection.pkgs.identifier).map .delete :=
  ⟨plan.blobs (foldedPaths (failedRecords plan.toDelete
      (deleteEach t (plan.toDelete.map PkginfoRecord.identifier)).2)),
    by rw [afterDeletion, deleteEach_calls, deleteEach_calls]⟩

variable (config : CleanConfig) (log : Logger)

theorem cleanup_calls (s : σ) (g : γ) :
    let run := (cleanup config log : CleanWork (Traced σ) γ CleanSummary).runOn ⟨s, []⟩ g
    (.confirmed ∉ run.2.history → run.2.session.store.calls = []) ∧
    ∃ pre post, run.2.session.store.calls = pre ++ post ∧
      (∀ c ∈ pre, ∃ id, c = .delete id ∧
        ((∃ ids, Repository.list s .pkgsinfo = .ok ids ∧ id ∈ ids) ∨ ∃ p, id = Collection.pkgs.identifier p)) ∧
      ∀ c ∈ post, c.Within IsCatalog IsCatalogOutput := by
  dsimp only [CleanWork.runOn]
  have start : ({ session := ⟨⟨s, []⟩, []⟩, confirm := g } : Cleaning (Traced σ) γ).session.store.calls = [] := rfl
  refine ⟨fun hn => by rw [cleanup_store_of_not_confirmed config log _ hn, start], ?_⟩
  rcases cleanup_store_cases config log ({ session := ⟨⟨s, []⟩, []⟩, confirm := g } : Cleaning (Traced σ) γ)
    with same | ⟨plan, summary, c₁, ha, rebuild⟩
  · exact ⟨[], [], by rw [same, start]; rfl, by simp, by simp⟩
  obtain ⟨rd, rfl, -⟩ := analyze_ok ha
  obtain ⟨blobs, hdel⟩ := afterDeletion_calls ⟨s, []⟩ (rd.plan config)
  obtain ⟨post, hpost, hin⟩ := rebuild.calls
  refine ⟨_, post, by rw [hpost, hdel], ?_, hin⟩
  -- the records come from the listing the analysis read; the rest are installer items
  obtain ⟨ids, hids, hsub⟩ := rd.identifiers_sublist
  intro c hc
  simp only [List.nil_append, List.mem_append, List.mem_map] at hc
  rcases hc with ⟨_, ⟨r, hr, rfl⟩, rfl⟩ | ⟨_, ⟨p, -, rfl⟩, rfl⟩
  · exact ⟨_, rfl, .inl ⟨ids, hids, hsub.subset (List.mem_map_of_mem (rd.mem_parsed_of_toDelete config hr))⟩⟩
  · exact ⟨_, rfl, .inr ⟨p, rfl⟩⟩

end Commands

-- Each command keeps to its own collections, and a repository in a directory keeps every access
-- below its root. A catalog build writes only catalogs and the digest index of the icons, and
-- deletes only catalogs. A cleanup asks nothing of its store before its deletion is confirmed,
-- then deletes only listed package records and items of the package collection, and after them
-- makes only the requests of its catalog rebuild. Resolving accepts exactly the identifiers that
-- are not empty and have only plain names and `.` as components, and refuses the others before
-- anything is touched; so the path of an item of a collection, whatever text names it, lies at or
-- below the collection's directory.
theorem commands_keep_to_their_collections :
    (∀ {σ : Type} [Repository σ] (options : CatalogOptions) (log : Logger) (s : σ),
      ∀ c ∈ ((makeCatalogs options log : Work (Traced σ) CatalogReport).runOn ⟨s, []⟩).2.store.calls,
        c.Within IsCatalog IsCatalogOutput) ∧
    (∀ {σ γ : Type} [Repository σ] [Confirm γ] (config : CleanConfig) (log : Logger) (s : σ) (g : γ),
      let run := (cleanup config log : CleanWork (Traced σ) γ CleanSummary).runOn ⟨s, []⟩ g
      (.confirmed ∉ run.2.history → run.2.session.store.calls = []) ∧
      ∃ pre post, run.2.session.store.calls = pre ++ post ∧
        (∀ c ∈ pre, ∃ id, c = .delete id ∧
          ((∃ ids, Repository.list s .pkgsinfo = .ok ids ∧ id ∈ ids) ∨
            ∃ p, id = Collection.pkgs.identifier p)) ∧
        ∀ c ∈ post, c.Within IsCatalog IsCatalogOutput) ∧
    (∀ (r : FileRepo) (id : String),
      ((r.resolve id).isOk = true ↔ id ≠ "" ∧ ∀ c ∈ pathComponents id, c.isRelative = true) ∧
      ∀ e data, r.resolve id = .error e →
        r.get id = .error e ∧ Repository.put r id data = (r, .error e) ∧
          Repository.delete r id = (r, .error e)) ∧
    ∀ (r : FileRepo) (c : Collection) (u : String),
      r.resolve (c.identifier u) = .error (.access (c.identifier u) .escapesRoot) ∨
        ∃ p, r.resolve (c.identifier u) = .ok p ∧
          (Disk.PathText.ofString (FileRepo.join r.root c.name)).Within p :=
  ⟨fun options log s => makeCatalogs_calls options log s,
    fun config log s g => cleanup_calls config log s g,
    fun r _ => ⟨r.resolve_isOk_iff, fun _ data h => r.access_of_resolve_error h data⟩,
    fun r c u => r.resolve_identifier c u⟩

end Depot
