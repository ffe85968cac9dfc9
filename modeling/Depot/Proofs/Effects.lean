import Depot.Cleanup.Run
import Depot.Repository.Memory

namespace Depot

section Run

variable {σ α β : Type}

namespace Work

theorem run_bind (x : Work σ α) (f : α → Work σ β) (w : Session σ) :
    (x >>= f).run.run w = match x.run.run w with
      | (.ok a, w') => (f a).run.run w'
      | (.error e, w') => (.error e, w') := by
  simp only [ExceptT.run_bind, StateT.run_bind]
  rcases x.run.run w with ⟨_ | _, _⟩ <;> rfl

theorem run_bind_ok {x : Work σ α} {w w' : Session σ} {a : α} (h : x.run.run w = (.ok a, w'))
    (f : α → Work σ β) : (x >>= f).run.run w = (f a).run.run w' := by
  rw [run_bind, h]

theorem run_bind_error {x : Work σ α} {w w' : Session σ} {e : Error}
    (h : x.run.run w = (.error e, w')) (f : α → Work σ β) :
    (x >>= f).run.run w = (.error e, w') := by
  rw [run_bind, h]

@[simp] theorem run_pure (a : α) (w : Session σ) : (pure a : Work σ α).run.run w = (.ok a, w) :=
  rfl

@[simp] theorem run_say (lines : List String) (w : Session σ) :
    (say lines : Work σ Unit).run.run w = (.ok (), { w with log := w.log ++ lines }) :=
  rfl

@[simp] theorem run_get (w : Session σ) : (get : Work σ (Session σ)).run.run w = (.ok w, w) :=
  rfl

@[simp] theorem run_read (f : σ → Except Error α) (w : Session σ) :
    (read f).run.run w = (f w.store, w) := by
  rw [read, run_bind, run_get]
  dsimp only
  cases f w.store <;> rfl

@[simp] theorem run_attempt (f : σ → Except Error α) (w : Session σ) :
    (attempt f).run.run w = (.ok (f w.store), w) :=
  rfl

@[simp] theorem run_change (f : σ → Changed σ) (w : Session σ) :
    (change f).run.run w = (.ok (f w.store).2, { w with store := (f w.store).1 }) :=
  rfl

end Work

namespace CleanWork

variable {γ : Type}

theorem run_bind (x : CleanWork σ γ α) (f : α → CleanWork σ γ β) (c : Cleaning σ γ) :
    (x >>= f).run.run c = match x.run.run c with
      | (.ok a, c') => (f a).run.run c'
      | (.error e, c') => (.error e, c') := by
  simp only [ExceptT.run_bind, StateT.run_bind]
  rcases x.run.run c with ⟨_ | _, _⟩ <;> rfl

theorem run_bind_ok {x : CleanWork σ γ α} {c c' : Cleaning σ γ} {a : α}
    (h : x.run.run c = (.ok a, c')) (f : α → CleanWork σ γ β) :
    (x >>= f).run.run c = (f a).run.run c' := by
  rw [run_bind, h]

theorem run_bind_error {x : CleanWork σ γ α} {c c' : Cleaning σ γ} {e : Error}
    (h : x.run.run c = (.error e, c')) (f : α → CleanWork σ γ β) :
    (x >>= f).run.run c = (.error e, c') := by
  rw [run_bind, h]

@[simp] theorem run_pure (a : α) (c : Cleaning σ γ) :
    (pure a : CleanWork σ γ α).run.run c = (.ok a, c) :=
  rfl

@[simp] theorem run_get (c : Cleaning σ γ) :
    (get : CleanWork σ γ (Cleaning σ γ)).run.run c = (.ok c, c) :=
  rfl

@[simp] theorem run_throw (e : Error) (c : Cleaning σ γ) :
    (throw e : CleanWork σ γ α).run.run c = (.error e, c) :=
  rfl

@[simp] theorem run_lift (w : Work σ α) (c : Cleaning σ γ) :
    (lift w).run.run c = ((w.run.run c.session).1, { c with session := (w.run.run c.session).2 }) :=
  rfl

@[simp] theorem run_enter (log : Logger) (p : Phase) (c : Cleaning σ γ) :
    (enter log p : CleanWork σ γ Unit).run.run c =
      (.ok (), { c with
        session := { c.session with log := c.session.log ++ log.detail 2 ("[repoclean] " ++ p.name) }
        history := c.history ++ [p] }) :=
  rfl

theorem run_ask [Confirm γ] (q : String) (c : Cleaning σ γ) :
    (ask q : CleanWork σ γ Bool).run.run c =
      ((Confirm.ask c.confirm q).1, { c with confirm := (Confirm.ask c.confirm q).2 }) := by
  rw [ask, run_bind, run_get]
  dsimp only
  cases (Confirm.ask c.confirm q).1 <;> rfl

end CleanWork

end Run

section Frame

variable {σ α β : Type} [Repository σ]

-- The stores reached from one by deletions of identifiers in `D` and writes of identifiers
-- in `U`.
inductive Repository.Reach (D U : String → Prop) : σ → σ → Prop
  | refl (s : σ) : Reach D U s s
  | delete {s s' : σ} {id : String} : D id → Reach D U (Repository.delete s id).1 s' →
      Reach D U s s'
  | put {s s' : σ} {id : String} (data : ByteArray) : U id →
      Reach D U (Repository.put s id data).1 s' → Reach D U s s'

namespace Repository.Reach

variable {D U D' U' : String → Prop} {s₁ s₂ s₃ : σ}

theorem trans (h₁ : Reach D U s₁ s₂) (h₂ : Reach D U s₂ s₃) : Reach D U s₁ s₃ := by
  induction h₁ with
  | refl => exact h₂
  | delete hd _ ih => exact .delete hd (ih h₂)
  | put data hu _ ih => exact .put data hu (ih h₂)

theorem mono (h : Reach D U s₁ s₂) (hD : ∀ id, D id → D' id) (hU : ∀ id, U id → U' id) :
    Reach D' U' s₁ s₂ := by
  induction h with
  | refl => exact .refl _
  | delete hd _ ih => exact .delete (hD _ hd) ih
  | put data hu _ ih => exact .put data (hU _ hu) ih

theorem of_delete {id : String} (h : D id) (s : σ) : Reach D U s (Repository.delete s id).1 :=
  .delete h (.refl _)

theorem of_put {id : String} (h : U id) (s : σ) (data : ByteArray) :
    Reach D U s (Repository.put s id data).1 :=
  .put data h (.refl _)

end Repository.Reach

-- Work that changes the store only by deleting identifiers in `D` and writing identifiers
-- in `U`, from every session, whether it succeeds or fails.
def Work.Confined (D U : String → Prop) (w : Work σ α) : Prop :=
  ∀ sess, Repository.Reach D U sess.store (w.run.run sess).2.store

namespace Work.Confined

variable {D U : String → Prop}

theorem pure (a : α) : Confined D U (Pure.pure a : Work σ α) :=
  fun _ => .refl _

theorem bind {x : Work σ α} {f : α → Work σ β} (hx : Confined D U x)
    (hf : ∀ a, Confined D U (f a)) : Confined D U (x >>= f) := by
  intro sess
  rw [Work.run_bind]
  rcases h : x.run.run sess with ⟨_ | a, sess'⟩
  · simpa [h] using hx sess
  · exact (by simpa [h] using hx sess : Repository.Reach D U sess.store sess'.store).trans
      (hf a sess')

theorem say (lines : List String) : Confined D U (Work.say lines : Work σ Unit) :=
  fun _ => .refl _

theorem read (f : σ → Except Error α) : Confined D U (Work.read f) := by
  intro sess
  simpa using Repository.Reach.refl sess.store

theorem attempt (f : σ → Except Error α) : Confined D U (Work.attempt f) :=
  fun _ => .refl _

theorem get : Confined D U (MonadState.get : Work σ (Session σ)) :=
  fun _ => .refl _

theorem delete {id : String} (h : D id) :
    Confined D U (Work.change (Repository.delete · id) : Work σ _) :=
  fun sess => .of_delete h sess.store

theorem put {id : String} (h : U id) (data : ByteArray) :
    Confined D U (Work.change (Repository.put · id data) : Work σ _) :=
  fun sess => .of_put h sess.store data

theorem foldlM {f : β → α → Work σ β} :
    ∀ {xs : List α}, (∀ b, ∀ a ∈ xs, Confined D U (f b a)) → ∀ b, Confined D U (xs.foldlM f b)
  | [], _, b => pure b
  | x :: xs, hf, b => by
    rw [List.foldlM_cons]
    exact bind (hf b x List.mem_cons_self) fun b' =>
      foldlM (fun b a ha => hf b a (List.mem_cons_of_mem x ha)) b'

theorem forIn {f : α → β → Work σ (ForInStep β)} (hf : ∀ a b, Confined D U (f a b)) :
    ∀ (xs : List α) (b : β), Confined D U (ForIn.forIn xs b f)
  | [], b => pure b
  | x :: xs, b => by
    rw [List.forIn_cons]
    refine bind (hf x b) fun step => ?_
    cases step with
    | done b' => exact pure b'
    | yield b' => exact forIn hf xs b'

end Work.Confined

end Frame

section Memory

namespace MemoryStore

variable {s : MemoryStore} {id x : String}

theorem mem_keys_insertItem {data : ByteArray} {items : List (String × ByteArray)} :
    x ∈ (insertItem id data items).map (·.1) ↔ x = id ∨ x ∈ items.map (·.1) := by
  induction items with
  | nil => simp [insertItem]
  | cons kv rest ih =>
    obtain ⟨k, v⟩ := kv
    simp only [insertItem]
    split
    · simp
    · split
      · subst_vars; simp
      · simp only [List.map_cons, List.mem_cons, ih, or_left_comm]

theorem check_of_mem {marked : List String} (h : id ∈ marked) : check marked id = .error (refusal id) := by
  simp [check, h]

theorem check_of_not_mem {marked : List String} (h : id ∉ marked) : check marked id = .ok () := by
  simp [check, h]

theorem delete_cases (s : MemoryStore) (id : String) :
    s.delete id = .ok { s with items := s.items.filter (·.1 != id) } ∨ ∃ e, s.delete id = .error e := by
  by_cases h1 : id ∈ s.failing
  · exact .inr ⟨_, by rw [MemoryStore.delete, check_of_mem h1]; rfl⟩
  by_cases h2 : id ∈ s.undeletable
  · exact .inr ⟨_, by rw [MemoryStore.delete, check_of_not_mem h1, check_of_mem h2]; rfl⟩
  by_cases h3 : s.contains id = true
  · exact .inl (by rw [MemoryStore.delete, check_of_not_mem h1, check_of_not_mem h2, if_pos h3]; rfl)
  · exact .inr ⟨_, by rw [MemoryStore.delete, check_of_not_mem h1, check_of_not_mem h2, if_neg h3]; rfl⟩

theorem repository_delete_cases (s : MemoryStore) (id : String) :
    Repository.delete s id = ({ s with items := s.items.filter (·.1 != id) }, .ok ()) ∨
      ∃ e, Repository.delete s id = (s, .error e) := by
  rcases delete_cases s id with h | ⟨e, h⟩
  · exact .inl (by show Changed.ofExcept s (s.delete id) = _; rw [h]; rfl)
  · exact .inr ⟨e, by show Changed.ofExcept s (s.delete id) = _; rw [h]; rfl⟩

theorem mem_identifiers_filter_ne :
    x ∈ ({ s with items := s.items.filter (·.1 != id) } : MemoryStore).identifiers ↔
      x ∈ s.identifiers ∧ x ≠ id := by
  simp only [identifiers, List.mem_map, List.mem_filter, bne_iff_ne, ne_eq]
  constructor
  · rintro ⟨kv, ⟨hkv, hne⟩, rfl⟩
    exact ⟨⟨kv, hkv, rfl⟩, hne⟩
  · rintro ⟨⟨kv, hkv, rfl⟩, hne⟩
    exact ⟨kv, ⟨hkv, hne⟩, rfl⟩

theorem mem_identifiers_of_delete (h : x ∈ (Repository.delete s id).1.identifiers) :
    x ∈ s.identifiers := by
  rcases repository_delete_cases s id with e | ⟨_, e⟩ <;> rw [e] at h
  · exact (mem_identifiers_filter_ne.mp h).1
  · exact h

theorem mem_identifiers_delete (hx : x ∈ s.identifiers) (hne : x ≠ id) :
    x ∈ (Repository.delete s id).1.identifiers := by
  rcases repository_delete_cases s id with e | ⟨_, e⟩ <;> rw [e]
  · exact mem_identifiers_filter_ne.mpr ⟨hx, hne⟩
  · exact hx

theorem not_mem_identifiers_delete (h : (Repository.delete s id).2 = .ok ()) :
    id ∉ (Repository.delete s id).1.identifiers := by
  rcases repository_delete_cases s id with e | ⟨_, e⟩ <;> rw [e] at h ⊢
  · exact fun hm => (mem_identifiers_filter_ne.mp hm).2 rfl
  · cases h

theorem put_cases (s : MemoryStore) (id : String) (data : ByteArray) :
    s.put id data = .ok (s.insert id data) ∨ ∃ e, s.put id data = .error e := by
  by_cases h : id ∈ s.failing
  · exact .inr ⟨_, by rw [MemoryStore.put, check_of_mem h]; rfl⟩
  · exact .inl (by rw [MemoryStore.put, check_of_not_mem h]; rfl)

theorem repository_put_cases (s : MemoryStore) (id : String) (data : ByteArray) :
    Repository.put s id data = (s.insert id data, .ok ()) ∨
      ∃ e, Repository.put s id data = (s, .error e) := by
  rcases put_cases s id data with h | ⟨e, h⟩
  · exact .inl (by show Changed.ofExcept s (s.put id data) = _; rw [h]; rfl)
  · exact .inr ⟨e, by show Changed.ofExcept s (s.put id data) = _; rw [h]; rfl⟩

theorem mem_identifiers_insert {data : ByteArray} :
    x ∈ (s.insert id data).identifiers ↔ x = id ∨ x ∈ s.identifiers := by
  simp only [identifiers, insert, mem_keys_insertItem]

theorem mem_identifiers_put {data : ByteArray} (hx : x ∈ s.identifiers) :
    x ∈ (Repository.put s id data).1.identifiers := by
  rcases repository_put_cases s id data with e | ⟨_, e⟩ <;> rw [e]
  · exact mem_identifiers_insert.mpr (.inr hx)
  · exact hx

theorem mem_identifiers_of_put {data : ByteArray}
    (hx : x ∈ (Repository.put s id data).1.identifiers) : x ∈ s.identifiers ∨ x = id := by
  rcases repository_put_cases s id data with e | ⟨_, e⟩ <;> rw [e] at hx
  · exact (mem_identifiers_insert.mp hx).symm
  · exact .inl hx

end MemoryStore

namespace Repository.Reach

variable {D U : String → Prop} {s s' : MemoryStore} {x : String}

theorem mem_identifiers (h : Reach D U s s') (hx : x ∈ s.identifiers) (hD : ¬ D x) :
    x ∈ s'.identifiers := by
  induction h with
  | refl => exact hx
  | @delete s _ id hd _ ih =>
    exact ih (MemoryStore.mem_identifiers_delete hx fun e => hD (e ▸ hd))
  | put data _ _ ih => exact ih (MemoryStore.mem_identifiers_put hx)

theorem mem_identifiers_of (h : Reach D U s s') (hx : x ∈ s'.identifiers) (hU : ¬ U x) :
    x ∈ s.identifiers := by
  induction h with
  | refl => exact hx
  | delete _ _ ih => exact MemoryStore.mem_identifiers_of_delete (ih hx)
  | @put s _ id data hu _ ih =>
    exact (MemoryStore.mem_identifiers_of_put (ih hx)).resolve_right fun e => hU (e ▸ hu)

end Repository.Reach

end Memory

section Catalogs

variable {σ : Type} [Repository σ]

-- A catalog resource, `catalogs/<name>`.
def IsCatalog (id : String) : Prop := ∃ name, id = Collection.catalogs.identifier name

-- What a catalog build writes: a catalog, or the digest index of the icons.
def IsCatalogOutput (id : String) : Prop :=
  IsCatalog id ∨ id = Collection.icons.identifier iconHashesName

theorem writeEncoded_confined {D U : String → Prop} {id : String} (h : U id)
    (encoded : Except Error String) : (writeEncoded id encoded : Work σ _).Confined D U := by
  unfold writeEncoded
  split
  · exact .put h _
  · exact .pure _

theorem removeStale_confined (log : Logger) (assembled : List String) (out : CatalogReport) :
    (removeStale log assembled out : Work σ CatalogReport).Confined IsCatalog IsCatalogOutput := by
  unfold removeStale
  refine .bind (.attempt _) fun _ => ?_
  split
  · exact .pure _
  · refine .foldlM (fun out name _ => ?_) _
    split
    · exact .pure _
    · refine .bind (.delete ⟨name, rfl⟩) fun _ => ?_
      split
      · exact .bind (.say _) fun _ => .pure _
      · exact .pure _

theorem writeCatalogs_confined {D : String → Prop} (options : CatalogOptions) (log : Logger)
    (catalogs : List (String × List Value)) (out : CatalogReport) :
    (writeCatalogs options log catalogs out : Work σ CatalogReport).Confined D IsCatalogOutput := by
  unfold writeCatalogs
  refine .foldlM (fun out entry _ => ?_) _
  obtain ⟨name, entries⟩ := entry
  refine .bind (writeEncoded_confined (.inl ⟨name, rfl⟩) _) fun _ => ?_
  split
  · exact .bind (.say _) fun _ => .pure _
  · exact .pure _

theorem makeCatalogs_confined (options : CatalogOptions) (log : Logger) :
    (makeCatalogs options log : Work σ CatalogReport).Confined IsCatalog IsCatalogOutput := by
  unfold makeCatalogs
  refine .bind (.say _) fun _ => .bind (.read _) fun _ => .bind .get fun _ => ?_
  split
  dsimp only
  -- both ways of indexing the package collection lead into the same publishing steps: only
  -- the listing of the collection differs
  split
  all_goals
    try refine .bind (.say _) fun _ => .bind (.read _) fun _ => ?_
    refine .bind (.pure _) fun _ => ?_
    refine .bind (.say _) fun _ => .bind (.read _) fun _ => .bind (.say _) fun _ =>
      .bind (removeStale_confined _ _ _) fun _ => .bind (writeCatalogs_confined _ _ _ _) fun _ => ?_
    split
    · exact .bind (.pure _) fun _ => .pure _
    · refine .bind (writeEncoded_confined (.inr rfl) _) fun _ => ?_
      split
      · exact .bind (.say _) fun _ => .bind (.pure _) fun _ => .pure _
      · exact .bind (.pure _) fun _ => .pure _

end Catalogs

end Depot
