import Depot.Proofs.Resources
import Depot.Proofs.Assembly

namespace Depot

def Error.isCatalogWriteOf (c : String) : Error → Bool
  | .catalogWrite name _ => name == c
  | _ => false

section Runs

variable {σ α β : Type}

theorem Work.foldlM_inv {f : β → α → Work σ β} (xs : List α) (I : List α → β → Session σ → Prop)
    (step : ∀ done x rest b w, done ++ x :: rest = xs → I done b w →
      ∃ b' w', (f b x).run.run w = (.ok b', w') ∧ I (done ++ [x]) b' w')
    {b : β} {w : Session σ} (start : I [] b w) :
    ∃ b' w', (xs.foldlM f b).run.run w = (.ok b', w') ∧ I xs b' w' := by
  -- the fold is run on what is left of `xs` after the elements done
  have rest_run : ∀ (rest done : List α) (b : β) (w : Session σ), done ++ rest = xs → I done b w →
      ∃ b' w', (rest.foldlM f b).run.run w = (.ok b', w') ∧ I xs b' w' := by
    intro rest
    induction rest with
    | nil =>
      intro done b w hxs hI
      exact ⟨b, w, rfl, by simpa [← hxs] using hI⟩
    | cons x rest ih =>
      intro done b w hxs hI
      obtain ⟨b₁, w₁, hrun, hI₁⟩ := step done x rest b w hxs hI
      rw [List.foldlM_cons, Work.run_bind_ok hrun]
      exact ih (done ++ [x]) b₁ w₁ (by simpa using hxs) hI₁
  exact rest_run xs [] b w rfl start

theorem List.foldl_inv {f : β → α → β} (xs : List α) (I : List α → β → Prop)
    (step : ∀ done x rest b, done ++ x :: rest = xs → I done b → I (done ++ [x]) (f b x))
    {b : β} (start : I [] b) : I xs (xs.foldl f b) := by
  have rest_fold : ∀ (rest done : List α) (b : β), done ++ rest = xs → I done b → I xs (rest.foldl f b) := by
    intro rest
    induction rest with
    | nil =>
      intro done b hxs hI
      simpa [← hxs] using hI
    | cons x rest ih =>
      intro done b hxs hI
      exact ih (done ++ [x]) (f b x) (by simpa using hxs) (step done x rest b hxs hI)
  exact rest_fold xs [] b rfl start

end Runs

section Errors

variable {c : String} {e : Error}

theorem decode_error_isCatalogWriteOf {id : String} {data : ByteArray} {shape : Shape}
    (h : decode id data shape = .error e) : e.isCatalogWriteOf c = false := by
  unfold decode at h
  split at h <;> split at h <;> cases h <;> rfl

theorem PkginfoRecord.parse_error_isCatalogWriteOf {id : String} {data : ByteArray}
    (h : PkginfoRecord.parse id data = .error e) : e.isCatalogWriteOf c = false := by
  unfold PkginfoRecord.parse at h
  simp only [bind, Except.bind, pure, Except.pure, throw, throwThe, MonadExceptOf.throw] at h
  repeat' split at h
  all_goals cases h
  -- what is left is a decoding failure, or a missing name or version
  any_goals exact decode_error_isCatalogWriteOf ‹_›
  all_goals rfl

theorem loadRecord_error_isCatalogWriteOf {σ : Type} [Repository σ] {s : σ} {id : String}
    (h : loadRecord s id = .error e) : e.isCatalogWriteOf c = false := by
  unfold loadRecord at h
  split at h
  · exact PkginfoRecord.parse_error_isCatalogWriteOf h
  · cases h
    rfl

theorem duplicateErrors_isCatalogWriteOf {before : List (String × PkginfoRecord)} {x : String × PkginfoRecord}
    (h : e ∈ duplicateErrors before x) : e.isCatalogWriteOf c = false := by
  obtain ⟨c', -, hc'⟩ := List.mem_filterMap.mp h
  unfold duplicateError at hc'
  split at hc'
  · split at hc'
    · cases hc'
    · cases hc'
      rfl
  · cases hc'

theorem assemblyErrors_isCatalogWriteOf {options : CatalogOptions} {paths : List String} :
    ∀ {before : List (String × PkginfoRecord)} {loaded : List (String × Except Error PkginfoRecord)},
      (∀ x ∈ loaded, ∀ e, x.2 = .error e → e.isCatalogWriteOf c = false) →
        ∀ e ∈ assemblyErrors options paths before loaded, e.isCatalogWriteOf c = false
  | _, [], _, _, he => absurd he List.not_mem_nil
  | before, (id, .error e') :: rest, h, e, he => by
    rw [assemblyErrors] at he
    rcases List.mem_cons.mp he with rfl | he
    · exact h _ List.mem_cons_self _ rfl
    · exact assemblyErrors_isCatalogWriteOf (fun x hx => h x (List.mem_cons_of_mem _ hx)) e he
  | before, (id, .ok r) :: rest, h, e, he => by
    have rest_ok := fun x hx => h x (List.mem_cons_of_mem (id, Except.ok r) hx)
    rw [assemblyErrors] at he
    split at he
    · rcases List.mem_append.mp he with he | he
      · exact duplicateErrors_isCatalogWriteOf he
      · exact assemblyErrors_isCatalogWriteOf rest_ok e he
    · rcases List.mem_append.mp he with he | he
      · split at he
        · obtain rfl := List.mem_singleton.mp he
          rfl
        · exact absurd he List.not_mem_nil
      · exact assemblyErrors_isCatalogWriteOf rest_ok e he

end Errors

section Digests

variable {σ : Type} [Repository σ]

theorem hashIcons_spec (s : σ) (icons : List String) (report : Report) :
    Sorted.Strict compare ((hashIcons s icons report).1.map Prod.fst) ∧
      (hashIcons s icons report).2.errors = report.errors ∧
      ∀ icon d, (icon, d) ∈ (hashIcons s icons report).1 ↔ icon ∈ icons ∧
        ∃ data, Repository.get s (Collection.icons.identifier icon) = .ok data ∧ d = Sha256.hexDigest data := by
  unfold hashIcons
  refine List.foldl_inv _ (fun done (acc : List (String × String) × Report) =>
    Sorted.Strict compare (acc.1.map Prod.fst) ∧
    acc.2.errors = report.errors ∧ ∀ icon d, (icon, d) ∈ acc.1 ↔ icon ∈ done ∧
      ∃ data, Repository.get s (Collection.icons.identifier icon) = .ok data ∧ d = Sha256.hexDigest data)
    ?_ ⟨List.Pairwise.nil, rfl, by simp⟩
  rintro done icon' rest ⟨hashes, rep⟩ - ⟨hs, he, hm⟩
  dsimp only
  split
  · rename_i data' hget
    refine ⟨hs.alterBy, he, fun icon d => ?_⟩
    rw [Sorted.mem_alterBy hs, hm, List.mem_append, List.mem_singleton]
    by_cases hi : icon = icon'
    · subst hi
      simp [hget]
    · simp [hi]
  · rename_i e hget
    refine ⟨hs, he, fun icon d => ?_⟩
    rw [hm, List.mem_append, List.mem_singleton]
    by_cases hi : icon = icon'
    · subst hi
      simp [hget]
    · simp [hi]

end Digests

namespace MemoryStore

variable {s : MemoryStore} {options : CatalogOptions} {log : Logger}

def iconsToHash (s : MemoryStore) : List String :=
  (s.itemlist .icons).filter (· != iconHashesName)

def iconDigests (s : MemoryStore) : List (String × String) :=
  (hashIcons s s.iconsToHash {}).1

def itemPaths (options : CatalogOptions) (s : MemoryStore) : List String :=
  if options.skipPkgCheck then [] else s.itemlist .pkgs

def loadedRecords (s : MemoryStore) : List (String × Except Error PkginfoRecord) :=
  ((s.itemlist .pkgsinfo).map Collection.pkgsinfo.identifier).map fun id => (id, loadRecord s id)

def assembly (options : CatalogOptions) (log : Logger) (s : MemoryStore) : Assembly :=
  assemble options (PkgIndex.ofList (s.itemPaths options)) log s.loadedRecords (hashIcons s s.iconsToHash {}).2

theorem mem_iconDigests {icon d : String} :
    (icon, d) ∈ s.iconDigests ↔ icon ∈ s.itemlist .icons ∧ icon ≠ iconHashesName ∧
      ∃ data, s.get (Collection.icons.identifier icon) = .ok data ∧ d = Sha256.hexDigest data := by
  rw [iconDigests, (hashIcons_spec s s.iconsToHash {}).2.2, iconsToHash, List.mem_filter, bne_iff_ne, and_assoc]
  rfl

theorem assembly_takes : Assembly.Takes options (s.itemPaths options) [] s.loadedRecords
    { report := (hashIcons s s.iconsToHash {}).2 } (s.assembly options log) :=
  Assembly.Takes.foldl log _ _ [] (Assembly.tracks_start _)

theorem nodup_assembly : ((s.assembly options log).catalogs.map Prod.fst).Nodup :=
  assembly_takes.tracks.ordered.nodup

theorem assembly_errors_isCatalogWriteOf {c : String} :
    ∀ e ∈ (s.assembly options log).report.errors, e.isCatalogWriteOf c = false := by
  rw [assembly_takes.errors, (hashIcons_spec s s.iconsToHash {}).2.1]
  refine assemblyErrors_isCatalogWriteOf fun x hx e he => ?_
  obtain ⟨id, -, rfl⟩ := List.mem_map.mp hx
  exact loadRecord_error_isCatalogWriteOf he

end MemoryStore

namespace MemoryStore

variable {s : MemoryStore} {id : String}

def Deletable (s : MemoryStore) (id : String) : Prop := id ∉ s.failing ∧ id ∉ s.undeletable

theorem delete_result_ok_iff :
    (Repository.delete s id).2 = .ok () ↔ s.Deletable id ∧ id ∈ s.identifiers := by
  by_cases hm : id ∈ s.failing ∨ id ∈ s.undeletable
  · rw [repository_delete_of_marked hm]
    simp only [reduceCtorEq, false_iff, not_and]
    exact fun hd => absurd hm fun h => h.elim hd.1 hd.2
  have hd : s.Deletable id := ⟨fun h => hm (.inl h), fun h => hm (.inr h)⟩
  by_cases hin : id ∈ s.identifiers
  · rw [repository_delete_of_deletable hd.1 hd.2 hin]
    exact iff_of_true rfl ⟨hd, hin⟩
  · rw [repository_delete_of_absent hin]
    simp [hin]

theorem delete_fst_of_error {e : Error} (h : (Repository.delete s id).2 = .error e) :
    (Repository.delete s id).1 = s := by
  rcases repository_delete_cases s id with hd | ⟨_, hd⟩ <;> rw [hd] at h ⊢
  cases h

end MemoryStore

section Stale

open MemoryStore

variable (log : Logger) (names : List String) (t : MemoryStore) (out₀ : CatalogReport)

structure StaleRemoval (done : List String) (out : CatalogReport) (t' : MemoryStore) : Prop where
  marks : t'.failing = t.failing ∧ t'.undeletable = t.undeletable
  deleted : ∀ n ∈ done, n ∉ names → t.Deletable (Collection.catalogs.identifier n) →
    t'.lookup (Collection.catalogs.identifier n) = none
  kept : ∀ j, (∀ n ∈ done, n ∉ names → t.Deletable (Collection.catalogs.identifier n) →
    j ≠ Collection.catalogs.identifier n) → t'.lookup j = t.lookup j
  catalogs : out.catalogs = out₀.catalogs
  removed : ∀ n, n ∈ out.staleRemoved ↔
    n ∈ out₀.staleRemoved ∨ n ∈ done ∧ n ∉ names ∧ t.Deletable (Collection.catalogs.identifier n)
  errors : ∃ E, out.report.errors = out₀.report.errors ++ E ∧
    (∀ e ∈ E, ∃ n ∈ done, n ∉ names ∧ ∃ cause, e = .catalogWrite n cause) ∧
    ∀ n ∈ done, n ∉ names → ¬t.Deletable (Collection.catalogs.identifier n) →
      ∃ cause, .catalogWrite n cause ∈ E

variable {log names t out₀} {done : List String} {out : CatalogReport} {t' : MemoryStore} {x : String}

theorem StaleRemoval.start : StaleRemoval names t out₀ [] out₀ t where
  marks := ⟨rfl, rfl⟩
  deleted _ h := absurd h List.not_mem_nil
  kept _ _ := rfl
  catalogs := rfl
  removed _ := by simp
  errors := ⟨[], by simp, by simp, by simp⟩

theorem StaleRemoval.skip (h : StaleRemoval names t out₀ done out t') (hx : x ∈ names) :
    StaleRemoval names t out₀ (done ++ [x]) out t' := by
  -- a name done that was not assembled is not the one just passed over
  have older : ∀ n ∈ done ++ [x], n ∉ names → n ∈ done := fun n hn hn' =>
    (List.mem_append.mp hn).resolve_right fun e => hn' (List.mem_singleton.mp e ▸ hx)
  refine ⟨h.marks, fun n hn hn' => h.deleted n (older n hn hn') hn',
    fun j hj => h.kept j fun n hn => hj n (List.mem_append_left _ hn), h.catalogs, fun n => ?removed, ?errors⟩
  case removed =>
    rw [h.removed n]
    constructor
    · rintro (h' | ⟨hn, h'⟩)
      · exact .inl h'
      · exact .inr ⟨List.mem_append_left _ hn, h'⟩
    · rintro (h' | ⟨hn, hn', hd⟩)
      · exact .inl h'
      · exact .inr ⟨older n hn hn', hn', hd⟩
  case errors =>
    obtain ⟨E, hE, hnames, hfail⟩ := h.errors
    refine ⟨E, hE, fun e he => ?_, fun n hn hn' hd => hfail n (older n hn hn') hn' hd⟩
    obtain ⟨n, hn, rest⟩ := hnames e he
    exact ⟨n, List.mem_append_left _ hn, rest⟩

theorem StaleRemoval.remove (h : StaleRemoval names t out₀ done out t') (hx : x ∉ names)
    (hok : (Repository.delete t' (Collection.catalogs.identifier x)).2 = .ok ()) :
    StaleRemoval names t out₀ (done ++ [x]) { out with staleRemoved := out.staleRemoved ++ [x] }
      (Repository.delete t' (Collection.catalogs.identifier x)).1 := by
  obtain ⟨⟨hf, hu⟩, -⟩ := delete_result_ok_iff.mp hok
  have hd : t.Deletable (Collection.catalogs.identifier x) := ⟨h.marks.1 ▸ hf, h.marks.2 ▸ hu⟩
  have look : ∀ j, (Repository.delete t' (Collection.catalogs.identifier x)).1.lookup j =
      if j = Collection.catalogs.identifier x then none else t'.lookup j := fun j => by
    rw [lookup_delete]
    by_cases hj : j = Collection.catalogs.identifier x <;> simp [hj, hf, hu]
  refine ⟨by simp [h.marks], fun n hn hn' hdn => ?deleted, fun j hj => ?kept, h.catalogs, fun n => ?removed, ?errors⟩
  case deleted =>
    rw [look]
    rcases List.mem_append.mp hn with hn | hn
    · split
      · rfl
      · exact h.deleted n hn hn' hdn
    · rw [List.mem_singleton.mp hn, if_pos rfl]
  case kept =>
    rw [look, if_neg (hj x (List.mem_append_right _ (List.mem_singleton_self x)) hx hd)]
    exact h.kept j fun n hn => hj n (List.mem_append_left _ hn)
  case removed =>
    rw [List.mem_append, h.removed n, List.mem_append, List.mem_singleton]
    by_cases hn : n = x
    · subst hn
      simp [hx, hd]
    · simp [hn]
  case errors =>
    obtain ⟨E, hE, hnames, hfail⟩ := h.errors
    refine ⟨E, hE, fun e he => ?_, fun n hn hn' hdn => ?_⟩
    · obtain ⟨n, hn, rest⟩ := hnames e he
      exact ⟨n, List.mem_append_left _ hn, rest⟩
    · rcases List.mem_append.mp hn with hn | hn
      · exact hfail n hn hn' hdn
      · exact absurd (List.mem_singleton.mp hn ▸ hd) hdn

-- The deletion of a listed catalog that was not assembled, when it is refused: either the
-- catalog is marked, or it was listed before and is gone already.
theorem StaleRemoval.refuse {e : Error} (h : StaleRemoval names t out₀ done out t') (hx : x ∉ names)
    (present : Collection.catalogs.identifier x ∈ t.identifiers)
    (herr : (Repository.delete t' (Collection.catalogs.identifier x)).2 = .error e) :
    StaleRemoval names t out₀ (done ++ [x]) { out with report := out.report.error (.catalogWrite x e) }
      (Repository.delete t' (Collection.catalogs.identifier x)).1 := by
  rw [delete_fst_of_error herr]
  -- a deletion that was not refused by a mark failed for want of the catalog
  have gone : t.Deletable (Collection.catalogs.identifier x) →
      t'.lookup (Collection.catalogs.identifier x) = none := fun hd => by
    rw [lookup_eq_none_iff]
    intro hin
    have hok := delete_result_ok_iff.mpr ⟨⟨h.marks.1 ▸ hd.1, h.marks.2 ▸ hd.2⟩, hin⟩
    rw [herr] at hok
    cases hok
  have before : t.Deletable (Collection.catalogs.identifier x) → x ∈ done := fun hd => by
    by_contra hnot
    have same := h.kept (Collection.catalogs.identifier x) fun n hn _ _ =>
      Collection.identifier_ne_of_not_mem _ hnot n hn
    rw [gone hd, eq_comm, lookup_eq_none_iff] at same
    exact same present
  have done_iff : ∀ n, n ∈ done ++ [x] ∧ n ∉ names ∧ t.Deletable (Collection.catalogs.identifier n) ↔
      n ∈ done ∧ n ∉ names ∧ t.Deletable (Collection.catalogs.identifier n) := fun n => by
    rw [List.mem_append, List.mem_singleton]
    constructor
    · rintro ⟨hn | rfl, hn', hd⟩
      · exact ⟨hn, hn', hd⟩
      · exact ⟨before hd, hn', hd⟩
    · rintro ⟨hn, hn', hd⟩
      exact ⟨.inl hn, hn', hd⟩
  refine ⟨h.marks, fun n hn hn' hdn => h.deleted n ((done_iff n).mp ⟨hn, hn', hdn⟩).1 hn' hdn,
    fun j hj => h.kept j fun n hn => hj n (List.mem_append_left _ hn), h.catalogs,
    fun n => by rw [h.removed n, done_iff n], ?errors⟩
  obtain ⟨E, hE, hnames, hfail⟩ := h.errors
  refine ⟨E ++ [.catalogWrite x e], by simp [Report.error, hE], fun e' he' => ?_, fun n hn hn' hdn => ?_⟩
  · rcases List.mem_append.mp he' with he' | he'
    · obtain ⟨n, hn, rest⟩ := hnames e' he'
      exact ⟨n, List.mem_append_left _ hn, rest⟩
    · exact ⟨x, List.mem_append_right _ (List.mem_singleton_self x), hx, e, List.mem_singleton.mp he'⟩
  · rcases List.mem_append.mp hn with hn | hn
    · obtain ⟨cause, hc⟩ := hfail n hn hn' hdn
      exact ⟨cause, List.mem_append_left _ hc⟩
    · obtain rfl := List.mem_singleton.mp hn
      exact ⟨e, List.mem_append_right _ (List.mem_singleton_self _)⟩

end Stale

theorem removeStale_memory (log : Logger) (names : List String) (out₀ : CatalogReport)
    (w : Session MemoryStore) :
    ∃ out w', (removeStale log names out₀).run.run w = (.ok out, w') ∧
      StaleRemoval names w.store out₀ (w.store.itemlist .catalogs) out w'.store := by
  unfold removeStale
  rw [Work.run_bind, Work.run_attempt]
  refine Work.foldlM_inv _ (fun done out w' => StaleRemoval names w.store out₀ done out w'.store) ?_
    StaleRemoval.start
  intro done x rest out w' hxs hI
  have present : Collection.catalogs.identifier x ∈ w.store.identifiers :=
    (MemoryStore.mem_itemlist.mp (hxs ▸ List.mem_append_right _ List.mem_cons_self)).1
  split
  · rename_i hx
    exact ⟨out, w', rfl, hI.skip (List.contains_iff_mem.mp hx)⟩
  · rename_i hx
    have hx' : x ∉ names := fun hm => hx (List.contains_iff_mem.mpr hm)
    rw [Work.run_bind, Work.run_change]
    dsimp only
    split
    · rename_i hok
      exact ⟨_, _, rfl, hI.remove hx' hok⟩
    · rename_i e herr
      exact ⟨_, _, rfl, hI.refuse hx' present herr⟩

section Writes

open MemoryStore

variable {σ : Type} [Repository σ]

@[simp] theorem writeEncoded_run_ok (id text : String) (w : Session σ) :
    (writeEncoded id (.ok text) : Work σ _).run.run w =
      (.ok (Repository.put w.store id text.toUTF8).2, { w with store := (Repository.put w.store id text.toUTF8).1 }) :=
  rfl

@[simp] theorem writeEncoded_run_error (id : String) (e : Error) (w : Session σ) :
    (writeEncoded id (.error e) : Work σ _).run.run w = (.ok (.error e), w) :=
  rfl

def CatalogOptions.writes (options : CatalogOptions) (t : MemoryStore) (x : String × List Value) : Bool :=
  (encode ("catalog " ++ x.1) (.array x.2) options.format).isOk &&
    !t.failing.contains (Collection.catalogs.identifier x.1)

variable (options : CatalogOptions) (t : MemoryStore) (out₀ : CatalogReport)

structure CatalogWriting (done : List (String × List Value)) (out : CatalogReport) (t' : MemoryStore) : Prop where
  marks : t'.failing = t.failing ∧ t'.undeletable = t.undeletable
  written : ∀ x ∈ done, ∀ text, encode ("catalog " ++ x.1) (.array x.2) options.format = .ok text →
    Collection.catalogs.identifier x.1 ∉ t.failing →
      t'.lookup (Collection.catalogs.identifier x.1) = some text.toUTF8
  kept : ∀ j, (∀ x ∈ done, options.writes t x = true → j ≠ Collection.catalogs.identifier x.1) →
    t'.lookup j = t.lookup j
  catalogs : out.catalogs = out₀.catalogs ++ (done.filter (options.writes t)).map fun x => (x.1, x.2.length)
  staleRemoved : out.staleRemoved = out₀.staleRemoved
  errors : ∃ E, out.report.errors = out₀.report.errors ++ E ∧
    (∀ c, E.countP (·.isCatalogWriteOf c) = done.countP fun x => x.1 == c && !options.writes t x) ∧
    ∀ e ∈ E, e.isCatalogWrite = true

variable {options t out₀} {done : List (String × List Value)} {out : CatalogReport} {t' : MemoryStore}
  {c : String} {es : List Value}

theorem CatalogWriting.start : CatalogWriting options t out₀ [] out₀ t where
  marks := ⟨rfl, rfl⟩
  written _ h := absurd h List.not_mem_nil
  kept _ _ := rfl
  catalogs := by simp
  staleRemoved := rfl
  errors := ⟨[], by simp, by simp, by simp⟩

theorem CatalogWriting.store {text : String} (h : CatalogWriting options t out₀ done out t')
    (hnew : c ∉ done.map Prod.fst) (henc : encode ("catalog " ++ c) (.array es) options.format = .ok text)
    (hf : Collection.catalogs.identifier c ∉ t'.failing) :
    CatalogWriting options t out₀ (done ++ [(c, es)]) { out with catalogs := out.catalogs ++ [(c, es.length)] }
      (Repository.put t' (Collection.catalogs.identifier c) text.toUTF8).1 := by
  have hw : options.writes t (c, es) = true := by
    simp [CatalogOptions.writes, henc, Except.toBool, ← h.marks.1, hf]
  have look : ∀ j, (Repository.put t' (Collection.catalogs.identifier c) text.toUTF8).1.lookup j =
      if j = Collection.catalogs.identifier c then some text.toUTF8 else t'.lookup j := fun j => by
    rw [lookup_put]
    by_cases hj : j = Collection.catalogs.identifier c <;> simp [hj, hf]
  -- a catalog written before has another name, so another identifier
  have other : ∀ x ∈ done, Collection.catalogs.identifier x.1 ≠ Collection.catalogs.identifier c :=
    fun x hx he => hnew (Collection.identifier_injective _ he ▸ List.mem_map_of_mem hx)
  refine ⟨by simp [h.marks], fun x hx text' henc' hf' => ?written, fun j hj => ?kept, ?catalogs,
    h.staleRemoved, ?errors⟩
  case written =>
    rw [look]
    rcases List.mem_append.mp hx with hx | hx
    · rw [if_neg (other x hx)]
      exact h.written x hx text' henc' hf'
    · obtain rfl := List.mem_singleton.mp hx
      rw [henc] at henc'
      rw [if_pos rfl, Except.ok.inj henc']
  case kept =>
    rw [look, if_neg (hj (c, es) (List.mem_append_right _ (List.mem_singleton_self _)) hw)]
    exact h.kept j fun x hx => hj x (List.mem_append_left _ hx)
  case catalogs =>
    simp [h.catalogs, List.filter_append, hw]
  case errors =>
    obtain ⟨E, hE, hcount, hall⟩ := h.errors
    exact ⟨E, hE, fun c' => by simp [hcount c', List.countP_append, hw], hall⟩

theorem CatalogWriting.fail (h : CatalogWriting options t out₀ done out t')
    (hw : options.writes t (c, es) = false) (e : Error) :
    CatalogWriting options t out₀ (done ++ [(c, es)]) { out with report := out.report.error (.catalogWrite c e) } t' := by
  refine ⟨h.marks, fun x hx text henc hf => ?written, fun j hj => h.kept j fun x hx => hj x (List.mem_append_left _ hx),
    by simp [h.catalogs, List.filter_append, hw], h.staleRemoved, ?errors⟩
  case written =>
    rcases List.mem_append.mp hx with hx | hx
    · exact h.written x hx text henc hf
    · obtain rfl := List.mem_singleton.mp hx
      simp [CatalogOptions.writes, henc, Except.toBool, hf] at hw
  case errors =>
    obtain ⟨E, hE, hcount, hall⟩ := h.errors
    refine ⟨E ++ [.catalogWrite c e], by simp [Report.error, hE], fun c' => ?_, fun e' he' => ?_⟩
    · rw [List.countP_append, hcount c', List.countP_append]
      simp [hw, Error.isCatalogWriteOf]
    · rcases List.mem_append.mp he' with he' | he'
      · exact hall e' he'
      · rw [List.mem_singleton.mp he']
        rfl

end Writes

theorem writeCatalogs_memory (options : CatalogOptions) (log : Logger) (A : List (String × List Value))
    (hA : (A.map Prod.fst).Nodup) (out₀ : CatalogReport) (w : Session MemoryStore) :
    ∃ out w', (writeCatalogs options log A out₀).run.run w = (.ok out, w') ∧
      CatalogWriting options w.store out₀ A out w'.store := by
  unfold writeCatalogs
  refine Work.foldlM_inv _ (fun done out w' => CatalogWriting options w.store out₀ done out w'.store) ?_
    CatalogWriting.start
  intro done x rest out w' hxs hI
  obtain ⟨c, es⟩ := x
  have hnew : c ∉ done.map Prod.fst := by
    rw [← hxs, List.map_append, List.nodup_append] at hA
    exact fun hc => hA.2.2 _ hc _ List.mem_cons_self rfl
  rw [Work.run_bind]
  rcases henc : encode ("catalog " ++ c) (.array es) options.format with e | text
  · have hw : options.writes w.store (c, es) = false := by simp [CatalogOptions.writes, henc, Except.toBool]
    rw [writeEncoded_run_error]
    exact ⟨_, _, rfl, hI.fail hw e⟩
  · rw [writeEncoded_run_ok]
    by_cases hf : Collection.catalogs.identifier c ∈ w'.store.failing
    · have hw : options.writes w.store (c, es) = false := by
        simp [CatalogOptions.writes, ← hI.marks.1, hf]
      rw [MemoryStore.repository_put_of_mem hf]
      exact ⟨_, _, rfl, hI.fail hw _⟩
    · rw [MemoryStore.repository_put_of_not_mem hf]
      have stored := hI.store hnew henc hf
      rw [MemoryStore.repository_put_of_not_mem hf] at stored
      exact ⟨_, _, rfl, stored⟩

theorem loadAll_memory (s : MemoryStore) : loadAll s = .ok s.loadedRecords := rfl

theorem removeStale_of_run {log : Logger} {names : List String} {out₀ : CatalogReport}
    {w w' : Session MemoryStore} {r : Except Error CatalogReport}
    (h : (removeStale log names out₀).run.run w = (r, w')) :
    ∃ out, r = .ok out ∧ StaleRemoval names w.store out₀ (w.store.itemlist .catalogs) out w'.store := by
  obtain ⟨out, w'', hrun, hS⟩ := removeStale_memory log names out₀ w
  rw [hrun] at h
  cases h
  exact ⟨out, rfl, hS⟩

theorem writeCatalogs_of_run {options : CatalogOptions} {log : Logger} {A : List (String × List Value)}
    (hA : (A.map Prod.fst).Nodup) {out₀ : CatalogReport} {w w' : Session MemoryStore} {r : Except Error CatalogReport}
    (h : (writeCatalogs options log A out₀).run.run w = (r, w')) :
    ∃ out, r = .ok out ∧ CatalogWriting options w.store out₀ A out w'.store := by
  obtain ⟨out, w'', hrun, hW⟩ := writeCatalogs_memory options log A hA out₀ w
  rw [hrun] at h
  cases h
  exact ⟨out, rfl, hW⟩

theorem writeEncoded_of_run {id : String} {encoded : Except Error String} {w w' : Session MemoryStore}
    {r : Except Error (Except Error Unit)} (h : (writeEncoded id encoded).run.run w = (r, w')) :
    (∃ text, encoded = .ok text ∧ id ∉ w.store.failing ∧ r = .ok (.ok ()) ∧
      w' = { w with store := (Repository.put w.store id text.toUTF8).1 }) ∨
    (∃ text, encoded = .ok text ∧ id ∈ w.store.failing ∧ r = .ok (.error (MemoryStore.refusal id)) ∧ w' = w) ∨
    (∃ e, encoded = .error e ∧ r = .ok (.error e) ∧ w' = w) := by
  cases encoded with
  | error e =>
    rw [writeEncoded_run_error] at h
    cases h
    exact .inr (.inr ⟨e, rfl, rfl, rfl⟩)
  | ok text =>
    rw [writeEncoded_run_ok] at h
    by_cases hf : id ∈ w.store.failing
    · rw [MemoryStore.repository_put_of_mem hf] at h
      cases h
      exact .inr (.inl ⟨text, rfl, hf, rfl, rfl⟩)
    · have hr : (Repository.put w.store id text.toUTF8).2 = .ok () := by
        rw [MemoryStore.repository_put_of_not_mem hf]
      rw [hr] at h
      cases h
      exact .inl ⟨text, rfl, hf, rfl, rfl⟩

theorem encode_error {what : String} {v : Value} {format : Format} {e : Error}
    (h : encode what v format = .error e) : e = .serialization what := by
  unfold encode at h
  split at h <;> split at h <;> cases h <;> rfl

section Index

open MemoryStore

variable (H : List (String × String)) (t : MemoryStore) (out : CatalogReport)

structure IndexWriting (t' : MemoryStore) (out' : CatalogReport) : Prop where
  marks : t'.failing = t.failing ∧ t'.undeletable = t.undeletable
  written : H ≠ [] → ∀ text, encode "icon hashes" (.dict (H.map fun x => (x.1, .string x.2))) .plist = .ok text →
    Collection.icons.identifier iconHashesName ∉ t.failing →
      t'.lookup (Collection.icons.identifier iconHashesName) = some text.toUTF8
  refused : H ≠ [] → (encode "icon hashes" (.dict (H.map fun x => (x.1, .string x.2))) .plist).isOk = false ∨
      Collection.icons.identifier iconHashesName ∈ t.failing →
    t'.lookup (Collection.icons.identifier iconHashesName) = t.lookup (Collection.icons.identifier iconHashesName) ∧
      (Error.serialization "icon hashes" ∈ out'.report.errors ∨
        refusal (Collection.icons.identifier iconHashesName) ∈ out'.report.errors)
  skipped : H = [] →
    t'.lookup (Collection.icons.identifier iconHashesName) = t.lookup (Collection.icons.identifier iconHashesName)
  kept : ∀ j, j ≠ Collection.icons.identifier iconHashesName → t'.lookup j = t.lookup j
  catalogs : out'.catalogs = out.catalogs
  staleRemoved : out'.staleRemoved = out.staleRemoved
  counted : out'.iconsHashed = H.length
  errors : ∃ E, out'.report.errors = out.report.errors ++ E ∧ ∀ e ∈ E, ∀ c, e.isCatalogWriteOf c = false

variable {H t out} {text : String}

theorem IndexWriting.none (h : H.isEmpty = true) : IndexWriting H t out t { out with iconsHashed := H.length } where
  marks := ⟨rfl, rfl⟩
  written hne := absurd (List.isEmpty_iff.mp h) hne
  refused hne := absurd (List.isEmpty_iff.mp h) hne
  skipped _ := rfl
  kept _ _ := rfl
  catalogs := rfl
  staleRemoved := rfl
  counted := rfl
  errors := ⟨[], by simp, by simp⟩

theorem IndexWriting.stored (h : H.isEmpty = false)
    (henc : encode "icon hashes" (.dict (H.map fun x => (x.1, .string x.2))) .plist = .ok text)
    (hf : Collection.icons.identifier iconHashesName ∉ t.failing) :
    IndexWriting H t out (Repository.put t (Collection.icons.identifier iconHashesName) text.toUTF8).1
      { out with iconsHashed := H.length } where
  marks := by simp
  written _ text' henc' _ := by
    rw [henc] at henc'
    rw [lookup_put, if_pos ⟨rfl, hf⟩, Except.ok.inj henc']
  refused _ h := by
    rcases h with h | h
    · simp [henc, Except.toBool] at h
    · exact absurd h hf
  skipped hnil := by simp [hnil] at h
  kept j hj := by rw [lookup_put, if_neg fun h' => hj h'.1]
  catalogs := rfl
  staleRemoved := rfl
  counted := rfl
  errors := ⟨[], by simp, by simp⟩

theorem IndexWriting.unencoded {e : Error}
    (henc : encode "icon hashes" (.dict (H.map fun x => (x.1, .string x.2))) .plist = .error e) :
    IndexWriting H t out t { out with report := out.report.error e, iconsHashed := H.length } where
  marks := ⟨rfl, rfl⟩
  written _ text' henc' := by simp [henc] at henc'
  refused _ _ := ⟨rfl, .inl (by simp [Report.error, encode_error henc])⟩
  skipped _ := rfl
  kept _ _ := rfl
  catalogs := rfl
  staleRemoved := rfl
  counted := rfl
  errors := ⟨[e], rfl, by simp [encode_error henc, Error.isCatalogWriteOf]⟩

theorem IndexWriting.refusedPut (hf : Collection.icons.identifier iconHashesName ∈ t.failing) :
    IndexWriting H t out t { out with
      report := out.report.error (refusal (Collection.icons.identifier iconHashesName))
      iconsHashed := H.length } where
  marks := ⟨rfl, rfl⟩
  written _ _ _ hf' := absurd hf hf'
  refused _ _ := ⟨rfl, .inr (by simp [Report.error])⟩
  skipped _ := rfl
  kept _ _ := rfl
  catalogs := rfl
  staleRemoved := rfl
  counted := rfl
  errors := ⟨[_], rfl, by simp [refusal, Error.isCatalogWriteOf]⟩

end Index

theorem countP_key {β : Type} {A : List (String × β)} {c : String} {v : β} (hA : (A.map Prod.fst).Nodup)
    (hmem : (c, v) ∈ A) (q : String × β → Bool) :
    A.countP (fun x => x.1 == c && q x) = if q (c, v) then 1 else 0 := by
  induction A with
  | nil => exact absurd hmem List.not_mem_nil
  | cons y rest ih =>
    rw [List.map_cons, List.nodup_cons] at hA
    rw [List.countP_cons]
    rcases List.mem_cons.mp hmem with rfl | hmem
    · have none : rest.countP (fun x => x.1 == c && q x) = 0 :=
        List.countP_eq_zero.mpr fun x hx hq =>
          hA.1 (List.mem_map.mpr ⟨x, hx, beq_iff_eq.mp (Bool.and_eq_true_iff.mp hq).1⟩)
      simp [none]
    · have hk : y.1 ≠ c := fun e => hA.1 (e ▸ List.mem_map_of_mem (f := Prod.fst) hmem)
      simp [ih hA.2 hmem, hk]

section Settled

open MemoryStore

variable (options : CatalogOptions) (log : Logger) (s : MemoryStore)

structure CatalogsRebuilt (out : CatalogReport) (s' : MemoryStore) : Prop where
  marks : s'.failing = s.failing ∧ s'.undeletable = s.undeletable
  written : ∀ c entries text, (c, entries) ∈ (s.assembly options log).catalogs →
    encode ("catalog " ++ c) (.array entries) options.format = .ok text →
    Collection.catalogs.identifier c ∉ s.failing →
      s'.lookup (Collection.catalogs.identifier c) = some text.toUTF8 ∧ (c, entries.length) ∈ out.catalogs ∧
        out.report.errors.countP (·.isCatalogWriteOf c) = 0
  refused : ∀ c entries, (c, entries) ∈ (s.assembly options log).catalogs →
    (encode ("catalog " ++ c) (.array entries) options.format).isOk = false ∨
      Collection.catalogs.identifier c ∈ s.failing →
      s'.lookup (Collection.catalogs.identifier c) = s.lookup (Collection.catalogs.identifier c) ∧
        c ∉ out.catalogs.map Prod.fst ∧ out.report.errors.countP (·.isCatalogWriteOf c) = 1
  removed : ∀ n ∈ s.itemlist .catalogs, n ∉ (s.assembly options log).catalogs.map Prod.fst →
    s.Deletable (Collection.catalogs.identifier n) →
      s'.lookup (Collection.catalogs.identifier n) = none ∧ n ∈ out.staleRemoved
  kept : ∀ n ∈ s.itemlist .catalogs, n ∉ (s.assembly options log).catalogs.map Prod.fst →
    ¬s.Deletable (Collection.catalogs.identifier n) →
      s'.lookup (Collection.catalogs.identifier n) = s.lookup (Collection.catalogs.identifier n) ∧
        n ∉ out.staleRemoved ∧ ∃ e, .catalogWrite n e ∈ out.report.errors
  onlyStale : ∀ n ∈ out.staleRemoved, n ∈ s.itemlist .catalogs ∧
    n ∉ (s.assembly options log).catalogs.map Prod.fst ∧ s.Deletable (Collection.catalogs.identifier n)
  indexed : s.iconDigests ≠ [] → ∀ text,
    encode "icon hashes" (.dict (s.iconDigests.map fun x => (x.1, .string x.2))) .plist = .ok text →
    Collection.icons.identifier iconHashesName ∉ s.failing →
      s'.lookup (Collection.icons.identifier iconHashesName) = some text.toUTF8
  indexRefused : s.iconDigests ≠ [] →
    (encode "icon hashes" (.dict (s.iconDigests.map fun x => (x.1, .string x.2))) .plist).isOk = false ∨
      Collection.icons.identifier iconHashesName ∈ s.failing →
    s'.lookup (Collection.icons.identifier iconHashesName) = s.lookup (Collection.icons.identifier iconHashesName) ∧
      (Error.serialization "icon hashes" ∈ out.report.errors ∨
        refusal (Collection.icons.identifier iconHashesName) ∈ out.report.errors)
  unindexed : s.iconDigests = [] →
    s'.lookup (Collection.icons.identifier iconHashesName) = s.lookup (Collection.icons.identifier iconHashesName)
  counted : out.iconsHashed = s.iconDigests.length
  unchanged : ∀ j, (∀ c ∈ (s.assembly options log).catalogs.map Prod.fst, j ≠ Collection.catalogs.identifier c) →
    (∀ n ∈ s.itemlist .catalogs, j ≠ Collection.catalogs.identifier n) →
    j ≠ Collection.icons.identifier iconHashesName → s'.lookup j = s.lookup j

variable {options log s}

theorem CatalogsRebuilt.of_phases {t₁ t₂ t₃ : MemoryStore} {out₀ out₁ out₂ out₃ : CatalogReport}
    (hS : StaleRemoval ((s.assembly options log).catalogs.map Prod.fst) s out₀ (s.itemlist .catalogs) out₁ t₁)
    (hW : CatalogWriting options t₁ out₁ (s.assembly options log).catalogs out₂ t₂)
    (hI : IndexWriting s.iconDigests t₂ out₂ t₃ out₃)
    (h₀ : out₀.catalogs = [] ∧ out₀.staleRemoved = [] ∧
      out₀.report.errors = (s.assembly options log).report.errors) :
    CatalogsRebuilt options log s out₃ t₃ := by
  have hA : ((s.assembly options log).catalogs.map Prod.fst).Nodup := nodup_assembly
  have fail₁ : t₁.failing = s.failing := hS.marks.1
  have fail₂ : t₂.failing = s.failing := hW.marks.1.trans fail₁
  -- what writing the catalogs did not write is as removing the stale ones left it
  have frame₂ : ∀ j, (∀ c ∈ (s.assembly options log).catalogs.map Prod.fst, j ≠ Collection.catalogs.identifier c) →
      t₂.lookup j = t₁.lookup j := fun j hj =>
    hW.kept j fun x hx _ => hj x.1 (List.mem_map_of_mem hx)
  -- an assembled catalog is never stale
  have unstale : ∀ c ∈ (s.assembly options log).catalogs.map Prod.fst,
      t₁.lookup (Collection.catalogs.identifier c) = s.lookup (Collection.catalogs.identifier c) := fun c hc =>
    hS.kept _ fun n _ hn _ he => hn (Collection.identifier_injective _ he ▸ hc)
  have index₂ : t₂.lookup (Collection.icons.identifier iconHashesName) =
      s.lookup (Collection.icons.identifier iconHashesName) := by
    rw [frame₂ _ fun c _ => Collection.icons_identifier_ne_catalogs _ c,
      hS.kept _ fun n _ _ _ => Collection.icons_identifier_ne_catalogs _ n]
  have assembled₃ : ∀ c, t₃.lookup (Collection.catalogs.identifier c) = t₂.lookup (Collection.catalogs.identifier c) :=
    fun c => hI.kept _ (Collection.icons_identifier_ne_catalogs _ c).symm
  -- the errors of the report, phase by phase, and the failures to write each catalog
  obtain ⟨E₁, hE₁, hE₁names, hE₁fail⟩ := hS.errors
  obtain ⟨E₂, hE₂, hE₂count, -⟩ := hW.errors
  obtain ⟨E₃, hE₃, hE₃none⟩ := hI.errors
  have errors : out₃.report.errors = (s.assembly options log).report.errors ++ E₁ ++ E₂ ++ E₃ := by
    rw [hE₃, hE₂, hE₁, h₀.2.2]
  have count : ∀ c ∈ (s.assembly options log).catalogs.map Prod.fst,
      out₃.report.errors.countP (·.isCatalogWriteOf c) =
        (s.assembly options log).catalogs.countP fun x => x.1 == c && !options.writes t₁ x := by
    intro c hc
    have none₀ : (s.assembly options log).report.errors.countP (·.isCatalogWriteOf c) = 0 :=
      List.countP_eq_zero.mpr fun e he h => by simp [assembly_errors_isCatalogWriteOf e he] at h
    have none₁ : E₁.countP (·.isCatalogWriteOf c) = 0 := List.countP_eq_zero.mpr fun e he h => by
      obtain ⟨n, -, hn, cause, rfl⟩ := hE₁names e he
      simp only [Error.isCatalogWriteOf, beq_iff_eq] at h
      exact hn (h ▸ hc)
    have none₃ : E₃.countP (·.isCatalogWriteOf c) = 0 :=
      List.countP_eq_zero.mpr fun e he h => by simp [hE₃none e he c] at h
    rw [errors, List.countP_append, List.countP_append, List.countP_append, none₀, none₁, hE₂count c, none₃]
    simp
  have catalogs : out₃.catalogs =
      ((s.assembly options log).catalogs.filter (options.writes t₁)).map fun x => (x.1, x.2.length) := by
    rw [hI.catalogs, hW.catalogs, hS.catalogs, h₀.1, List.nil_append]
  have removed : ∀ n, n ∈ out₃.staleRemoved ↔ n ∈ s.itemlist .catalogs ∧
      n ∉ (s.assembly options log).catalogs.map Prod.fst ∧ s.Deletable (Collection.catalogs.identifier n) := by
    intro n
    rw [hI.staleRemoved, hW.staleRemoved, hS.removed n, h₀.2.1]
    simp
  -- the one entry of an assembled catalog
  have entry : ∀ {c entries x}, (c, entries) ∈ (s.assembly options log).catalogs →
      x ∈ (s.assembly options log).catalogs → x.1 = c → x = (c, entries) := fun hmem hx hk =>
    List.inj_on_of_nodup_map hA hx hmem hk
  refine ⟨⟨by rw [hI.marks.1, fail₂], by rw [hI.marks.2, hW.marks.2, hS.marks.2]⟩,
    fun c entries text hmem henc hf => ?written, fun c entries hmem hno => ?refused,
    fun n hn hnn hd => ?removed, fun n hn hnn hnd => ?kept, fun n hn => (removed n).mp hn,
    fun hne text henc hf => hI.written hne text henc (fail₂ ▸ hf), fun hne hno => ?indexRefused,
    fun hnil => (hI.skipped hnil).trans index₂, hI.counted, fun j h₁ h₂ h₃ => ?unchanged⟩
  case written =>
    have hc := List.mem_map_of_mem (f := Prod.fst) hmem
    have hw : options.writes t₁ (c, entries) = true := by
      simp [CatalogOptions.writes, henc, Except.toBool, fail₁, hf]
    refine ⟨?_, ?_, ?_⟩
    · rw [assembled₃]
      exact hW.written _ hmem text henc (fail₁ ▸ hf)
    · rw [catalogs]
      exact List.mem_map.mpr ⟨(c, entries), List.mem_filter.mpr ⟨hmem, hw⟩, rfl⟩
    · rw [count c hc, countP_key hA hmem]
      simp [hw]
  case refused =>
    have hc := List.mem_map_of_mem (f := Prod.fst) hmem
    have hw : options.writes t₁ (c, entries) = false := by
      rcases hno with hno | hno
      · simp [CatalogOptions.writes, hno]
      · simp [CatalogOptions.writes, fail₁, hno]
    refine ⟨?_, ?_, ?_⟩
    · rw [assembled₃, hW.kept _ fun x hx hwx he => ?_, unstale c hc]
      rw [entry hmem hx (Collection.identifier_injective _ he).symm, hw] at hwx
      cases hwx
    · rw [catalogs]
      simp only [List.map_map, List.mem_map, List.mem_filter, Function.comp_def, not_exists, not_and]
      rintro x ⟨hx, hwx⟩ hk
      rw [entry hmem hx hk, hw] at hwx
      cases hwx
    · rw [count c hc, countP_key hA hmem]
      simp [hw]
  case removed =>
    refine ⟨?_, (removed n).mpr ⟨hn, hnn, hd⟩⟩
    rw [assembled₃, frame₂ _ (Collection.identifier_ne_of_not_mem _ hnn)]
    exact hS.deleted n hn hnn hd
  case kept =>
    refine ⟨?_, fun hr => hnd ((removed n).mp hr).2.2, ?_⟩
    · rw [assembled₃, frame₂ _ (Collection.identifier_ne_of_not_mem _ hnn)]
      exact hS.kept _ fun m _ _ hdm he => hnd (Collection.identifier_injective _ he ▸ hdm)
    · obtain ⟨cause, hcause⟩ := hE₁fail n hn hnn hnd
      exact ⟨cause, errors ▸ List.mem_append_left _ (List.mem_append_left _ (List.mem_append_right _ hcause))⟩
  case indexRefused =>
    obtain ⟨same, err⟩ := hI.refused hne (fail₂ ▸ hno)
    exact ⟨same.trans index₂, err⟩
  case unchanged =>
    rw [hI.kept j h₃, frame₂ j h₁]
    exact hS.kept j fun n hn _ _ => h₂ n hn

theorem makeCatalogs_memory (options : CatalogOptions) (log : Logger) (w : Session MemoryStore) :
    ∃ out w', (makeCatalogs options log).run.run w = (.ok out, w') ∧
      CatalogsRebuilt options log w.store out w'.store := by
  unfold makeCatalogs
  simp only [Work.run_bind, Work.run_say, Work.run_read, Work.run_get]
  rw [show Repository.itemlist w.store Collection.icons = .ok (w.store.itemlist .icons) from rfl]
  dsimp only
  -- both ways of indexing the package collection index the paths of `itemPaths`
  split
  on_goal 1 =>
    rename_i hskip
    have hp : ({} : PkgIndex) = PkgIndex.ofList (w.store.itemPaths options) := by
      rw [MemoryStore.itemPaths, if_pos hskip]
      rfl
    simp only [Work.run_bind, Work.run_pure, Work.run_say, Work.run_read, loadAll_memory, hp]
  on_goal 2 =>
    rename_i hskip
    have hp : PkgIndex.ofList (w.store.itemlist .pkgs) = PkgIndex.ofList (w.store.itemPaths options) := by
      rw [MemoryStore.itemPaths, if_neg hskip]
    simp only [Work.run_bind, Work.run_pure, Work.run_say, Work.run_read, loadAll_memory]
    rw [show Repository.itemlist w.store Collection.pkgs = .ok (w.store.itemlist .pkgs) from rfl]
    dsimp only
    rw [hp]
  all_goals
    have nodup := @nodup_assembly w.store options log
    split
    · rename_i o₁ w₂ heq₁
      obtain ⟨out₁, ho₁, hS⟩ := removeStale_of_run heq₁
      cases ho₁
      split
      · rename_i o₂ w₃ heq₂
        obtain ⟨out₂, ho₂, hW⟩ := writeCatalogs_of_run nodup heq₂
        cases ho₂
        -- whatever becomes of the digest index, the three phases make a build
        have finish : ∀ {t₃ out₃}, IndexWriting w.store.iconDigests _ _ t₃ out₃ →
            CatalogsRebuilt options log w.store out₃ t₃ := fun hI =>
          CatalogsRebuilt.of_phases hS hW hI ⟨rfl, rfl, by split <;> rfl⟩
        split
        · rename_i hnil
          simp only [Work.run_bind, Work.run_pure]
          exact ⟨_, _, rfl, finish (IndexWriting.none hnil)⟩
        · rename_i hne
          rw [Work.run_bind]
          split
          · rename_i r w₄ heq₃
            rcases writeEncoded_of_run heq₃ with ⟨text, henc, hf, hr, rfl⟩ | ⟨text, henc, hf, hr, rfl⟩ |
              ⟨e, henc, hr, rfl⟩ <;> cases hr
            · simp only [Work.run_bind, Work.run_say, Work.run_pure]
              exact ⟨_, _, rfl, finish (IndexWriting.stored (Bool.eq_false_iff.mpr hne) henc hf)⟩
            · simp only [Work.run_bind, Work.run_pure]
              exact ⟨_, _, rfl, finish (IndexWriting.refusedPut hf)⟩
            · simp only [Work.run_bind, Work.run_pure]
              exact ⟨_, _, rfl, finish (IndexWriting.unencoded henc)⟩
          · rename_i e w₄ heq₃
            rcases writeEncoded_of_run heq₃ with ⟨_, _, _, h, _⟩ | ⟨_, _, _, h, _⟩ | ⟨_, _, h, _⟩ <;> cases h
      · rename_i e w₃ heq₂
        obtain ⟨_, h, _⟩ := writeCatalogs_of_run nodup heq₂
        cases h
    · rename_i e w₂ heq₁
      obtain ⟨_, h, _⟩ := removeStale_of_run heq₁
      cases h

end Settled

section Inputs

open MemoryStore

variable {s t : MemoryStore} {options : CatalogOptions} {log : Logger}

theorem itemlist_eq_of_buildInputs {c : Collection} (hc : c = .pkgsinfo ∨ c = .pkgs)
    (h : t.buildInputs = s.buildInputs) : t.itemlist c = s.itemlist c := by
  rw [← itemlist_buildInputs (s := t) hc, ← itemlist_buildInputs (s := s) hc, h]
  rfl

theorem iconsToHash_eq_of_buildInputs (h : t.buildInputs = s.buildInputs) : t.iconsToHash = s.iconsToHash := by
  unfold MemoryStore.iconsToHash
  rw [← filter_itemlist_buildInputs (s := t), ← filter_itemlist_buildInputs (s := s), h]
  rfl

theorem hashIcons_eq_of_buildInputs (h : t.buildInputs = s.buildInputs) (hf : t.failing = s.failing) :
    hashIcons t t.iconsToHash {} = hashIcons s s.iconsToHash {} := by
  rw [iconsToHash_eq_of_buildInputs h]
  unfold hashIcons
  refine List.foldl_ext _ _ _ fun _ icon hicon => ?_
  -- an icon that is hashed is not the digest index, so no build writes it
  have hname : icon ≠ iconHashesName := by
    have := (List.mem_filter.mp hicon).2
    simpa using this
  have hget : Repository.get t (Collection.icons.identifier icon) =
      Repository.get s (Collection.icons.identifier icon) :=
    get_eq_of_buildInputs h hf fun ho => hname (isCatalogOutput_icon.mp ho)
  rw [hget]

theorem loadedRecords_eq_of_buildInputs (h : t.buildInputs = s.buildInputs) (hf : t.failing = s.failing) :
    t.loadedRecords = s.loadedRecords := by
  unfold MemoryStore.loadedRecords
  rw [itemlist_eq_of_buildInputs (.inl rfl) h, List.map_inj_left]
  intro id hid
  obtain ⟨x, -, rfl⟩ := List.mem_map.mp hid
  have hget : Repository.get t (Collection.pkgsinfo.identifier x) =
      Repository.get s (Collection.pkgsinfo.identifier x) :=
    get_eq_of_buildInputs h hf (Collection.not_isCatalogOutput (.inl rfl) x)
  unfold loadRecord
  rw [hget]

theorem assembly_eq_of_buildInputs (h : t.buildInputs = s.buildInputs) (hf : t.failing = s.failing) :
    t.assembly options log = s.assembly options log ∧ t.iconDigests = s.iconDigests := by
  have paths : t.itemPaths options = s.itemPaths options := by
    unfold MemoryStore.itemPaths
    rw [itemlist_eq_of_buildInputs (.inr rfl) h]
  constructor
  · unfold MemoryStore.assembly
    rw [paths, loadedRecords_eq_of_buildInputs h hf, hashIcons_eq_of_buildInputs h hf]
  · unfold MemoryStore.iconDigests
    rw [hashIcons_eq_of_buildInputs h hf]

end Inputs

section Settles

open MemoryStore

variable {options : CatalogOptions} {log : Logger} {s s₁ s₂ : MemoryStore} {out₁ out₂ : CatalogReport}

theorem CatalogsRebuilt.stale_undeletable (R : CatalogsRebuilt options log s out₁ s₁) {n : String}
    (hn : n ∈ s₁.itemlist .catalogs) (hnn : n ∉ (s.assembly options log).catalogs.map Prod.fst) :
    ¬s₁.Deletable (Collection.catalogs.identifier n) := by
  intro hd
  have hd₀ : s.Deletable (Collection.catalogs.identifier n) := ⟨R.marks.1 ▸ hd.1, R.marks.2 ▸ hd.2⟩
  obtain ⟨there, visible⟩ := mem_itemlist.mp hn
  -- it is still there, so it was not listed before the build, which then left it alone
  have unlisted : n ∉ s.itemlist .catalogs := fun hl => by
    have gone := (R.removed n hl hnn hd₀).1
    rw [lookup_eq_none_iff] at gone
    exact gone there
  have same := R.unchanged (Collection.catalogs.identifier n) (Collection.identifier_ne_of_not_mem _ hnn)
    (Collection.identifier_ne_of_not_mem _ unlisted) (Collection.icons_identifier_ne_catalogs _ n).symm
  have before : Collection.catalogs.identifier n ∈ s.identifiers := by
    by_contra hnot
    rw [← lookup_eq_none_iff, ← same, lookup_eq_none_iff] at hnot
    exact hnot there
  exact unlisted (mem_itemlist.mpr ⟨before, visible⟩)

-- A build on the store a build left, from the same catalogs and digests, leaves every
-- resource as it found it.
theorem CatalogsRebuilt.lookup_rebuilt (R₁ : CatalogsRebuilt options log s out₁ s₁)
    (R₂ : CatalogsRebuilt options log s₁ out₂ s₂) (hA : s₁.assembly options log = s.assembly options log)
    (hD : s₁.iconDigests = s.iconDigests) (id : String) : s₂.lookup id = s₁.lookup id := by
  have fail : s₁.failing = s.failing := R₁.marks.1
  by_cases hc : ∃ c ∈ (s.assembly options log).catalogs.map Prod.fst, id = Collection.catalogs.identifier c
  · -- an assembled catalog: written the same both times, or refused both times
    obtain ⟨c, hc, rfl⟩ := hc
    obtain ⟨⟨c, entries⟩, hmem, rfl⟩ := List.mem_map.mp hc
    have hmem₁ : (c, entries) ∈ (s₁.assembly options log).catalogs := by
      rw [hA]
      exact hmem
    rcases henc : encode ("catalog " ++ c) (.array entries) options.format with e | text
    · exact (R₂.refused c entries hmem₁ (.inl (by simp [henc, Except.toBool]))).1
    · by_cases hf : Collection.catalogs.identifier c ∈ s.failing
      · exact (R₂.refused c entries hmem₁ (.inr (fail ▸ hf))).1
      · rw [(R₂.written c entries text hmem₁ henc (fail ▸ hf)).1, (R₁.written c entries text hmem henc hf).1]
  by_cases hn : ∃ n ∈ s₁.itemlist .catalogs, id = Collection.catalogs.identifier n
  · -- a stale catalog: the first build could not delete it, nor can the second
    obtain ⟨n, hn, rfl⟩ := hn
    have hnn : n ∉ (s.assembly options log).catalogs.map Prod.fst := fun h => hc ⟨n, h, rfl⟩
    exact (R₂.kept n hn (hA ▸ hnn) (R₁.stale_undeletable hn hnn)).1
  by_cases hi : id = Collection.icons.identifier iconHashesName
  · -- the digest index: the same digests, written the same both times or refused both times
    subst hi
    by_cases hnil : s.iconDigests = []
    · exact R₂.unindexed (hD ▸ hnil)
    rcases henc : encode "icon hashes" (.dict (s.iconDigests.map fun x => (x.1, .string x.2))) .plist with e | text
    · exact (R₂.indexRefused (hD ▸ hnil) (.inl (by simp [hD, henc, Except.toBool]))).1
    · by_cases hf : Collection.icons.identifier iconHashesName ∈ s.failing
      · exact (R₂.indexRefused (hD ▸ hnil) (.inr (fail ▸ hf))).1
      · rw [R₂.indexed (hD ▸ hnil) text (hD ▸ henc) (fail ▸ hf), R₁.indexed hnil text henc hf]
  · exact R₂.unchanged id (fun c hc' he => hc ⟨c, hA ▸ hc', he⟩) (fun n hn' he => hn ⟨n, hn', he⟩) hi

end Settles

-- A catalog build on a store in memory always goes through. Each assembled catalog then holds
-- its encoding in the build's format and is counted with its number of entries, or exactly
-- one error names it and it is left as it was; each listed catalog that was not assembled is
-- deleted and named as removed, or it is marked, left as it was, and an error names it. When
-- some icon other than the digest index can be read, the index holds the encoding of the
-- digests of exactly those icons, keyed by their paths, or it is left as it was and an error
-- says why; nothing else changes. A second build on the store the first one left changes no
-- resource and removes nothing.
theorem catalog_rebuild_settles (options : CatalogOptions) (log : Logger) (s : MemoryStore) :
    ∃ out sess, (makeCatalogs options log).runOn s = (.ok out, sess) ∧
      CatalogsRebuilt options log s out sess.store ∧
      (∀ icon d, (icon, d) ∈ s.iconDigests ↔ icon ∈ s.itemlist .icons ∧ icon ≠ iconHashesName ∧
        ∃ data, s.get (Collection.icons.identifier icon) = .ok data ∧ d = Sha256.hexDigest data) ∧
      ∃ out' sess', (makeCatalogs options log).runOn sess.store = (.ok out', sess') ∧
        out'.staleRemoved = [] ∧ ∀ id, sess'.store.lookup id = sess.store.lookup id := by
  obtain ⟨out, sess, hrun, R₁⟩ := makeCatalogs_memory options log ⟨s, []⟩
  obtain ⟨out', sess', hrun', R₂⟩ := makeCatalogs_memory options log ⟨sess.store, []⟩
  -- the first build changed only what it writes, so the second reads what the first read
  have reach : Repository.Reach IsCatalog IsCatalogOutput s sess.store := by
    have confined := makeCatalogs_confined (σ := MemoryStore) options log ⟨s, []⟩
    rwa [hrun] at confined
  obtain ⟨inputs, fail, -⟩ := reach.buildInputs_eq (fun _ h => .inl h) fun _ h => h
  have same : sess.store.assembly options log = s.assembly options log ∧ sess.store.iconDigests = s.iconDigests :=
    assembly_eq_of_buildInputs inputs fail
  refine ⟨out, sess, hrun, R₁, fun icon d => MemoryStore.mem_iconDigests, out', sess', hrun', ?_,
    R₁.lookup_rebuilt R₂ same.1 same.2⟩
  refine List.eq_nil_iff_forall_not_mem.mpr fun n hn => ?_
  obtain ⟨hn, hnn, hd⟩ := R₂.onlyStale n hn
  exact R₁.stale_undeletable hn (same.1 ▸ hnn) hd

end Depot
