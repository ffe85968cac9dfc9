import Depot.Proofs.Effects

namespace Depot

section Walks

variable {σ γ α β : Type} [Repository σ]

-- The frame of work that changes nothing.
def noIdentifier (_ : String) : Prop := False

theorem Repository.Reach.eq_of_noIdentifier {s s' : σ}
    (h : Repository.Reach noIdentifier noIdentifier s s') : s' = s := by
  induction h with
  | refl => rfl
  | delete hd => exact hd.elim
  | put _ hu => exact hu.elim

variable {D U : String → Prop}

theorem Work.Confined.mono {D' U' : String → Prop} {w : Work σ α} (h : w.Confined D U)
    (hD : ∀ id, D id → D' id) (hU : ∀ id, U id → U' id) : w.Confined D' U' :=
  fun sess => (h sess).mono hD hU

structure Cleaning.Leads (D U : String → Prop) (c c' : Cleaning σ γ) (hs : List Phase) : Prop where
  reach : Repository.Reach D U c.session.store c'.session.store
  confirm : c'.confirm = c.confirm
  history : c'.history = c.history ++ hs

theorem Cleaning.Leads.trans {c₁ c₂ c₃ : Cleaning σ γ} {hs hs' : List Phase}
    (h₁ : Cleaning.Leads D U c₁ c₂ hs) (h₂ : Cleaning.Leads D U c₂ c₃ hs') :
    Cleaning.Leads D U c₁ c₃ (hs ++ hs') :=
  ⟨h₁.reach.trans h₂.reach, h₂.confirm.trans h₁.confirm, by rw [h₂.history, h₁.history, List.append_assoc]⟩

def Cleaning.Walk (D U : String → Prop) (ps : List Phase) (P : α → Prop) (c : Cleaning σ γ)
    (r : Except Error α × Cleaning σ γ) : Prop :=
  ∃ hs, Cleaning.Leads D U c r.2 hs ∧ hs <+: ps ∧ ∀ a, r.1 = .ok a → hs = ps ∧ P a

def CleanWork.Walks (D U : String → Prop) (ps : List Phase) (P : α → Prop)
    (w : CleanWork σ γ α) : Prop :=
  ∀ c, Cleaning.Walk D U ps P c (w.run.run c)

namespace Cleaning.Walk

variable {ps : List Phase} {P : α → Prop} {c c' : Cleaning σ γ} {r : Except Error α × Cleaning σ γ}

theorem of_leads (h : Cleaning.Leads D U c c' []) (w : Cleaning.Walk D U ps P c' r) :
    Cleaning.Walk D U ps P c r := by
  obtain ⟨hs, lead, pre, ok⟩ := w
  exact ⟨hs, by simpa using h.trans lead, pre, ok⟩

theorem of_ok {a : α} (w : Cleaning.Walk D U ps P c r) (h : r.1 = .ok a) :
    r.2.history = c.history ++ ps ∧ P a := by
  obtain ⟨hs, lead, -, ok⟩ := w
  obtain ⟨rfl, ha⟩ := ok a h
  exact ⟨lead.history, ha⟩

theorem confirm_eq (w : Cleaning.Walk D U ps P c r) : r.2.confirm = c.confirm := by
  obtain ⟨hs, lead, -, -⟩ := w
  exact lead.confirm

theorem mem_history {p : Phase} (w : Cleaning.Walk D U ps P c r) (h : p ∈ c.history) :
    p ∈ r.2.history := by
  obtain ⟨hs, lead, -, -⟩ := w
  rw [lead.history]
  exact List.mem_append_left _ h

theorem store_eq (w : Cleaning.Walk noIdentifier noIdentifier ps P c r) :
    r.2.session.store = c.session.store := by
  obtain ⟨hs, lead, -, -⟩ := w
  exact lead.reach.eq_of_noIdentifier

theorem not_mem_history {p : Phase} (w : Cleaning.Walk D U ps P c r) (hc : p ∉ c.history)
    (hp : p ∉ ps) : p ∉ r.2.history := by
  obtain ⟨hs, lead, pre, -⟩ := w
  rw [lead.history, List.mem_append, not_or]
  exact ⟨hc, fun h => hp (pre.subset h)⟩

end Cleaning.Walk

theorem CleanWork.Walks.walk {ps : List Phase} {P : α → Prop} {w : CleanWork σ γ α}
    (h : CleanWork.Walks D U ps P w) (c : Cleaning σ γ) : c.Walk D U ps P (w.run.run c) :=
  h c

namespace CleanWork.Walks

variable {ps qs : List Phase} {P Q : α → Prop}

theorem pure {a : α} (h : P a) : Walks D U [] P (Pure.pure a : CleanWork σ γ α) :=
  fun c => ⟨[], ⟨.refl _, rfl, (List.append_nil _).symm⟩, List.nil_prefix, fun _ e => by cases e; exact ⟨rfl, h⟩⟩

theorem lift {w : Work σ α} (h : w.Confined D U) : Walks D U [] (fun _ => True) (lift w : CleanWork σ γ α) :=
  fun c => ⟨[], ⟨h c.session, rfl, (List.append_nil _).symm⟩, List.nil_prefix, fun _ _ => ⟨rfl, trivial⟩⟩

theorem get : Walks D U [] (fun _ => True) (MonadState.get : CleanWork σ γ (Cleaning σ γ)) :=
  fun _ => ⟨[], ⟨.refl _, rfl, (List.append_nil _).symm⟩, List.nil_prefix, fun _ _ => ⟨rfl, trivial⟩⟩

theorem enter (log : Logger) (p : Phase) :
    Walks D U [p] (fun _ => True) (CleanWork.enter log p : CleanWork σ γ Unit) :=
  fun _ => ⟨[p], ⟨.refl _, rfl, rfl⟩, List.prefix_refl _, fun _ _ => ⟨rfl, trivial⟩⟩

theorem bind {x : CleanWork σ γ β} {f : β → CleanWork σ γ α} {Q : β → Prop}
    (hx : Walks D U ps Q x) (hf : ∀ b, Q b → Walks D U qs P (f b)) :
    Walks D U (ps ++ qs) P (x >>= f) := by
  intro c
  obtain ⟨hs, lead, pre, ok⟩ := hx c
  rw [run_bind]
  rcases hr : x.run.run c with ⟨_ | b, c'⟩ <;> rw [hr] at lead ok
  · exact ⟨hs, lead, pre.trans (List.prefix_append _ _), fun _ e => nomatch e⟩
  · -- the first part walked all its phases; the rest walks on from where it stopped
    obtain ⟨rfl, hb⟩ := ok b rfl
    obtain ⟨hs', lead', pre', ok'⟩ := hf b hb c'
    refine ⟨hs ++ hs', lead.trans lead', (List.prefix_append_right_inj hs).mpr pre', fun a e => ?_⟩
    obtain ⟨rfl, ha⟩ := ok' a e
    exact ⟨rfl, ha⟩

theorem seq {x : CleanWork σ γ β} {f : β → CleanWork σ γ α} {Q : β → Prop}
    (hx : Walks D U [] Q x) (hf : ∀ b, Q b → Walks D U qs P (f b)) : Walks D U qs P (x >>= f) :=
  bind hx hf

theorem enter_seq {log : Logger} {p : Phase} {f : Unit → CleanWork σ γ α}
    (hf : ∀ u, Walks D U qs P (f u)) : Walks D U (p :: qs) P (CleanWork.enter log p >>= f) :=
  bind (enter log p) fun u _ => hf u

end CleanWork.Walks

end Walks

section Scan

variable {σ γ : Type} [Repository σ] {D U : String → Prop}

theorem scanManifests_confined (log : Logger) :
    (scanManifests log : Work σ ManifestScan).Confined D U := by
  unfold scanManifests
  refine .bind (.read _) fun _ => .bind (.say _) fun _ => .bind .get fun _ => ?_
  refine .bind (.forIn (fun entry _ => ?_) _ _) fun _ => .pure _
  obtain ⟨id, m⟩ := entry
  dsimp only
  split
  · exact .bind (.say _) fun _ => .pure _
  · exact .pure _

theorem analyze_walks (config : CleanConfig) (log : Logger) :
    (analyze config log : CleanWork σ γ _).Walks D U
      [.manifestsScanned, .pkginfoScanned, .planReady] (fun _ => True) := by
  unfold analyze
  refine .seq (.lift (.say _)) fun _ _ =>
    .seq (.lift (scanManifests_confined log : (scanManifests log : Work σ _).Confined D U)) fun _ _ =>
    .enter_seq fun _ => .seq (.lift (.read _)) fun _ _ => .seq (.lift (.say _)) fun _ _ =>
    .seq .get fun _ _ => ?_
  exact .enter_seq fun _ => .seq (.lift (.read _)) fun _ _ => .enter_seq fun _ => .pure trivial

end Scan

section Consent

variable {σ γ : Type} [Confirm γ]

-- The answer that lets a deletion go ahead, and the source of answers as asking leaves it:
-- nothing is asked with `auto`, and the second question only after a yes to the first.
def consent (auto : Bool) (g : γ) : Except Error Bool × γ :=
  if auto then (.ok true, g)
  else match Confirm.ask g deleteQuestion with
    | (.ok true, g') => Confirm.ask g' sureQuestion
    | answer => answer

theorem confirmDeletion_run (config : CleanConfig) (c : Cleaning σ γ) :
    (confirmDeletion config : CleanWork σ γ Bool).run.run c =
      ((consent config.auto c.confirm).1, { c with confirm := (consent config.auto c.confirm).2 }) := by
  unfold confirmDeletion consent
  cases config.auto with
  | true => rfl
  | false =>
    simp only [Bool.false_eq_true, if_false]
    rw [CleanWork.run_bind, CleanWork.run_ask]
    rcases hq : Confirm.ask c.confirm deleteQuestion with ⟨_ | _ | _, g'⟩
    · rfl
    · rfl
    · exact CleanWork.run_ask _ _

theorem consent_fst_eq_ok_true (auto : Bool) (g : γ) :
    (consent auto g).1 = .ok true ↔
      auto = true ∨ (Confirm.ask g deleteQuestion).1 = .ok true ∧
        (Confirm.ask (Confirm.ask g deleteQuestion).2 sureQuestion).1 = .ok true := by
  unfold consent
  cases auto with
  | true => simp
  | false =>
    simp only [Bool.false_eq_true, if_false, false_or]
    rcases Confirm.ask g deleteQuestion with ⟨_ | _ | _, g'⟩ <;> simp

theorem consent_snd (auto : Bool) (g : γ) :
    (consent auto g).2 = if auto then g else
      match (Confirm.ask g deleteQuestion).1 with
      | .ok true => (Confirm.ask (Confirm.ask g deleteQuestion).2 sureQuestion).2
      | _ => (Confirm.ask g deleteQuestion).2 := by
  unfold consent
  cases auto with
  | true => rfl
  | false => rcases Confirm.ask g deleteQuestion with ⟨_ | _ | _, g'⟩ <;> rfl

end Consent

section Deletion

variable {σ : Type} [Repository σ]

-- What a confirmed run may delete: the planned records, the planned installer items and
-- orphans, and catalogs.
def PlanDeletes (plan : CleanupPlan) (id : String) : Prop :=
  id ∈ plan.toDelete.map PkginfoRecord.identifier ∨
    id ∈ (plan.pkgsToDelete ++ plan.orphansToDelete).map Collection.pkgs.identifier ∨ IsCatalog id

theorem CleanupPlan.mem_of_mem_blobs {plan : CleanupPlan} {held : List String} {p : String}
    (h : p ∈ plan.blobs held) : p ∈ plan.pkgsToDelete ++ plan.orphansToDelete := by
  rcases List.mem_append.mp h with h | h
  · exact List.mem_append_left _ (List.mem_filter.mp h).1
  · exact List.mem_append_right _ h

theorem deletePlan_confined (log : Logger) (plan : CleanupPlan) (summary : CleanSummary) :
    (deletePlan log plan summary : Work σ CleanSummary).Confined (PlanDeletes plan) IsCatalogOutput := by
  unfold deletePlan
  refine .bind (.foldlM (fun acc r hr => ?_) _) fun done => ?_
  · unfold deleteRecord
    refine .bind (.say _) fun _ => .bind (.delete (.inl (List.mem_map_of_mem hr))) fun _ => ?_
    split <;> exact .pure _
  · obtain ⟨held, summary⟩ := done
    refine .foldlM (fun summary p hp => ?_) _
    have hp := CleanupPlan.mem_of_mem_blobs hp
    unfold deleteBlob
    refine .bind (.say _) fun _ => .bind (.delete (.inr (.inl (List.mem_map_of_mem hp)))) fun _ => ?_
    split <;> exact .pure _

end Deletion

section AfterPlan

variable {σ γ : Type} [Repository σ] [Confirm γ]

-- Every way a cleanup run goes on from the state `c` in which its plan is ready. A confirmed
-- run deletes within the plan and rebuilds the catalogs; more precisely, after the deletion phase
-- it changes the catalogs only.
inductive AfterPlan (config : CleanConfig) (log : Logger) (plan : CleanupPlan) (c : Cleaning σ γ) :
    Except Error CleanSummary × Cleaning σ γ → Prop
  | nothingToDelete {r} : plan.isEmpty = true →
      c.Walk noIdentifier noIdentifier [.done] (·.outcome = .nothingToDelete) r → AfterPlan config log plan c r
  | dryRun {r} : plan.isEmpty = false → config.dryRun = true →
      c.Walk noIdentifier noIdentifier [.done] (·.outcome = .dryRun) r → AfterPlan config log plan c r
  | unanswered {r} {e : Error} : plan.isEmpty = false → config.dryRun = false →
      (consent config.auto c.confirm).1 = .error e →
      Cleaning.Walk noIdentifier noIdentifier [] (fun _ => False)
        { c with confirm := (consent config.auto c.confirm).2 } r → AfterPlan config log plan c r
  | declined {r} : plan.isEmpty = false → config.dryRun = false →
      (consent config.auto c.confirm).1 = .ok false →
      Cleaning.Walk noIdentifier noIdentifier [.aborted, .done] (·.outcome = .aborted)
        { c with confirm := (consent config.auto c.confirm).2 } r → AfterPlan config log plan c r
  | confirmed {r} {c' : Cleaning σ γ} : plan.isEmpty = false → config.dryRun = false →
      (consent config.auto c.confirm).1 = .ok true →
      Cleaning.Leads noIdentifier noIdentifier { c with confirm := (consent config.auto c.confirm).2 } c'
        [.confirmed] →
      c'.Walk (PlanDeletes plan) IsCatalogOutput [.deleted, .catalogsRebuilt, .done]
        (·.outcome = .deleted) r →
      (∃ summary, ∀ out sess, (deletePlan log plan summary).run.run c'.session = (.ok out, sess) →
        Cleaning.Walk IsCatalog IsCatalogOutput [.deleted, .catalogsRebuilt, .done]
          (·.outcome = .deleted) { c' with session := sess } r) →
      AfterPlan config log plan c r

theorem cleanup_afterPlan {config : CleanConfig} {log : Logger} {c c₁ : Cleaning σ γ}
    {plan : CleanupPlan} {summary : CleanSummary}
    (h : (analyze config log).run.run c = (.ok (plan, summary), c₁)) :
    AfterPlan config log plan c₁ ((cleanup config log).run.run c) := by
  rw [cleanup, CleanWork.run_bind_ok h]
  dsimp only
  by_cases he : plan.isEmpty = true
  · simp only [he, if_true]
    refine .nothingToDelete he (CleanWork.Walks.walk ?_ c₁)
    exact .seq (.lift (.say _)) fun _ _ => .seq (.lift (.say _)) fun _ _ =>
      .seq (.lift (.say _)) fun _ _ => .enter_seq fun _ => .pure rfl
  have he : plan.isEmpty = false := by simpa using he
  by_cases hd : config.dryRun = true
  · simp only [he, hd, Bool.false_eq_true, if_false, if_true]
    refine .dryRun he hd (CleanWork.Walks.walk ?_ c₁)
    exact .seq (.lift (.say _)) fun _ _ => .seq (.lift (.say _)) fun _ _ =>
      .enter_seq fun _ => .pure rfl
  have hd : config.dryRun = false := by simpa using hd
  simp only [he, hd, Bool.false_eq_true, if_false]
  rw [CleanWork.run_bind, CleanWork.run_lift, Work.run_say]
  dsimp only
  rw [CleanWork.run_bind, CleanWork.run_lift, Work.run_say]
  dsimp only
  rw [CleanWork.run_bind, confirmDeletion_run]
  -- what was shown before the question only wrote to the log
  have shown : ∀ {D U : String → Prop} (lines : List String),
      Cleaning.Leads D U { c₁ with confirm := (consent config.auto c₁.confirm).2 }
        { session := { store := c₁.session.store, log := lines },
          confirm := (consent config.auto c₁.confirm).2, history := c₁.history } [] :=
    fun _ => ⟨.refl _, rfl, (List.append_nil _).symm⟩
  rcases ha : (consent config.auto c₁.confirm).1 with e | _ | _
  · exact .unanswered he hd ha ⟨[], shown _, List.nil_prefix, fun _ e => nomatch e⟩
  · simp only [Bool.not_false, if_true]
    refine .declined he hd ha (Cleaning.Walk.of_leads (shown _) (CleanWork.Walks.walk ?_ _))
    exact .seq (.lift (.say _)) fun _ _ => .enter_seq fun _ => .enter_seq fun _ => .pure rfl
  · simp only [Bool.not_true, Bool.false_eq_true, if_false]
    rw [CleanWork.run_bind, CleanWork.run_enter]
    dsimp only
    refine .confirmed he hd ha ?_ (CleanWork.Walks.walk ?_ _)
      ⟨{ summary with report := plan.warnings.foldl Report.warn summary.report }, fun out sess hdel => ?_⟩
    · exact ⟨.refl _, rfl, rfl⟩
    · have rebuild : (makeCatalogs { jobs := config.jobs } log : Work σ CatalogReport).Confined
          (PlanDeletes plan) IsCatalogOutput :=
        (makeCatalogs_confined _ _).mono (fun _ h => .inr (.inr h)) fun _ h => h
      exact .seq (.lift (deletePlan_confined _ _ _)) fun _ _ => .enter_seq fun _ =>
        .seq (.lift (.say _)) fun _ _ => .seq (.lift rebuild) fun _ _ => .enter_seq fun _ =>
        .enter_seq fun _ => .pure rfl
    · -- once the deletions are made, only the catalogs change
      rw [CleanWork.run_bind, CleanWork.run_lift, hdel]
      dsimp only
      have rebuild : (makeCatalogs { jobs := config.jobs } log : Work σ CatalogReport).Confined
          IsCatalog IsCatalogOutput :=
        makeCatalogs_confined _ _
      refine CleanWork.Walks.walk ?_ _
      exact .enter_seq fun _ => .seq (.lift (.say _)) fun _ _ => .seq (.lift rebuild) fun _ _ =>
        .enter_seq fun _ => .enter_seq fun _ => .pure rfl

theorem AfterPlan.store_eq_or_confirmed {config : CleanConfig} {log : Logger} {plan : CleanupPlan}
    {c : Cleaning σ γ} {r : Except Error CleanSummary × Cleaning σ γ} (after : AfterPlan config log plan c r) :
    r.2.session.store = c.session.store ∨
      ∃ c' : Cleaning σ γ,
        Cleaning.Leads noIdentifier noIdentifier { c with confirm := (consent config.auto c.confirm).2 } c'
          [.confirmed] ∧
        c'.Walk (PlanDeletes plan) IsCatalogOutput [.deleted, .catalogsRebuilt, .done] (·.outcome = .deleted) r ∧
        ∃ summary, ∀ out sess, (deletePlan log plan summary).run.run c'.session = (.ok out, sess) →
          Cleaning.Walk IsCatalog IsCatalogOutput [.deleted, .catalogsRebuilt, .done]
            (·.outcome = .deleted) { c' with session := sess } r := by
  cases after with
  | nothingToDelete _ w => exact .inl w.store_eq
  | dryRun _ _ w => exact .inl w.store_eq
  | unanswered _ _ _ w => exact .inl w.store_eq
  | declined _ _ _ w => exact .inl w.store_eq
  | @confirmed c' _ _ _ lead' w tail => exact .inr ⟨c', lead', w, tail⟩

end AfterPlan

section Run

variable {σ γ : Type} [Repository σ] [Confirm γ] (config : CleanConfig) (log : Logger)

-- Whether a run with this scan result goes on to ask: the scan planned deletions and the
-- run is no dry run.
def asksToDelete : Except Error (CleanupPlan × CleanSummary) → Bool
  | .ok (plan, _) => !plan.isEmpty && !config.dryRun
  | .error _ => false

-- The phases that a run ending with this outcome enters after the scan.
def Outcome.phases : Outcome → List Phase
  | .nothingToDelete => [.done]
  | .dryRun => [.done]
  | .aborted => [.aborted, .done]
  | .deleted => [.confirmed, .deleted, .catalogsRebuilt, .done]

theorem cleanup_cases (c : Cleaning σ γ) :
    (∃ e c₁ hs, (analyze config log).run.run c = (.error e, c₁) ∧
      Cleaning.Leads noIdentifier noIdentifier c c₁ hs ∧
      hs <+: [.manifestsScanned, .pkginfoScanned, .planReady] ∧
      (cleanup config log).run.run c = (.error e, c₁)) ∨
    ∃ plan summary c₁, (analyze config log).run.run c = (.ok (plan, summary), c₁) ∧
      Cleaning.Leads noIdentifier noIdentifier c c₁ [.manifestsScanned, .pkginfoScanned, .planReady] ∧
      AfterPlan config log plan c₁ ((cleanup config log).run.run c) := by
  have walk : Cleaning.Walk noIdentifier noIdentifier [.manifestsScanned, .pkginfoScanned, .planReady]
      (fun _ => True) c ((analyze config log).run.run c) := analyze_walks config log c
  rcases h : (analyze config log).run.run c with ⟨_ | ⟨plan, summary⟩, c₁⟩ <;>
    rw [h] at walk <;> obtain ⟨hs, lead, pre, ok⟩ := walk
  · exact .inl ⟨_, c₁, hs, rfl, lead, pre, by rw [cleanup, CleanWork.run_bind_error h]⟩
  · obtain ⟨rfl, -⟩ := ok _ rfl
    exact .inr ⟨plan, summary, c₁, rfl, lead, cleanup_afterPlan h⟩

theorem cleanup_store_of_not_confirmed (c : Cleaning σ γ)
    (hn : .confirmed ∉ ((cleanup config log).run.run c).2.history) :
    ((cleanup config log).run.run c).2.session.store = c.session.store := by
  rcases cleanup_cases config log c with ⟨e, c₁, hs, -, lead, -, hr⟩ | ⟨plan, summary, c₁, -, lead, after⟩
  · rw [hr]
    exact lead.reach.eq_of_noIdentifier
  · rw [← lead.reach.eq_of_noIdentifier]
    rcases after.store_eq_or_confirmed with same | ⟨c', lead', w, -⟩
    · exact same
    · exact absurd (w.mem_history (by simp [lead'.history])) hn

theorem cleanup_confirm (c : Cleaning σ γ) :
    ((cleanup config log).run.run c).2.confirm =
      if asksToDelete config ((analyze config log).run.run c).1 then (consent config.auto c.confirm).2
      else c.confirm := by
  rcases cleanup_cases config log c with ⟨e, c₁, hs, ha, lead, -, hr⟩ | ⟨plan, summary, c₁, ha, lead, after⟩
  · rw [hr, ha]
    exact lead.confirm
  · rw [ha, ← lead.confirm]
    cases after with
    | nothingToDelete he w => simpa [asksToDelete, he] using w.confirm_eq
    | dryRun _ hd w => simpa [asksToDelete, hd] using w.confirm_eq
    | unanswered he hd _ w => simpa [asksToDelete, he, hd] using w.confirm_eq
    | declined he hd _ w => simpa [asksToDelete, he, hd] using w.confirm_eq
    | confirmed he hd _ lead' w => simpa [asksToDelete, he, hd, lead'.confirm] using w.confirm_eq

theorem cleanup_confirmed_iff (c : Cleaning σ γ) (h₀ : .confirmed ∉ c.history) :
    .confirmed ∈ ((cleanup config log).run.run c).2.history ↔
      asksToDelete config ((analyze config log).run.run c).1 = true ∧
        (consent config.auto c.confirm).1 = .ok true := by
  rcases cleanup_cases config log c with ⟨e, c₁, hs, ha, lead, pre, hr⟩ | ⟨plan, summary, c₁, ha, lead, after⟩
  · rw [hr, ha, lead.history]
    simpa [asksToDelete, h₀] using fun h => by simpa using pre.subset h
  · have h₁ : .confirmed ∉ c₁.history := by simpa [lead.history] using h₀
    rw [ha, ← lead.confirm]
    cases after with
    | nothingToDelete he w => simpa [asksToDelete, he] using w.not_mem_history h₁ (by simp)
    | dryRun _ hd w => simpa [asksToDelete, hd] using w.not_mem_history h₁ (by simp)
    | unanswered _ _ hc w => simpa [hc] using w.not_mem_history h₁ (by simp)
    | declined _ _ hc w => simpa [hc] using w.not_mem_history h₁ (by simp)
    | confirmed he hd hc lead' w =>
      simpa [asksToDelete, he, hd, hc] using w.mem_history (by simp [lead'.history])

theorem cleanup_history_of_ok (c : Cleaning σ γ) {out : CleanSummary}
    (h : ((cleanup config log).run.run c).1 = .ok out) :
    ∃ plan summary, ((analyze config log).run.run c).1 = .ok (plan, summary) ∧
      ((cleanup config log).run.run c).2.history =
        c.history ++ [.manifestsScanned, .pkginfoScanned, .planReady] ++ out.outcome.phases ∧
      (out.outcome = .nothingToDelete ↔ plan.isEmpty = true) ∧
      (out.outcome = .dryRun ↔ plan.isEmpty = false ∧ config.dryRun = true) := by
  rcases cleanup_cases config log c with ⟨e, c₁, hs, -, -, -, hr⟩ | ⟨plan, summary, c₁, ha, lead, after⟩
  · rw [hr] at h
    cases h
  refine ⟨plan, summary, by rw [ha], ?_⟩
  cases after with
  | nothingToDelete he w =>
    obtain ⟨hh, ho⟩ := w.of_ok h
    simp [hh, lead.history, ho, he, Outcome.phases]
  | dryRun he hd w =>
    obtain ⟨hh, ho⟩ := w.of_ok h
    simp [hh, lead.history, ho, he, hd, Outcome.phases]
  | unanswered _ _ _ w => exact (w.of_ok h).2.elim
  | declined he hd _ w =>
    obtain ⟨hh, ho⟩ := w.of_ok h
    simp [hh, lead.history, ho, he, hd, Outcome.phases]
  | confirmed he hd _ lead' w =>
    obtain ⟨hh, ho⟩ := w.of_ok h
    simp [hh, lead'.history, lead.history, ho, he, hd, Outcome.phases]

-- A cleanup run ends in one of four ways, each with its own phases; deletion is confirmed
-- exactly when the plan deletes something, the run is no dry run and either `auto` is set or
-- both questions are answered yes; the questions are asked only then, the second only after a
-- yes to the first; and unless deletion was confirmed the store is left as it was.
theorem cleanup_follows_phases (s : σ) (g : γ) :
    let run := (cleanup config log : CleanWork σ γ CleanSummary).runOn s g
    let analysis := ((analyze config log : CleanWork σ γ _).runOn s g).1
    let first := Confirm.ask g deleteQuestion
    let second := Confirm.ask first.2 sureQuestion
    (∀ out, run.1 = .ok out → ∃ plan summary, analysis = .ok (plan, summary) ∧
      run.2.history = [.idle, .manifestsScanned, .pkginfoScanned, .planReady] ++ out.outcome.phases ∧
      (out.outcome = .nothingToDelete ↔ plan.isEmpty = true) ∧
      (out.outcome = .dryRun ↔ plan.isEmpty = false ∧ config.dryRun = true)) ∧
    (.confirmed ∈ run.2.history ↔ asksToDelete config analysis = true ∧
      (config.auto = true ∨ first.1 = .ok true ∧ second.1 = .ok true)) ∧
    run.2.confirm =
      (if asksToDelete config analysis && !config.auto then
        match first.1 with
        | .ok true => second.2
        | _ => first.2
      else g) ∧
    (.confirmed ∉ run.2.history → run.2.session.store = s) := by
  intro run analysis first second
  have fresh : .confirmed ∉ ({ session := ⟨s, []⟩, confirm := g } : Cleaning σ γ).history := by simp
  refine ⟨fun out h => cleanup_history_of_ok config log _ h,
    (cleanup_confirmed_iff config log _ fresh).trans (and_congr_right fun _ => consent_fst_eq_ok_true _ _),
    (cleanup_confirm config log _).trans ?_, cleanup_store_of_not_confirmed config log _⟩
  show (if asksToDelete config analysis then (consent config.auto g).2 else g) = _
  rw [consent_snd]
  cases asksToDelete config analysis <;> cases config.auto <;> rfl

end Run

end Depot
