import Depot.Proofs.ListingOrder
import Mathlib.Data.List.Forall2

namespace Depot

def pinThenRetention (name : String) (pinned required : List (String × String)) (keep used : Nat)
    (v : String) : Disposition :=
  if (name, v) ∈ pinned then .keep .manifest
  else if (name, v) ∈ required then .keep .requires
  else if used < keep then .keep .retention
  else .delete

section Rule

variable {name : String} {pinned required : List (String × String)} {keep used : Nat} {v : String}

theorem pinThenRetention_eq_retention_iff :
    pinThenRetention name pinned required keep used v = .keep .retention ↔
      retainable name pinned required v = true ∧ used < keep := by
  unfold pinThenRetention retainable
  by_cases hp : (name, v) ∈ pinned <;> by_cases hr : (name, v) ∈ required <;>
    by_cases hk : used < keep <;> simp [hp, hr, hk]

theorem pinThenRetention_eq_delete_iff :
    pinThenRetention name pinned required keep used v = .delete ↔
      retainable name pinned required v = true ∧ keep ≤ used := by
  rw [← Nat.not_lt]
  unfold pinThenRetention retainable
  by_cases hp : (name, v) ∈ pinned <;> by_cases hr : (name, v) ∈ required <;>
    by_cases hk : used < keep <;> simp [hp, hr, hk]

end Rule

section Decide

variable (name : String) (pinned required : List (String × String)) (keep : Nat)

-- One step of the decision: the rule at the current rank, which moves on only when the version
-- took a place of the window.
theorem decideVersions_cons (rank : Nat) (w : String) (ws : List String) :
    decideVersions name pinned required keep rank (w :: ws) =
      (w, pinThenRetention name pinned required keep rank w) ::
        decideVersions name pinned required keep
          (rank + if pinThenRetention name pinned required keep rank w = .keep .retention then 1
            else 0) ws := by
  unfold pinThenRetention
  by_cases hp : (name, w) ∈ pinned
  · simp [decideVersions, hp]
  · by_cases hr : (name, w) ∈ required
    · simp [decideVersions, hp, hr]
    · by_cases hk : rank < keep <;> simp [decideVersions, hp, hr, hk]

-- The rank the decision carries is the rank it started from plus the places the versions
-- before took.
theorem decideVersions_rule :
    ∀ {rank : Nat} {ws : List String} {before after : List (String × Disposition)}
      {d : String × Disposition},
      decideVersions name pinned required keep rank ws = before ++ d :: after →
        d.2 = pinThenRetention name pinned required keep
          (rank + before.countP (·.2 == .keep .retention)) d.1
  | _, [], before, _, _, h => by cases before <;> simp [decideVersions] at h
  | rank, w :: ws, before, after, d, h => by
    rw [decideVersions_cons] at h
    cases before with
    | nil =>
      obtain ⟨rfl, -⟩ := List.cons.inj h
      simp
    | cons b before =>
      rw [List.cons_append] at h
      obtain ⟨rfl, rest⟩ := List.cons.inj h
      rw [decideVersions_rule rest, List.countP_cons, Nat.add_assoc]
      congr 2
      by_cases hret : pinThenRetention name pinned required keep rank w = .keep .retention
      · simp [hret, Nat.add_comm]
      · simp [hret]

theorem decideVersions_countP_retention :
    ∀ (rank : Nat) (ws : List String),
      (decideVersions name pinned required keep rank ws).countP (·.2 == .keep .retention) =
        min (keep - rank) (ws.countP (retainable name pinned required))
  | _, [] => by simp [decideVersions]
  | rank, w :: ws => by
    rw [decideVersions_cons, List.countP_cons, List.countP_cons, decideVersions_countP_retention]
    by_cases hret : pinThenRetention name pinned required keep rank w = .keep .retention
    · -- the version took a place: nothing held it and the window had room
      obtain ⟨hw, hk⟩ := pinThenRetention_eq_retention_iff.mp hret
      simp only [hret, hw, if_true, beq_self_eq_true]
      omega
    · by_cases hw : retainable name pinned required w = true
      · -- nothing held it, so the window was full
        have full : keep ≤ rank :=
          Nat.not_lt.mp fun hk => hret (pinThenRetention_eq_retention_iff.mpr ⟨hw, hk⟩)
        simp [hret, hw]
        omega
      · simp [hret, hw]

theorem decideVersions_ne_retention {rank : Nat} (hk : keep ≤ rank) :
    ∀ {ws : List String}, ∀ d ∈ decideVersions name pinned required keep rank ws,
      d.2 ≠ .keep .retention
  | [], _, h => by simp [decideVersions] at h
  | w :: ws, d, h => by
    have full : pinThenRetention name pinned required keep rank w ≠ .keep .retention :=
      fun e => absurd (pinThenRetention_eq_retention_iff.mp e).2 (by omega)
    rw [decideVersions_cons, if_neg full, Nat.add_zero] at h
    rcases List.mem_cons.mp h with rfl | h
    · exact full
    · exact decideVersions_ne_retention hk d h

theorem decideVersions_retention_before_delete :
    ∀ (rank : Nat) (ws : List String),
      (decideVersions name pinned required keep rank ws).Pairwise
        fun a b => ¬ (a.2 = .delete ∧ b.2 = .keep .retention)
  | _, [] => by simp [decideVersions]
  | rank, w :: ws => by
    rw [decideVersions_cons]
    refine List.Pairwise.cons (fun b hb h => ?_) (decideVersions_retention_before_delete _ ws)
    obtain ⟨hdel, hret⟩ := h
    -- a deleted version found the window full, and it stays full
    dsimp only at hdel
    have full := (pinThenRetention_eq_delete_iff.mp hdel).2
    have notRet : pinThenRetention name pinned required keep rank w ≠ .keep .retention := by
      rw [hdel]; simp
    rw [if_neg notRet, Nat.add_zero] at hb
    exact decideVersions_ne_retention name pinned required keep full b hb hret

end Decide

structure GroupPlan.Follows (pinned required : List (String × String)) (keep : Nat)
    (line : Signature × VariantGroup) (g : GroupPlan) : Prop where
  signature : g.signature = line.1
  newestFirst : g.versions.map (·.version) = Version.sortNewestFirst (line.2.map Prod.fst)
  eachOnce : (g.versions.map (·.version)).Perm (line.2.map Prod.fst)
  rule : ∀ before v after, g.versions = before ++ v :: after →
    v.disposition = pinThenRetention line.1.name pinned required keep
      (before.countP (·.disposition == .keep .retention)) v.version
  window : g.versions.countP (·.disposition == .keep .retention) =
    min keep (g.versions.countP fun v => retainable line.1.name pinned required v.version)
  windowFirst : g.versions.Pairwise fun v w => ¬ (v.disposition = .delete ∧ w.disposition = .keep .retention)

section Follows

variable {pinned required : List (String × String)} {keep : Nat} {line : Signature × VariantGroup}
  {g : GroupPlan}

theorem GroupPlan.Follows.of_decisions (hsig : g.signature = line.1)
    (h : g.versions.map (fun v => (v.version, v.disposition)) =
      decideVersions line.1.name pinned required keep 0
        (Version.sortNewestFirst (line.2.map Prod.fst))) :
    g.Follows pinned required keep line := by
  have versions : g.versions.map (·.version) = Version.sortNewestFirst (line.2.map Prod.fst) := by
    have fsts := congrArg (List.map Prod.fst) h
    rw [List.map_map, decideVersions_map_fst] at fsts
    exact fsts
  refine ⟨hsig, versions, versions ▸ List.mergeSort_perm _ _, ?rule, ?window, ?first⟩
  case rule =>
    intro before v after hv
    have split := congrArg (List.map fun v : VersionPlan => (v.version, v.disposition)) hv
    rw [h, List.map_append, List.map_cons] at split
    simpa [List.countP_map, Function.comp_def] using decideVersions_rule _ _ _ _ split
  case window =>
    have counts := decideVersions_countP_retention line.1.name pinned required keep 0
      (Version.sortNewestFirst (line.2.map Prod.fst))
    rw [← h, ← versions, List.countP_map, List.countP_map, Nat.sub_zero] at counts
    exact counts
  case first =>
    have pairs := decideVersions_retention_before_delete line.1.name pinned required keep 0
      (Version.sortNewestFirst (line.2.map Prod.fst))
    rw [← h, List.pairwise_map] at pairs
    exact pairs

end Follows

def CleanupPlan.recordsAt (p : CleanupPlan) (scan : PkginfoScan) (pick : Disposition → Bool) :
    List PkginfoRecord :=
  (scan.index.zip p.groups).flatMap fun x =>
    (x.2.versions.filter fun v => pick v.disposition).flatMap fun v =>
      (Sorted.findBy compare v.version x.1.2).getD []

structure CleanupPlan.DecidesByRule (p : CleanupPlan) (scan : PkginfoScan)
    (pinned : List (String × String)) (keep : Nat) : Prop where
  lines : List.Forall₂ (GroupPlan.Follows pinned scan.requiredVersions keep) scan.index p.groups
  toDelete : p.toDelete = p.recordsAt scan Disposition.isDelete

section Plan

variable (scan : PkginfoScan) (pinned : List (String × String)) (keep : Nat) (orphans : List String)

theorem planCleanup_groups :
    (planCleanup scan pinned orphans keep).groups = scan.index.map fun e =>
      ⟨e.1, scan.referencedNames.contains e.1.name,
        (planGroup scan pinned keep e.1 e.2).map Prod.fst⟩ := by
  simp only [planCleanup, List.map_map]
  rfl

theorem planGroup_decisions (sig : Signature) (group : VariantGroup) :
    ((planGroup scan pinned keep sig group).map Prod.fst).map (fun v => (v.version, v.disposition)) =
      decideVersions sig.name pinned scan.requiredVersions keep 0
        (Version.sortNewestFirst (group.map Prod.fst)) := by
  simp only [planGroup, List.map_map]
  exact (List.map_congr_left fun x _ => rfl).trans (List.map_id _)

theorem snd_of_mem_planGroup {sig : Signature} {group : VariantGroup}
    {x : VersionPlan × List PkginfoRecord} (hx : x ∈ planGroup scan pinned keep sig group) :
    x.2 = (Sorted.findBy compare x.1.version group).getD [] := by
  simp only [planGroup, List.mem_map] at hx
  obtain ⟨d, -, rfl⟩ := hx
  rfl

theorem flatMap_filter_findBy {group : VariantGroup} (pick : Disposition → Bool) :
    ∀ {xs : List (VersionPlan × List PkginfoRecord)},
      (∀ x ∈ xs, x.2 = (Sorted.findBy compare x.1.version group).getD []) →
      ((xs.map Prod.fst).filter fun v => pick v.disposition).flatMap
          (fun v => (Sorted.findBy compare v.version group).getD []) =
        xs.flatMap fun x => if pick x.1.disposition then x.2 else []
  | [], _ => rfl
  | x :: xs, h => by
    have rest := flatMap_filter_findBy pick fun y hy => h y (List.mem_cons_of_mem x hy)
    rw [List.map_cons, List.filter_cons, List.flatMap_cons, h x List.mem_cons_self]
    split <;> simp [rest]

theorem recordsAt_planCleanup (pick : Disposition → Bool) :
    (planCleanup scan pinned orphans keep).recordsAt scan pick =
      scan.index.flatMap fun e => (planGroup scan pinned keep e.1 e.2).flatMap fun x =>
        if pick x.1.disposition then x.2 else [] := by
  unfold CleanupPlan.recordsAt
  rw [planCleanup_groups]
  induction scan.index with
  | nil => rfl
  | cons e rest ih =>
    simp only [List.map_cons, List.zip_cons_cons, List.flatMap_cons, ih]
    rw [flatMap_filter_findBy pick fun x hx => snd_of_mem_planGroup scan pinned keep hx]

-- A plan decides every line of its index by the pin-then-retention rule, and deletes exactly the
-- records at the versions it deletes, line by line and newest version first.
theorem planCleanup_decides_by_rule :
    (planCleanup scan pinned orphans keep).DecidesByRule scan pinned keep := by
  constructor
  · rw [planCleanup_groups, List.forall₂_map_right_iff, List.forall₂_same]
    intro e _
    exact GroupPlan.Follows.of_decisions rfl (planGroup_decisions scan pinned keep e.1 e.2)
  · rw [recordsAt_planCleanup, planCleanup_toDelete]

end Plan

end Depot
