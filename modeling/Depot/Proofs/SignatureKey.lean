import Depot.Pkginfo.Signature
import Mathlib.Data.List.Sort
import Mathlib.Data.String.Basic

namespace Depot

section Unique

variable {α : Type} [BEq α] [LawfulBEq α] {R : α → α → Prop}

theorem pairwise_eraseDups : ∀ {l : List α}, l.Pairwise R → l.eraseDups.Pairwise fun a b => R a b ∧ a ≠ b
  | [], _ => by simp
  | a :: as, h => by
    rw [List.eraseDups_cons, List.pairwise_cons]
    have rest : (as.filter fun b => !b == a).eraseDups.Pairwise fun a b => R a b ∧ a ≠ b :=
      pairwise_eraseDups (h.of_cons.filter _)
    refine ⟨fun b hb => ?_, rest⟩
    -- what stays after the head is a later member other than the head
    obtain ⟨hmem, hne⟩ := List.mem_filter.1 (List.mem_eraseDups.1 hb)
    exact ⟨List.rel_of_pairwise_cons h hmem, fun e => by simp [e] at hne⟩
termination_by l => l.length
decreasing_by exact Nat.lt_succ_of_le (List.length_filter_le _ _)

end Unique

section Sorted

variable {xs ys : List String}

@[simp] theorem mem_sortedUnique {a : String} : a ∈ sortedUnique xs ↔ a ∈ xs := by
  rw [sortedUnique, List.mem_eraseDups, (List.mergeSort_perm _ _).mem_iff]

theorem sortedUnique_pairwise : (sortedUnique xs).Pairwise (· < ·) := by
  have sorted : (xs.mergeSort fun a b => a ≤ b).Pairwise fun a b => a ≤ b := by
    simpa using @List.pairwise_mergeSort String (fun a b => decide (a ≤ b))
      (fun a b c hab hbc => by simpa using le_trans (of_decide_eq_true hab) (of_decide_eq_true hbc))
      (fun a b => by simpa using le_total a b) xs
  exact (pairwise_eraseDups sorted).imp fun h => lt_of_le_of_ne h.1 h.2

-- The sorted form without repeats is the canonical form of the set of members.
theorem sortedUnique_eq_iff : sortedUnique xs = sortedUnique ys ↔ ∀ a, a ∈ xs ↔ a ∈ ys := by
  constructor
  · intro h a
    rw [← mem_sortedUnique, h, mem_sortedUnique]
  · intro h
    exact sortedUnique_pairwise.eq_of_mem_iff sortedUnique_pairwise fun a => by simpa using h a

theorem sortedUnique_sortedUnique : sortedUnique (sortedUnique xs) = sortedUnique xs :=
  sortedUnique_eq_iff.2 fun _ => mem_sortedUnique

@[simp] theorem sortedUnique_nil : sortedUnique [] = [] := by
  rw [sortedUnique, List.mergeSort_nil, List.eraseDups_nil]

end Sorted

section Records

variable {identifier : String} {data : ByteArray} {r : PkginfoRecord}

theorem PkginfoRecord.parse_architectures (h : PkginfoRecord.parse identifier data = .ok r) :
    sortedUnique r.constraints.architectures = r.constraints.architectures := by
  unfold PkginfoRecord.parse at h
  simp only [bind, Except.bind, pure, Except.pure] at h
  cases hf : decode identifier data PkginfoFields.shape with
  | error e => simp only [hf] at h; cases h
  | ok datum =>
    cases hd : decode identifier data .dictionary with
    | error e => simp only [hf, hd] at h; cases h
    | ok doc =>
      cases hn : nonEmpty (PkginfoFields.ofDatum datum).name with
      | none => simp only [hf, hd, hn] at h; cases h
      | some n =>
        cases hv : nonEmpty (PkginfoFields.ofDatum datum).version with
        | none => simp only [hf, hd, hn, hv] at h; cases h
        | some v =>
          simp only [hf, hd, hn, hv, Except.ok.injEq] at h
          subst h
          exact sortedUnique_sortedUnique

theorem Constraints.eq_iff_of_sorted {c₁ c₂ : Constraints}
    (h₁ : sortedUnique c₁.architectures = c₁.architectures) (h₂ : sortedUnique c₂.architectures = c₂.architectures) :
    c₁ = c₂ ↔ c₁.minimumOsVersion = c₂.minimumOsVersion ∧ c₁.maximumOsVersion = c₂.maximumOsVersion ∧
      c₁.installableCondition = c₂.installableCondition ∧ ∀ a, a ∈ c₁.architectures ↔ a ∈ c₂.architectures := by
  obtain ⟨min₁, max₁, arch₁, cond₁⟩ := c₁
  obtain ⟨min₂, max₂, arch₂, cond₂⟩ := c₂
  dsimp only at h₁ h₂ ⊢
  rw [Constraints.mk.injEq, ← sortedUnique_eq_iff, h₁, h₂]
  tauto

theorem PkginfoRecord.usesRemovePackages_iff :
    r.usesRemovePackages = true ↔ r.uninstallMethod = some "removepackages" := by
  simp [PkginfoRecord.usesRemovePackages, removePackages]

theorem receipts_eq_iff {r₁ r₂ : PkginfoRecord} :
    r₁.signature.receipts = r₂.signature.receipts ↔
      ∀ id, r₁.uninstallMethod = some "removepackages" ∧ id ∈ r₁.receipts ↔
        r₂.uninstallMethod = some "removepackages" ∧ id ∈ r₂.receipts := by
  have gated : ∀ r : PkginfoRecord, r.signature.receipts =
      sortedUnique (if r.usesRemovePackages then r.receipts else []) := by
    intro r
    unfold PkginfoRecord.signature
    split
    · rfl
    · exact sortedUnique_nil.symm
  rw [gated, gated, sortedUnique_eq_iff]
  refine forall_congr' fun id => ?_
  rw [← PkginfoRecord.usesRemovePackages_iff, ← PkginfoRecord.usesRemovePackages_iff]
  split <;> split <;> simp_all

end Records

theorem signature_eq_iff_same_variant {i₁ i₂ : String} {d₁ d₂ : ByteArray} {r₁ r₂ : PkginfoRecord}
    (h₁ : PkginfoRecord.parse i₁ d₁ = .ok r₁) (h₂ : PkginfoRecord.parse i₂ d₂ = .ok r₂) :
    r₁.signature = r₂.signature ↔
      r₁.name = r₂.name ∧ (∀ c, c ∈ r₁.catalogs ↔ c ∈ r₂.catalogs) ∧
        r₁.constraints.minimumOsVersion = r₂.constraints.minimumOsVersion ∧
        r₁.constraints.maximumOsVersion = r₂.constraints.maximumOsVersion ∧
        r₁.constraints.installableCondition = r₂.constraints.installableCondition ∧
        (∀ a, a ∈ r₁.constraints.architectures ↔ a ∈ r₂.constraints.architectures) ∧
        ∀ id, r₁.uninstallMethod = some "removepackages" ∧ id ∈ r₁.receipts ↔
          r₂.uninstallMethod = some "removepackages" ∧ id ∈ r₂.receipts := by
  have fields : r₁.signature = r₂.signature ↔ r₁.name = r₂.name ∧
      sortedUnique r₁.catalogs = sortedUnique r₂.catalogs ∧ r₁.constraints = r₂.constraints ∧
      r₁.signature.receipts = r₂.signature.receipts := by
    rw [PkginfoRecord.signature, PkginfoRecord.signature, Signature.mk.injEq]
  rw [fields, sortedUnique_eq_iff, receipts_eq_iff,
    Constraints.eq_iff_of_sorted (PkginfoRecord.parse_architectures h₁) (PkginfoRecord.parse_architectures h₂)]
  tauto

-- Two versions of one item: the second lists the catalogs in another order and without the
-- repeat, and the receipts in another order, without the receipt that has no package id.
def reorderedVersionOne : ByteArray :=
  ("\x7b name = \"T\"; version = \"1\"; catalogs = (\"b\", \"a\", \"b\"); uninstall_method = \"removepackages\"; " ++
    "receipts = (\x7b packageid = \"q\"; \x7d, \x7b packageid = \"p\"; \x7d, \x7b \x7d); \x7d").toUTF8

def reorderedVersionTwo : ByteArray :=
  ("\x7b name = \"T\"; version = \"2\"; catalogs = (\"a\", \"b\"); uninstall_method = \"removepackages\"; " ++
    "receipts = (\x7b packageid = \"p\"; \x7d, \x7b packageid = \"q\"; \x7d); \x7d").toUTF8

theorem reordered_versions_share_signature :
    ∃ r₁ r₂, PkginfoRecord.parse "pkgsinfo/one" reorderedVersionOne = .ok r₁ ∧
      PkginfoRecord.parse "pkgsinfo/two" reorderedVersionTwo = .ok r₂ ∧ r₁.signature = r₂.signature := by
  have read₁ : (PkginfoRecord.parse "pkgsinfo/one" reorderedVersionOne).toOption.map
      (fun r => (r.name, r.catalogs, r.constraints, r.uninstallMethod, r.receipts)) =
      some ("T", ["b", "a", "b"], ⟨none, none, [], none⟩, some "removepackages", ["q", "p"]) := by
    decide +kernel
  have read₂ : (PkginfoRecord.parse "pkgsinfo/two" reorderedVersionTwo).toOption.map
      (fun r => (r.name, r.catalogs, r.constraints, r.uninstallMethod, r.receipts)) =
      some ("T", ["a", "b"], ⟨none, none, [], none⟩, some "removepackages", ["p", "q"]) := by
    decide +kernel
  rcases h₁ : PkginfoRecord.parse "pkgsinfo/one" reorderedVersionOne with e₁ | r₁
  · simp [h₁, Except.toOption] at read₁
  rcases h₂ : PkginfoRecord.parse "pkgsinfo/two" reorderedVersionTwo with e₂ | r₂
  · simp [h₂, Except.toOption] at read₂
  simp only [h₁, h₂, Except.toOption, Option.map_some, Option.some.injEq, Prod.mk.injEq] at read₁ read₂
  obtain ⟨name₁, catalogs₁, constraints₁, method₁, receipts₁⟩ := read₁
  obtain ⟨name₂, catalogs₂, constraints₂, method₂, receipts₂⟩ := read₂
  refine ⟨r₁, r₂, rfl, rfl, (signature_eq_iff_same_variant h₁ h₂).2 ⟨?_, ?_, ?_, ?_, ?_, ?_, ?_⟩⟩
  · rw [name₁, name₂]
  · simp [catalogs₁, catalogs₂, or_comm]
  · rw [constraints₁, constraints₂]
  · rw [constraints₁, constraints₂]
  · rw [constraints₁, constraints₂]
  · simp [constraints₁, constraints₂]
  · simp [method₁, method₂, receipts₁, receipts₂, or_comm]

end Depot
