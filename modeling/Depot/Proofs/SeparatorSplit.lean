import Depot.Proofs.HyphenSplit
import Depot.Proofs.Paths
import Mathlib

namespace Depot.Version

section Classes

theorem isAlnum_eq_isAlphanum (c : Char) : isAlnum c = c.isAlphanum := by
  simp only [isAlnum, Char.isAlphanum, Char.isAlpha, Char.isUpper, Char.isLower, isDigit_eq_isDigit]
  rw [Bool.eq_iff_iff]
  simp only [Bool.or_eq_true, Bool.and_eq_true, decide_eq_true_eq, Char.le_def, ge_iff_le]
  tauto

theorem isSeparator_iff {c : Char} : isSeparator c = true ↔ c ∈ ['-', ' ', '_', '.'] := by
  simp [isSeparator, or_assoc]

theorem isSeparator_eq_false_iff {c : Char} : isSeparator c = false ↔ c ∉ ['-', ' ', '_', '.'] := by
  rw [← isSeparator_iff, Bool.not_eq_true]

end Classes

section Token

def VersionToken (cs : List Char) : Prop :=
  (∃ d rest, cs = d :: rest ∧ d.isDigit) ∧ (∀ c ∈ cs, c.isAlphanum ∨ c = '.') ∧
    ∀ g ∈ cs.splitOn '.', g ≠ []

theorem startsWithDigit_iff_cons {cs : List Char} :
    startsWithDigit cs = true ↔ ∃ d rest, cs = d :: rest ∧ d.isDigit := by
  cases cs with
  | nil => simp [startsWithDigit]
  | cons c rest => simp [startsWithDigit, isDigit_eq_isDigit]

theorem groups_alnum_iff {cs : List Char} :
    (∀ g ∈ cs.splitOn '.', ∀ c ∈ g, isAlnum c = true) ↔ ∀ c ∈ cs, c.isAlphanum ∨ c = '.' := by
  constructor
  · intro hgroups c hc
    by_cases hdot : c = '.'
    · exact .inr hdot
    · obtain ⟨g, hg, hcg⟩ := (List.mem_splitOn_iff hdot).1 hc
      exact .inl (isAlnum_eq_isAlphanum c ▸ hgroups g hg c hcg)
  · intro hchars g hg c hcg
    -- a group holds no dot, and its characters are characters of the text
    have hdot : c ≠ '.' := fun e => List.not_mem_of_mem_splitOn hg (e ▸ hcg)
    rcases hchars c ((List.mem_splitOn_iff hdot).2 ⟨g, hg, hcg⟩) with halnum | e
    · rwa [isAlnum_eq_isAlphanum]
    · exact absurd e hdot

theorem isToken_iff {cs : List Char} : isToken cs = true ↔ VersionToken cs := by
  unfold isToken VersionToken
  rw [Bool.and_eq_true, startsWithDigit_iff_cons, List.all_eq_true, ← groups_alnum_iff]
  simp only [Bool.and_eq_true, Bool.not_eq_true', List.isEmpty_eq_false_iff, List.all_eq_true]
  constructor
  · rintro ⟨hstart, hgroups⟩
    exact ⟨hstart, fun g hg => (hgroups g hg).2, fun g hg => (hgroups g hg).1⟩
  · rintro ⟨hstart, halnum, hne⟩
    exact ⟨hstart, fun g hg => ⟨hne g hg, halnum g hg⟩⟩

end Token

section Runs

structure RunCut (cs name run version : List Char) : Prop where
  parts : cs = name ++ run ++ version
  name_ne : name ≠ []
  run_ne : run ≠ []
  run_sep : ∀ c ∈ run, c ∈ ['-', ' ', '_', '.']
  name_end : ∀ c ∈ name.getLast?, c ∉ ['-', ' ', '_', '.']
  version_start : ∀ c ∈ version.head?, c ∉ ['-', ' ', '_', '.']

def LooseSplit (cs name version : List Char) : Prop :=
  (∃ run, RunCut cs name run version ∧ VersionToken version ∧
      ∀ n r v, RunCut cs n r v → n.length < name.length → ¬VersionToken v) ∨
    ((∀ n r v, RunCut cs n r v → ¬VersionToken v) ∧ name = cs ∧ version = [])

variable {cs pre name run version n r v : List Char}

theorem RunCut.tail_eq (h : RunCut cs name run version) :
    run = (run ++ version).takeWhile isSeparator ∧ version = (run ++ version).dropWhile isSeparator := by
  have hrun : ∀ c ∈ run, isSeparator c = true := fun c hc => isSeparator_iff.2 (h.run_sep c hc)
  rw [List.takeWhile_append_of_pos hrun, List.dropWhile_append_of_pos hrun]
  cases hv : version with
  | nil => simp
  | cons c rest =>
    have hc : isSeparator c = false := isSeparator_eq_false_iff.2 (h.version_start c (by simp [hv]))
    simp [hc]

theorem RunCut.of_prefix (h : RunCut (pre ++ rest) n r v) (hlen : n.length = pre.length) :
    n = pre ∧ r ++ v = rest := by
  have parts : n ++ (r ++ v) = pre ++ rest := by rw [← List.append_assoc, ← h.parts]
  exact List.append_inj parts hlen

theorem RunCut.eq_of_length (h₁ : RunCut cs name run version) (h₂ : RunCut cs n r v)
    (hlen : n.length = name.length) : n = name ∧ version = v := by
  rw [h₁.parts, List.append_assoc] at h₂
  obtain ⟨rfl, htail⟩ := h₂.of_prefix hlen
  refine ⟨rfl, ?_⟩
  rw [h₁.tail_eq.2, h₂.tail_eq.2, htail]

theorem runCut_at {before rest : List Char} {c : Char} (hc : isSeparator c = true)
    (hname : before.dropWhile isSeparator ≠ []) :
    RunCut (before.reverse ++ c :: rest) (before.dropWhile isSeparator).reverse
      ((before.takeWhile isSeparator).reverse ++ c :: rest.takeWhile isSeparator)
      (rest.dropWhile isSeparator) where
  parts := by
    calc before.reverse ++ c :: rest
        = (before.takeWhile isSeparator ++ before.dropWhile isSeparator).reverse ++
            c :: (rest.takeWhile isSeparator ++ rest.dropWhile isSeparator) := by
          rw [List.takeWhile_append_dropWhile, List.takeWhile_append_dropWhile]
      _ = _ := by simp only [List.reverse_append, List.append_assoc, List.cons_append]
  name_ne := by simpa using hname
  run_ne := by simp
  run_sep := by
    intro d hd
    rw [← isSeparator_iff]
    simp only [List.mem_append, List.mem_reverse, List.mem_cons] at hd
    rcases hd with hd | rfl | hd
    · exact List.mem_takeWhile_imp hd
    · exact hc
    · exact List.mem_takeWhile_imp hd
  name_end := by
    intro d hd
    rw [List.getLast?_reverse] at hd
    -- the name ends with the first character passed that is no separator
    have hhead := List.head?_dropWhile_not isSeparator before
    rw [Option.mem_def.1 hd] at hhead
    exact isSeparator_eq_false_iff.1 hhead
  version_start := by
    intro d hd
    have hhead := List.head?_dropWhile_not isSeparator rest
    rw [Option.mem_def.1 hd] at hhead
    exact isSeparator_eq_false_iff.1 hhead

end Runs

section Search

def NoTokenBefore (cs : List Char) (k : Nat) : Prop :=
  ∀ n r v, RunCut cs n r v → n.length < k → ¬VersionToken v

variable {pre rest : List Char} {c : Char}

-- The search passes a character: the only new cut to rule out is the one right there.
theorem NoTokenBefore.pass {whole before : List Char} (hwhole : whole = before.reverse ++ c :: rest)
    (hno : NoTokenBefore whole before.length)
    (hat : ∀ r v, RunCut (before.reverse ++ c :: rest) before.reverse r v → ¬VersionToken v) :
    NoTokenBefore whole (c :: before).length := by
  intro n r v hcut hlen
  rcases Nat.lt_succ_iff_lt_or_eq.1 hlen with hlt | heq
  · exact hno n r v hcut hlt
  · rw [hwhole] at hcut
    obtain ⟨rfl, -⟩ := hcut.of_prefix (by rw [heq, List.length_reverse])
    exact hat r v hcut

theorem no_cut_at_non_separator (hc : isSeparator c = false) :
    ∀ r v, RunCut (pre ++ c :: rest) pre r v → ¬VersionToken v := by
  intro r v hcut
  obtain ⟨-, htail⟩ := hcut.of_prefix rfl
  obtain ⟨d, ds, rfl⟩ := List.exists_cons_of_ne_nil hcut.run_ne
  obtain ⟨rfl, -⟩ := List.cons.inj htail
  have := isSeparator_iff.2 (hcut.run_sep d List.mem_cons_self)
  rw [hc] at this
  cases this

theorem cut_at_separator {before : List Char} (hc : isSeparator c = true)
    (hcut : RunCut (before.reverse ++ c :: rest) before.reverse r v) :
    (before.dropWhile isSeparator).reverse = before.reverse ∧ v = rest.dropWhile isSeparator := by
  constructor
  · -- the name ends in no separator, so nothing is dropped from the characters passed
    obtain ⟨b, bs, rfl⟩ := List.exists_cons_of_ne_nil (List.reverse_ne_nil_iff.1 hcut.name_ne)
    have hb : isSeparator b = false := isSeparator_eq_false_iff.2 (hcut.name_end b (by simp))
    rw [List.dropWhile_cons_of_neg (by simp [hb])]
  · obtain ⟨-, htail⟩ := hcut.of_prefix rfl
    rw [hcut.tail_eq.2, htail, List.dropWhile_cons_of_pos hc]

-- The search from a state: `before` holds the characters passed, nearest first, and no cut
-- with a shorter name than theirs has a version token after it.
theorem splitLooseFrom_spec (whole : List Char) :
    ∀ (before rest : List Char), whole = before.reverse ++ rest → NoTokenBefore whole before.length →
      LooseSplit whole (splitLooseFrom whole before rest).1 (splitLooseFrom whole before rest).2
  | before, [], hwhole, hno => by
    -- every cut has a shorter name than the whole text, so none qualifies
    refine .inr ⟨fun n r v hcut => hno n r v hcut ?_, rfl, rfl⟩
    have hlen := congrArg List.length hcut.parts
    have hrun := List.length_pos_of_ne_nil hcut.run_ne
    simp only [hwhole, List.append_nil, List.length_reverse, List.length_append] at hlen
    omega
  | before, c :: rest, hwhole, hno => by
    have hnext : whole = (c :: before).reverse ++ rest := by simp [hwhole]
    by_cases hc : isSeparator c = true
    · by_cases hit : (!(before.dropWhile isSeparator).reverse.isEmpty && isToken (rest.dropWhile isSeparator)) = true
      · -- the cut at this separator qualifies, and every earlier one was ruled out
        rw [splitLooseFrom, if_pos hc]
        dsimp only
        rw [if_pos hit]
        rw [Bool.and_eq_true, Bool.not_eq_true', List.isEmpty_eq_false_iff, List.reverse_ne_nil_iff] at hit
        refine .inl ⟨_, hwhole ▸ runCut_at hc hit.1, isToken_iff.1 hit.2, fun n r v hcut hlen => hno n r v hcut ?_⟩
        rw [List.length_reverse] at hlen
        exact lt_of_lt_of_le hlen (List.length_dropWhile_le _ _)
      · -- the cut here has no version token: the search goes on
        rw [splitLooseFrom, if_pos hc]
        dsimp only
        rw [if_neg hit]
        refine splitLooseFrom_spec whole (c :: before) rest hnext (hno.pass hwhole fun r v hcut hv => hit ?_)
        obtain ⟨hname, rfl⟩ := cut_at_separator hc hcut
        rw [hname, isToken_iff.2 hv, Bool.and_true, Bool.not_eq_true', List.isEmpty_eq_false_iff]
        exact hcut.name_ne
    · rw [splitLooseFrom, if_neg hc]
      exact splitLooseFrom_spec whole (c :: before) rest hnext
        (hno.pass hwhole (no_cut_at_non_separator (by simpa using hc)))

theorem LooseSplit.unique {n₁ v₁ n₂ v₂ : List Char} (h₁ : LooseSplit cs n₁ v₁) (h₂ : LooseSplit cs n₂ v₂) :
    n₁ = n₂ ∧ v₁ = v₂ := by
  rcases h₁ with ⟨r₁, cut₁, token₁, first₁⟩ | ⟨none₁, rfl, rfl⟩ <;>
    rcases h₂ with ⟨r₂, cut₂, token₂, first₂⟩ | ⟨none₂, rfl, rfl⟩
  · -- neither cut comes before the other
    have hlen : n₂.length = n₁.length := by
      by_contra hne
      rcases Nat.lt_or_gt_of_ne hne with hlt | hgt
      · exact first₁ n₂ r₂ v₂ cut₂ hlt token₂
      · exact first₂ n₁ r₁ v₁ cut₁ hgt token₁
    obtain ⟨rfl, rfl⟩ := cut₁.eq_of_length cut₂ hlen
    exact ⟨rfl, rfl⟩
  · exact absurd token₁ (none₂ n₁ r₁ v₁ cut₁)
  · exact absurd token₂ (none₁ n₂ r₂ v₂ cut₂)
  · exact ⟨rfl, rfl⟩

end Search

theorem split_loose_leftmost_token (s name version : String) :
    split s false = (name, version) ↔ LooseSplit s.toList name.toList version.toList := by
  have found := splitLooseFrom_spec s.toList [] s.toList rfl fun _ _ _ _ h => absurd h (Nat.not_lt_zero _)
  have loose : split s false =
      (String.ofList (splitLooseChars s.toList).1, String.ofList (splitLooseChars s.toList).2) := rfl
  rw [loose, Prod.mk.injEq]
  constructor
  · rintro ⟨rfl, rfl⟩
    simp only [String.toList_ofList]
    exact found
  · intro h
    obtain ⟨hname, hversion⟩ := h.unique found
    rw [← String.ofList_toList (s := name), ← String.ofList_toList (s := version), hname, hversion]
    exact ⟨rfl, rfl⟩

example : split "Python 3.11 Installer-3.11.4" false = ("Python 3.11 Installer", "3.11.4") := by
  decide +kernel

end Depot.Version
