import Depot.Version.Split
import Mathlib.Data.List.Infix

namespace Depot.Version

variable {d cs a b n v : List Char}

theorem isDigit_eq_isDigit (c : Char) : isDigit c = c.isDigit := by
  simp [isDigit, Char.isDigit, Char.le_def]

theorem isDigit_hyphen : isDigit '-' = false := by decide

section Cut

theorem cutLast_eq_none_iff (hd : d ≠ []) : cutLast d cs = none ↔ ¬d <:+: cs := by
  induction cs with
  | nil => simpa [cutLast] using hd
  | cons c r ih =>
    simp only [cutLast]
    split
    · -- an occurrence further on
      rename_i a b h
      have : d <:+: r := by simpa [h] using ih.not
      simpa using List.infix_cons_iff.2 (.inr this)
    · rename_i h
      have hr : ¬d <:+: r := ih.1 h
      rw [List.infix_cons_iff, ← List.isPrefixOf_iff_prefix]
      split <;> simp_all

-- The cut at the last occurrence: what follows the delimiter, the delimiter's own tail
-- included, holds no further occurrence.
theorem cutLast_eq_some_iff (hd : d ≠ []) :
    cutLast d cs = some (a, b) ↔ cs = a ++ d ++ b ∧ ¬d <:+: (d ++ b).tail := by
  induction cs generalizing a b with
  | nil => simp [cutLast, hd]
  | cons c r ih =>
    simp only [cutLast]
    split
    · -- the last occurrence lies in the tail
      rename_i a' b' h
      obtain ⟨hr, hlast⟩ := ih.1 h
      simp only [Option.some.injEq, Prod.mk.injEq]
      constructor
      · rintro ⟨rfl, rfl⟩
        exact ⟨by simp [hr], hlast⟩
      · rintro ⟨hcs, hno⟩
        cases a with
        | nil =>
          have : r = (d ++ b).tail := by simpa using congrArg List.tail hcs
          exact absurd (this ▸ hr ▸ List.infix_append a' d b') hno
        | cons x a'' =>
          obtain ⟨rfl, hr'⟩ : c = x ∧ r = a'' ++ d ++ b := by simpa using hcs
          obtain ⟨rfl, rfl⟩ := Prod.mk.inj (Option.some.inj (h.symm.trans (ih.2 ⟨hr', hno⟩)))
          exact ⟨rfl, rfl⟩
    · -- no occurrence in the tail: only a prefix can be cut
      rename_i h
      have hr : ¬d <:+: r := (cutLast_eq_none_iff hd).1 h
      constructor
      · intro hcut
        split at hcut
        · rename_i hp
          obtain ⟨t, ht⟩ := List.isPrefixOf_iff_prefix.1 hp
          have hb : (c :: r).drop d.length = t := by rw [← ht, List.drop_left]
          obtain ⟨rfl, rfl⟩ := Prod.mk.inj (Option.some.inj hcut).symm
          rw [hb, ← ht]
          refine ⟨by simp, ?_⟩
          have hrt : (d ++ t).tail = r := by simpa using congrArg List.tail ht
          rwa [hrt]
        · cases hcut
      · rintro ⟨hcs, hno⟩
        cases a with
        | nil => simp [hcs]
        | cons x a'' =>
          have hr' : r = a'' ++ d ++ b := by simpa using (List.cons.inj hcs).2
          exact absurd (hr' ▸ List.infix_append a'' d b) hr

-- The cut at the last `d`, kept when a digit follows it.
def cutBeforeDigit (d cs : List Char) : Option (List Char × List Char) :=
  (cutLast d cs).filter fun p => startsWithDigit p.2

theorem cutBeforeDigit_eq_some_iff :
    cutBeforeDigit d cs = some (n, v) ↔ cutLast d cs = some (n, v) ∧ startsWithDigit v = true := by
  simp [cutBeforeDigit, Option.filter_eq_some_iff]

theorem splitStrictChars_eq (cs : List Char) :
    splitStrictChars cs = ((cutBeforeDigit ['-', '-'] cs).or (cutBeforeDigit ['-'] cs)).getD (cs, []) := by
  simp only [splitStrictChars, cutBeforeDigit]
  rcases cutLast ['-', '-'] cs with _ | ⟨n, v⟩ <;> rcases cutLast ['-'] cs with _ | ⟨n', v'⟩ <;>
    simp only [Option.filter] <;> (try split_ifs) <;> rfl

end Cut

section Strict

theorem splitStrictChars_sound (cs : List Char) :
    splitStrictChars cs = (cs, []) ∨ ∃ d ∈ [['-', '-'], ['-']],
      cs = (splitStrictChars cs).1 ++ d ++ (splitStrictChars cs).2 ∧
        startsWithDigit (splitStrictChars cs).2 = true := by
  rw [splitStrictChars_eq]
  rcases h₂ : cutBeforeDigit ['-', '-'] cs with _ | ⟨n, v⟩
  · rcases h₁ : cutBeforeDigit ['-'] cs with _ | ⟨n, v⟩
    · exact .inl rfl
    · -- a single hyphen before a digit
      obtain ⟨hcut, hv⟩ := cutBeforeDigit_eq_some_iff.1 h₁
      exact .inr ⟨['-'], by simp, ((cutLast_eq_some_iff (by simp)).1 hcut).1, hv⟩
  · -- a double hyphen before a digit
    obtain ⟨hcut, hv⟩ := cutBeforeDigit_eq_some_iff.1 h₂
    exact .inr ⟨['-', '-'], by simp, ((cutLast_eq_some_iff (by simp)).1 hcut).1, hv⟩

theorem splitStrictChars_double_hyphen (hv : startsWithDigit v = true) (hno : ¬['-', '-'] <:+: v) :
    splitStrictChars (n ++ ['-', '-'] ++ v) = (n, v) := by
  have hcut : cutLast ['-', '-'] (n ++ ['-', '-'] ++ v) = some (n, v) := by
    refine (cutLast_eq_some_iff (by simp)).2 ⟨rfl, fun h => ?_⟩
    -- after the cut only `-` and the version remain, and the version starts with a digit
    rcases List.infix_cons_iff.1 h with ⟨t, ht⟩ | h
    · obtain ⟨c, v', rfl⟩ := List.exists_cons_of_ne_nil (fun e : v = [] => by simp [e, startsWithDigit] at hv)
      obtain ⟨rfl, -⟩ : '-' = c ∧ t = v' := by simpa using ht
      simp [startsWithDigit, isDigit_hyphen] at hv
    · exact hno h
  rw [splitStrictChars_eq, cutBeforeDigit_eq_some_iff.2 ⟨hcut, hv⟩]
  rfl

-- A single hyphen before a hyphen-free version, in a name that neither ends in a hyphen nor has
-- a double hyphen before a digit, leaves no double hyphen before a digit.
theorem no_digit_after_double_hyphen {c : Char} (hc : isDigit c = true)
    (hv : '-' ∉ v) (hn : n.getLast? ≠ some '-') (hnd : ∀ c, isDigit c = true → ¬['-', '-', c] <:+: n)
    (h : n ++ '-' :: v = a ++ '-' :: '-' :: c :: b) : False := by
  rcases List.append_eq_append_iff.1 h with ⟨a', rfl, h'⟩ | ⟨c', rfl, h'⟩
  · -- the double hyphen would lie in the version
    exact hv (by rcases a' with _ | ⟨x, a'⟩ <;> simp_all)
  · rcases c' with _ | ⟨x, _ | ⟨y, _ | ⟨z, rest⟩⟩⟩
    · -- the version would start with a hyphen
      simp only [List.nil_append, List.cons.injEq, true_and] at h'
      exact hv (h' ▸ List.mem_cons_self)
    · -- the name would end with a hyphen
      simp only [List.cons_append, List.nil_append, List.cons.injEq] at h'
      obtain ⟨rfl, -⟩ := h'
      exact hn (by simp)
    · -- the digit would be the joining hyphen
      simp only [List.cons_append, List.nil_append, List.cons.injEq] at h'
      obtain ⟨-, -, rfl, -⟩ := h'
      simp [isDigit_hyphen] at hc
    · simp only [List.cons_append, List.cons.injEq] at h'
      obtain ⟨rfl, rfl, rfl, rfl⟩ := h'
      exact hnd _ hc ⟨a, rest, by simp⟩

theorem splitStrictChars_hyphen (hv : startsWithDigit v = true) (hnv : '-' ∉ v)
    (hn : n.getLast? ≠ some '-') (hnd : ∀ c, isDigit c = true → ¬['-', '-', c] <:+: n) :
    splitStrictChars (n ++ ['-'] ++ v) = (n, v) := by
  have hdouble : cutBeforeDigit ['-', '-'] (n ++ ['-'] ++ v) = none := by
    rw [cutBeforeDigit, Option.filter_eq_none_iff]
    rintro ⟨a, b⟩ hcut
    obtain ⟨hcs, -⟩ := (cutLast_eq_some_iff (by simp)).1 hcut
    -- a kept cut would put a digit right after a double hyphen
    cases b with
    | nil => simp [startsWithDigit]
    | cons c b =>
      simp only [startsWithDigit, Bool.not_eq_true]
      exact Bool.eq_false_iff.2 fun hc =>
        no_digit_after_double_hyphen hc hnv hn hnd (by simpa using hcs)
  have hsingle : cutLast ['-'] (n ++ ['-'] ++ v) = some (n, v) :=
    (cutLast_eq_some_iff (by simp)).2 ⟨rfl, by simpa [List.singleton_infix_iff] using hnv⟩
  rw [splitStrictChars_eq, hdouble, cutBeforeDigit_eq_some_iff.2 ⟨hsingle, hv⟩]
  rfl

end Strict

section Texts

variable {s name version : String}

theorem split_strict (s : String) :
    split s true = (String.ofList (splitStrictChars s.toList).1, String.ofList (splitStrictChars s.toList).2) :=
  rfl

theorem startsWithDigit_iff : startsWithDigit version.toList = true ↔ ∃ c ∈ version.toList.head?, c.isDigit := by
  cases version.toList with
  | nil => simp [startsWithDigit]
  | cons c cs => simp [startsWithDigit, isDigit_eq_isDigit]

-- Splitting at hyphens is sound, and it recovers a name and a version joined with a double
-- hyphen, or with a single one where the join cannot be read another way.
theorem split_hyphens_recovers_parts :
    (∀ s name version : String, split s true = (name, version) →
      version = "" ∧ name = s ∨ (∃ c ∈ version.toList.head?, c.isDigit) ∧
        (s = name ++ "--" ++ version ∨ s = name ++ "-" ++ version)) ∧
    (∀ name version : String, (∃ c ∈ version.toList.head?, c.isDigit) → ¬['-', '-'] <:+: version.toList →
      split (name ++ "--" ++ version) true = (name, version)) ∧
    (∀ name version : String, (∃ c ∈ version.toList.head?, c.isDigit) → '-' ∉ version.toList →
      name.toList.getLast? ≠ some '-' → (∀ c : Char, c.isDigit → ¬['-', '-', c] <:+: name.toList) →
      split (name ++ "-" ++ version) true = (name, version)) := by
  refine ⟨fun s name version h => ?_, fun name version hv hno => ?_, fun name version hv hnv hn hnd => ?_⟩
  · rw [split_strict, Prod.mk.injEq] at h
    obtain ⟨rfl, rfl⟩ := h
    rcases splitStrictChars_sound s.toList with hs | ⟨d, hd, hs, hv⟩
    · exact .inl ⟨by simp [hs], by simp [hs]⟩
    · refine .inr ⟨startsWithDigit_iff.1 (by simpa using hv), ?_⟩
      -- the reference is the two parts joined again
      simp only [List.mem_cons, List.not_mem_nil, or_false] at hd
      rcases hd with rfl | rfl
      · exact .inl (String.ext (by simpa using hs))
      · exact .inr (String.ext (by simpa using hs))
  · have h := splitStrictChars_double_hyphen (n := name.toList) (startsWithDigit_iff.2 hv) hno
    have joined : (name ++ "--" ++ version).toList = name.toList ++ ['-', '-'] ++ version.toList := by simp
    rw [split_strict, joined, h]
    simp
  · have hnd' : ∀ c, isDigit c = true → ¬['-', '-', c] <:+: name.toList := fun c hc =>
      hnd c (by rwa [← isDigit_eq_isDigit])
    have h := splitStrictChars_hyphen (n := name.toList) (startsWithDigit_iff.2 hv) hnv hn hnd'
    have joined : (name ++ "-" ++ version).toList = name.toList ++ ['-'] ++ version.toList := by simp
    rw [split_strict, joined, h]
    simp

-- The documented joins: a version holding a hyphen after a double hyphen, and a name holding a
-- hyphen before a single one.
theorem split_hyphens_recovers_documented_joins :
    ((∃ c ∈ "2.0-1".toList.head?, c.isDigit) ∧ ¬['-', '-'] <:+: "2.0-1".toList ∧
      split ("Baz" ++ "--" ++ "2.0-1") true = ("Baz", "2.0-1")) ∧
    ((∃ c ∈ "1.0".toList.head?, c.isDigit) ∧ '-' ∉ "1.0".toList ∧
      "Rosetta-Thing".toList.getLast? ≠ some '-' ∧
      (∀ c : Char, c.isDigit → ¬['-', '-', c] <:+: "Rosetta-Thing".toList) ∧
      split ("Rosetta-Thing" ++ "-" ++ "1.0") true = ("Rosetta-Thing", "1.0")) := by
  have digit₁ : ∃ c ∈ "2.0-1".toList.head?, c.isDigit := ⟨'2', by simp, by simp⟩
  have single : ¬['-', '-'] <:+: "2.0-1".toList := by simp [List.infix_cons_iff]
  have digit₂ : ∃ c ∈ "1.0".toList.head?, c.isDigit := ⟨'1', by simp, by simp⟩
  have free : '-' ∉ "1.0".toList := by simp
  have last : "Rosetta-Thing".toList.getLast? ≠ some '-' := by simp
  have apart : ∀ c : Char, c.isDigit → ¬['-', '-', c] <:+: "Rosetta-Thing".toList := fun c _ => by
    simp [List.infix_cons_iff]
  exact ⟨⟨digit₁, single, split_hyphens_recovers_parts.2.1 _ _ digit₁ single⟩,
    ⟨digit₂, free, last, apart, split_hyphens_recovers_parts.2.2 _ _ digit₂ free last apart⟩⟩

end Texts

end Depot.Version
