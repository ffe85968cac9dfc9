import Mathlib
import Depot.Version.Order

namespace Depot.Version

open Std

section Layers

theorem compareTexts_eq : ∀ a b : List Char, compareTexts a b = compare a b
  | [], [] => rfl
  | [], _ :: _ => rfl
  | _ :: _, [] => rfl
  | x :: xs, y :: ys => by
    rw [compareTexts, compareTexts_eq xs ys, List.compare_cons_cons]

theorem compareNumbers_eq_compareLex :
    compareNumbers = compareLex (compareOn fun a : List Char => (a.dropWhile (· == '0')).length)
      (compareOn fun a : List Char => a.dropWhile (· == '0')) := by
  funext a b
  simp only [compareNumbers, compareLex, compareOn, compareTexts_eq]

instance : TransCmp compareNumbers := by
  rw [compareNumbers_eq_compareLex]; infer_instance

instance : OrientedCmp Run.compare where
  eq_swap {a b} := by
    cases a <;> cases b <;> simp only [Run.compare, compareTexts_eq]
    case number.number => exact OrientedCmp.eq_swap
    case text.text => exact OrientedCmp.eq_swap
    all_goals rfl

instance : TransCmp Run.compare where
  isLE_trans {a b c} hab hbc := by
    cases a <;> cases b <;> cases c <;> simp only [Run.compare, compareTexts_eq] at hab hbc ⊢
    case number.number.number => exact TransCmp.isLE_trans hab hbc
    case text.text.text => exact TransCmp.isLE_trans hab hbc
    -- a chain through both kinds is settled by the kinds alone: text below number
    all_goals simp_all

theorem compareSuffixes_eq : ∀ a b : List Run, compareSuffixes a b = List.compareLex Run.compare a b
  | [], [] => rfl
  | [], _ :: _ => rfl
  | _ :: _, [] => rfl
  | x :: xs, y :: ys => by
    rw [compareSuffixes, compareSuffixes_eq xs ys, List.compareLex_cons_cons]

structure Numeral where
  digits : List Char

instance : Ord Numeral := ⟨fun a b => compareNumbers a.digits b.digits⟩

theorem compareNumbers_self (a : List Char) : compareNumbers a a = .eq := ReflCmp.compare_self

instance : TransOrd Numeral where
  eq_swap {a b} := (OrientedCmp.eq_swap : compareNumbers a.digits b.digits = _)
  isLE_trans {a _ c} h₁ h₂ :=
    (TransCmp.isLE_trans h₁ h₂ : (compareNumbers a.digits c.digits).isLE)

instance : Ord Run := ⟨Run.compare⟩

instance : TransOrd Run where
  eq_swap {a b} := (OrientedCmp.eq_swap : Run.compare a b = _)
  isLE_trans {a _ c} h₁ h₂ := (TransCmp.isLE_trans h₁ h₂ : (Run.compare a c).isLE)

theorem Component.compare_eq_compareLex :
    Component.compare = compareLex (compareOn fun x : Component => x.number.map Numeral.mk)
      (compareLex (compareOn fun x : Component => x.suffix.isEmpty) (compareOn Component.suffix)) := by
  funext x y
  obtain ⟨n, s⟩ := x
  obtain ⟨m, t⟩ := y
  cases n <;> cases m <;> cases s <;> cases t <;>
    simp only [Component.compare, compareLex, compareOn, compareSuffixes_eq] <;> rfl

instance : TransCmp Component.compare := by
  rw [Component.compare_eq_compareLex]; infer_instance

theorem Component.compare_self (x : Component) : x.compare x = .eq := ReflCmp.compare_self

end Layers

section Padding

@[simp] theorem rightpad_succ_cons {α : Type} (n : Nat) (a x : α) (xs : List α) :
    (x :: xs).rightpad (n + 1) a = x :: xs.rightpad n a := by
  simp [List.rightpad]

@[simp] theorem rightpad_succ_nil {α : Type} (n : Nat) (a : α) :
    ([] : List α).rightpad (n + 1) a = a :: ([] : List α).rightpad n a := by
  simp [List.rightpad, List.replicate_succ]

theorem exists_eq_succ_of_length_cons_le {α : Type} {x : α} {xs : List α} {n : Nat}
    (h : (x :: xs).length ≤ n) : ∃ m, n = m + 1 ∧ xs.length ≤ m := by
  rw [List.length_cons] at h
  exact ⟨n - 1, by omega, by omega⟩

-- Component lists compare as equally long lists, padded with zero components; padding both
-- further changes nothing.
theorem compareComponents_eq_rightpad {xs ys : List Component} {n : Nat}
    (hx : xs.length ≤ n) (hy : ys.length ≤ n) :
    compareComponents xs ys =
      List.compareLex Component.compare (xs.rightpad n .zero) (ys.rightpad n .zero) := by
  fun_induction compareComponents xs ys generalizing n with
  | case1 => exact (ReflCmp.compare_self : List.compareLex Component.compare _ _ = .eq).symm
  | case2 x xs ih =>
    -- the missing component on the right is the padding
    obtain ⟨m, rfl, hm⟩ := exists_eq_succ_of_length_cons_le hx
    rw [rightpad_succ_cons, rightpad_succ_nil, List.compareLex_cons_cons, ih hm (Nat.zero_le m)]
  | case3 y ys ih =>
    obtain ⟨m, rfl, hm⟩ := exists_eq_succ_of_length_cons_le hy
    rw [rightpad_succ_cons, rightpad_succ_nil, List.compareLex_cons_cons, ih (Nat.zero_le m) hm]
  | case4 x xs y ys ih =>
    obtain ⟨m, rfl, hm⟩ := exists_eq_succ_of_length_cons_le hx
    rw [rightpad_succ_cons, rightpad_succ_cons, List.compareLex_cons_cons,
      ih hm (Nat.le_of_succ_le_succ hy)]

instance : OrientedCmp compareComponents where
  eq_swap {xs ys} := by
    rw [compareComponents_eq_rightpad (Nat.le_max_left xs.length ys.length) (Nat.le_max_right ..),
      compareComponents_eq_rightpad (Nat.le_max_right xs.length ys.length) (Nat.le_max_left ..)]
    exact OrientedCmp.eq_swap

instance : TransCmp compareComponents where
  isLE_trans {xs ys zs} h₁ h₂ := by
    -- pad all three to the longest
    have hx : xs.length ≤ max xs.length (max ys.length zs.length) := by omega
    have hy : ys.length ≤ max xs.length (max ys.length zs.length) := by omega
    have hz : zs.length ≤ max xs.length (max ys.length zs.length) := by omega
    rw [compareComponents_eq_rightpad hx hy] at h₁
    rw [compareComponents_eq_rightpad hy hz] at h₂
    rw [compareComponents_eq_rightpad hx hz]
    exact TransCmp.isLE_trans h₁ h₂

instance : TransCmp compareVersions where
  eq_swap {a b} := (OrientedCmp.eq_swap : compareComponents (components a) (components b) = _)
  isLE_trans {a _ c} h₁ h₂ :=
    (TransCmp.isLE_trans h₁ h₂ : (compareComponents (components a) (components c)).isLE)

theorem compareVersions_swap (a b : String) : compareVersions a b = (compareVersions b a).swap :=
  OrientedCmp.eq_swap

end Padding

section Sorting

theorem compareVersions_ne_lt_iff {a b : String} :
    compareVersions a b ≠ .lt ↔ (compareVersions b a).isLE := by
  rw [compareVersions_swap a b]
  cases compareVersions b a <;> simp

theorem notOlder_trans (a b c : String) (hab : (compareVersions a b != .lt) = true)
    (hbc : (compareVersions b c != .lt) = true) : (compareVersions a c != .lt) = true := by
  simp only [bne_iff_ne, ne_eq, compareVersions_ne_lt_iff] at hab hbc ⊢
  exact TransCmp.isLE_trans hbc hab

theorem notOlder_total (a b : String) :
    ((compareVersions a b != .lt) || (compareVersions b a != .lt)) = true := by
  rw [Bool.or_eq_true, bne_iff_ne, bne_iff_ne]
  by_cases h : compareVersions a b = .lt
  · exact .inr (by simp [compareVersions_swap b a, h])
  · exact .inl h

theorem sortNewestFirst_pairwise (vs : List String) :
    (sortNewestFirst vs).Pairwise fun a b => compareVersions a b ≠ .lt := by
  simpa [sortNewestFirst] using List.pairwise_mergeSort notOlder_trans notOlder_total vs

-- Versions that compare equal keep their order: those equal to `v` are already sorted among
-- themselves, so the stable sort leaves them as a sublist in input order.
theorem filter_sortNewestFirst (vs : List String) (v : String) :
    (sortNewestFirst vs).filter (fun w => compareVersions w v == .eq) =
      vs.filter fun w => compareVersions w v == .eq := by
  have alike : (vs.filter fun w => compareVersions w v == .eq).Pairwise
      fun a b => (compareVersions a b != .lt) = true := by
    refine List.pairwise_of_forall_mem_list fun a ha b hb => ?_
    simp only [List.mem_filter, beq_iff_eq] at ha hb
    have hab : compareVersions a b = .eq :=
      TransCmp.eq_trans ha.2 (OrientedCmp.eq_comm.mp hb.2)
    simp [hab]
  have sub := (List.sublist_mergeSort notOlder_trans notOlder_total alike List.filter_sublist).filter
    fun w => compareVersions w v == .eq
  simp only [List.filter_filter, Bool.and_self] at sub
  have len := ((List.mergeSort_perm vs fun a b => compareVersions a b != .lt).filter
    fun w => compareVersions w v == .eq).length_eq
  exact (sub.eq_of_length len.symm).symm

-- The order on versions is a total preorder on all texts, and sorting newest first lists the
-- versions in non-increasing order, versions that compare equal in the order given.
theorem compareVersions_total_preorder (a b c v : String) (vs : List String) :
    compareVersions a a = .eq ∧
    compareVersions a b = (compareVersions b a).swap ∧
    (compareVersions a b ≠ .gt → compareVersions b c ≠ .gt → compareVersions a c ≠ .gt) ∧
    (compareVersions a b = .eq → compareVersions b c = .eq → compareVersions a c = .eq) ∧
    (sortNewestFirst vs).Perm vs ∧
    (sortNewestFirst vs).Pairwise (fun x y => compareVersions x y ≠ .lt) ∧
    (sortNewestFirst vs).filter (fun w => compareVersions w v == .eq) =
      vs.filter fun w => compareVersions w v == .eq := by
  refine ⟨ReflCmp.compare_self, OrientedCmp.eq_swap, fun hab hbc => ?_, TransCmp.eq_trans,
    List.mergeSort_perm _ _, sortNewestFirst_pairwise vs, filter_sortNewestFirst vs v⟩
  rw [Ne, Ordering.ne_gt_iff_isLE] at hab hbc ⊢
  exact TransCmp.isLE_trans hab hbc

end Sorting

section Numerals

theorem isDigit_eq (c : Char) : isDigit c = c.isDigit := rfl

theorem digitsValue_cons (c : Char) (r : List Char) :
    digitsValue (c :: r) = (c.toNat - '0'.toNat) * 10 ^ r.length + digitsValue r := by
  -- Horner's rule from any starting value
  have horner : ∀ (n : Nat) (ds : List Char),
      ds.foldl (fun n c => 10 * n + (c.toNat - '0'.toNat)) n = n * 10 ^ ds.length + digitsValue ds := by
    intro n ds
    induction ds generalizing n with
    | nil => simp [digitsValue]
    | cons d ds ih =>
      simp only [digitsValue, List.foldl_cons, Nat.mul_zero, Nat.zero_add, List.length_cons] at ih ⊢
      rw [ih, ih (d.toNat - '0'.toNat), Nat.pow_succ]
      grind
  simpa [digitsValue] using horner (c.toNat - '0'.toNat) r

variable {a b : List Char}

theorem digit_lt_ten {c : Char} (h : isDigit c = true) : c.toNat - '0'.toNat < 10 := by
  rw [isDigit_eq, Char.isDigit_iff_toNat] at h
  simp only [Char.reduceToNat] at h ⊢
  omega

theorem compare_digits {c e : Char} (hc : isDigit c = true) (he : isDigit e = true) :
    compare c e = compare (c.toNat - '0'.toNat) (e.toNat - '0'.toNat) := by
  rw [isDigit_eq, Char.isDigit_iff_toNat] at hc he
  simp only [Char.reduceToNat] at hc he ⊢
  have lt : c < e ↔ c.toNat - 48 < e.toNat - 48 := by
    rw [Char.lt_def, UInt32.lt_iff_toNat_lt, Char.toNat_val, Char.toNat_val]
    omega
  have eq : c = e ↔ c.toNat - 48 = e.toNat - 48 := by
    rw [← Char.toNat_inj]
    omega
  simp only [compare, compareOfLessAndEq, lt, eq]

theorem digitsValue_lt (h : ∀ c ∈ a, isDigit c = true) : digitsValue a < 10 ^ a.length := by
  induction a with
  | nil => simp [digitsValue]
  | cons c r ih =>
    obtain ⟨hc, hr⟩ := List.forall_mem_cons.mp h
    have digit : c.toNat - '0'.toNat < 10 := digit_lt_ten hc
    have rest := ih hr
    rw [digitsValue_cons, List.length_cons, Nat.pow_succ]
    have : (c.toNat - '0'.toNat) * 10 ^ r.length ≤ 9 * 10 ^ r.length :=
      Nat.mul_le_mul_right _ (by omega)
    omega

theorem pow_le_digitsValue {c : Char} {r : List Char} (hc : isDigit c = true) (h0 : c ≠ '0') :
    10 ^ r.length ≤ digitsValue (c :: r) := by
  have pos : 1 ≤ c.toNat - '0'.toNat := by
    rw [isDigit_eq, Char.isDigit_iff_toNat] at hc
    have : c.toNat ≠ '0'.toNat := fun e => h0 (Char.toNat_inj.mp e)
    omega
  rw [digitsValue_cons]
  have := Nat.mul_le_mul_right (10 ^ r.length) pos
  omega

theorem digitsValue_dropWhile_zero (a : List Char) :
    digitsValue (a.dropWhile (· == '0')) = digitsValue a := by
  induction a with
  | nil => rfl
  | cons c r ih =>
    by_cases h : c = '0'
    · subst h
      rw [List.dropWhile_cons_of_pos (by decide), ih, digitsValue_cons]
      simp
    · rw [List.dropWhile_cons_of_neg (by simpa using h)]

-- Place value: the higher digit decides, and the lower only on a tie.
theorem compare_add_mul {x y x' y' B : Nat} (hy : y < B) (hy' : y' < B) :
    compare (x * B + y) (x' * B + y') = (compare x x').then (compare y y') := by
  rcases Nat.lt_trichotomy x x' with hx | rfl | hx
  · have : (x + 1) * B ≤ x' * B := Nat.mul_le_mul_right B hx
    rw [Nat.compare_eq_lt.mpr hx, Nat.compare_eq_lt.mpr (by rw [Nat.add_mul] at this; omega)]
    rfl
  · simp [Nat.compare_eq_ite_lt]
  · have : (x' + 1) * B ≤ x * B := Nat.mul_le_mul_right B hx
    rw [Nat.compare_eq_gt.mpr hx, Nat.compare_eq_gt.mpr (by rw [Nat.add_mul] at this; omega)]
    rfl

theorem compareTexts_of_length_eq (ha : ∀ c ∈ a, isDigit c = true)
    (hb : ∀ c ∈ b, isDigit c = true)
    (hl : a.length = b.length) : compareTexts a b = compare (digitsValue a) (digitsValue b) := by
  induction a generalizing b with
  | nil =>
    obtain rfl : b = [] := List.eq_nil_of_length_eq_zero hl.symm
    rfl
  | cons c r ih =>
    obtain ⟨e, t, rfl⟩ := List.exists_cons_of_length_eq_add_one hl.symm
    obtain ⟨hc, hr⟩ := List.forall_mem_cons.mp ha
    obtain ⟨he, ht⟩ := List.forall_mem_cons.mp hb
    have hrt : r.length = t.length := by simpa using hl
    -- the first digits weigh ten to the length of the rest, which is below that
    rw [compareTexts, compare_digits hc he, ih hr ht hrt, digitsValue_cons, digitsValue_cons, ← hrt,
      compare_add_mul (digitsValue_lt hr) (hrt ▸ digitsValue_lt ht)]

theorem digitsValue_lt_of_length_lt (ha : ∀ c ∈ a, isDigit c = true)
    (hb : ∀ c ∈ b, isDigit c = true)
    (lead : b.head? ≠ some '0') (hl : a.length < b.length) : digitsValue a < digitsValue b := by
  obtain ⟨e, t, rfl⟩ : ∃ e t, b = e :: t := List.exists_cons_of_length_pos (by omega)
  have shorter : a.length ≤ t.length := Nat.le_of_lt_succ (by simpa using hl)
  calc digitsValue a < 10 ^ a.length := digitsValue_lt ha
    _ ≤ 10 ^ t.length := Nat.pow_le_pow_right (by decide) shorter
    _ ≤ digitsValue (e :: t) := pow_le_digitsValue (hb e (by simp)) (by simpa using lead)

theorem isDigit_of_mem_dropWhile (ha : ∀ c ∈ a, isDigit c = true) :
    ∀ c ∈ a.dropWhile (· == '0'), isDigit c = true :=
  fun c hc => ha c ((List.dropWhile_suffix _).subset hc)

theorem head?_dropWhile_zero (a : List Char) : (a.dropWhile (· == '0')).head? ≠ some '0' := by
  intro h
  have := List.head?_dropWhile_not (· == '0') a
  simp [h] at this

-- Numbers compare as their values, however many digits and leading zeros they have: with the
-- leading zeros gone, the shorter is the smaller, and equally long ones compare digit by digit.
theorem compareNumbers_eq_compare_digitsValue (ha : ∀ c ∈ a, isDigit c = true)
    (hb : ∀ c ∈ b, isDigit c = true) :
    compareNumbers a b = compare (digitsValue a) (digitsValue b) := by
  have ha' := isDigit_of_mem_dropWhile ha
  have hb' := isDigit_of_mem_dropWhile hb
  rw [← digitsValue_dropWhile_zero a, ← digitsValue_dropWhile_zero b]
  simp only [compareNumbers]
  rcases Nat.lt_trichotomy (a.dropWhile (· == '0')).length (b.dropWhile (· == '0')).length
    with hl | hl | hl
  · rw [Nat.compare_eq_lt.mpr hl,
      Nat.compare_eq_lt.mpr (digitsValue_lt_of_length_lt ha' hb' (head?_dropWhile_zero b) hl)]
    rfl
  · rw [hl, Std.ReflOrd.compare_self, compareTexts_of_length_eq ha' hb' hl]
    rfl
  · rw [Nat.compare_eq_gt.mpr hl,
      Nat.compare_eq_gt.mpr (digitsValue_lt_of_length_lt hb' ha' (head?_dropWhile_zero a) hl)]
    rfl

end Numerals

section Components

theorem groups_cons (c : Char) (r : List Char) : ∃ g gs, groups (c :: r) = (c :: g) :: gs := by
  rw [groups]
  split
  · split
    · exact ⟨_, _, rfl⟩
    · exact ⟨[], _, rfl⟩
  · exact ⟨[], _, rfl⟩

theorem runs_ne_nil {t : List Char} (ht : t ≠ []) : runs t ≠ [] := by
  obtain ⟨e, t, rfl⟩ := List.exists_cons_of_ne_nil ht
  obtain ⟨g, gs, hg⟩ := groups_cons e t
  simp [runs, hg]

variable {d t : List Char}

theorem groups_digits_append (hd : d ≠ []) (digits : ∀ c ∈ d, isDigit c = true)
    (ht : ∀ e ∈ t.head?, isDigit e = false) : groups (d ++ t) = d :: groups t := by
  induction d with
  | nil => contradiction
  | cons c d ih =>
    have hc : isDigit c = true := digits c (by simp)
    cases d with
    | nil =>
      cases t with
      | nil => rfl
      | cons e t =>
        obtain ⟨g, gs, hg⟩ := groups_cons e t
        have he : isDigit e = false := ht e (by simp)
        simp only [List.cons_append, List.nil_append, groups] at hg ⊢
        rw [hg]
        simp [hc, he]
    | cons e d =>
      have he : isDigit e = true := digits e (by simp)
      rw [List.cons_append, groups, ih (by simp) fun x hx => digits x (by simp [hx])]
      simp [hc, he]

theorem runs_digits_append (hd : d ≠ []) (digits : ∀ c ∈ d, isDigit c = true)
    (ht : ∀ e ∈ t.head?, isDigit e = false) : runs (d ++ t) = .number d :: runs t := by
  obtain ⟨c, d', rfl⟩ := List.exists_cons_of_ne_nil hd
  have hc : isDigit c = true := digits c (by simp)
  rw [runs, groups_digits_append hd digits ht, List.map_cons]
  simp [startsWithDigit, hc, runs]

theorem ofChars_digits_append (hd : d ≠ []) (digits : ∀ c ∈ d, isDigit c = true)
    (ht : ∀ e ∈ t.head?, isDigit e = false) :
    Component.ofChars (d ++ t) = ⟨some d, runs t⟩ := by
  rw [Component.ofChars, runs_digits_append hd digits ht]

theorem ofChars_digits (hd : d ≠ []) (digits : ∀ c ∈ d, isDigit c = true) :
    Component.ofChars d = ⟨some d, []⟩ := by
  simpa [runs, groups] using ofChars_digits_append (t := []) hd digits (by simp)

theorem components_intercalate {xs : List String} (hne : xs ≠ [])
    (hdot : ∀ x ∈ xs, '.' ∉ x.toList) :
    components (".".intercalate xs) = xs.map fun x => Component.ofChars x.toList := by
  have dot : ".".toList = ['.'] := by simp
  rw [components, String.toList_intercalate, dot, List.splitOn_intercalate '.' (by simpa using hdot)
    (by simpa using hne), List.map_map]
  rfl

end Components

section DottedNumbers

def DottedNumber (xs : List String) : Prop :=
  xs ≠ [] ∧ ∀ x ∈ xs, x ≠ "" ∧ ∀ c ∈ x.toList, c.isDigit = true

theorem rightpad_map {α β : Type} (f : α → β) (n : Nat) (a : α) (l : List α) :
    (l.map f).rightpad n (f a) = (l.rightpad n a).map f := by
  simp [List.rightpad, List.map_replicate]

theorem compareLex_bareNumbers : ∀ {L₁ L₂ : List (List Char)},
    (∀ d ∈ L₁, ∀ c ∈ d, isDigit c = true) →
    (∀ d ∈ L₂, ∀ c ∈ d, isDigit c = true) →
    List.compareLex Component.compare (L₁.map fun d => ⟨some d, []⟩)
        (L₂.map fun d => ⟨some d, []⟩) =
      compare (L₁.map digitsValue) (L₂.map digitsValue)
  | [], [], _, _ => rfl
  | [], _ :: _, _, _ => rfl
  | _ :: _, [], _, _ => rfl
  | a :: L₁, b :: L₂, h₁, h₂ => by
    obtain ⟨ha, h₁⟩ := List.forall_mem_cons.mp h₁
    obtain ⟨hb, h₂⟩ := List.forall_mem_cons.mp h₂
    have head :
        Component.compare ⟨some a, []⟩ ⟨some b, []⟩ = compare (digitsValue a) (digitsValue b) := by
      rw [← compareNumbers_eq_compare_digitsValue ha hb]
      simp [Component.compare]
    rw [List.map_cons, List.map_cons, List.compareLex_cons_cons, List.map_cons, List.map_cons,
      List.compare_cons_cons, head, compareLex_bareNumbers h₁ h₂]

theorem DottedNumber.digits {xs : List String} (hx : DottedNumber xs) :
    ∀ d ∈ xs.map String.toList, d ≠ [] ∧ ∀ c ∈ d, isDigit c = true := by
  intro d hd
  obtain ⟨x, hx', rfl⟩ := List.mem_map.mp hd
  exact ⟨by simpa using (hx.2 x hx').1, (hx.2 x hx').2⟩

theorem not_dot_of_digits {d : List Char} (h : ∀ c ∈ d, isDigit c = true) : '.' ∉ d :=
  fun hd => absurd (h '.' hd) (by decide)

theorem components_dottedNumber {xs : List String} (hx : DottedNumber xs) :
    components (".".intercalate xs) = (xs.map String.toList).map fun d => ⟨some d, []⟩ := by
  have digits := hx.digits
  rw [components_intercalate hx.1 fun x hx' => not_dot_of_digits (digits _ (List.mem_map_of_mem hx')).2,
    List.map_map]
  exact List.map_congr_left fun x hx' =>
    ofChars_digits (digits _ (List.mem_map_of_mem hx')).1 (digits _ (List.mem_map_of_mem hx')).2

theorem compareVersions_intercalate_digits {xs ys : List String} (hx : DottedNumber xs)
    (hy : DottedNumber ys) :
    compareVersions (".".intercalate xs) (".".intercalate ys) =
      compare ((xs.map fun x => digitsValue x.toList).rightpad (max xs.length ys.length) 0)
        ((ys.map fun y => digitsValue y.toList).rightpad (max xs.length ys.length) 0) := by
  -- the padding component is the bare number 0, so both sides pad alike
  have pad : ∀ zs : List String,
      ((zs.map String.toList).map fun d => (⟨some d, []⟩ : Component)).rightpad
          (max xs.length ys.length) .zero =
        ((zs.map String.toList).rightpad (max xs.length ys.length) ['0']).map
          fun d => ⟨some d, []⟩ :=
    fun zs => rightpad_map _ _ ['0'] _
  have values : ∀ zs : List String,
      ((zs.map String.toList).rightpad (max xs.length ys.length) ['0']).map digitsValue =
        (zs.map fun z => digitsValue z.toList).rightpad (max xs.length ys.length) 0 := by
    intro zs
    rw [← rightpad_map, List.map_map]
    rfl
  have padded : ∀ {zs : List String}, DottedNumber zs → ∀ d ∈ (zs.map String.toList).rightpad
      (max xs.length ys.length) ['0'], ∀ c ∈ d, isDigit c = true := by
    intro zs hz d hd
    rcases List.mem_append.mp hd with hd | hd
    · exact (hz.digits d hd).2
    · rw [(List.mem_replicate.mp hd).2]
      simp [isDigit_eq]
  rw [compareVersions, components_dottedNumber hx, components_dottedNumber hy,
    compareComponents_eq_rightpad (n := max xs.length ys.length) (by simp only [List.length_map]; omega)
    (by simp only [List.length_map]; omega), pad, pad,
    compareLex_bareNumbers (padded hx) (padded hy), values, values]

theorem splitOn_append_of_not_mem {L S : List Char} (h : '.' ∉ L) :
    (L ++ S).splitOn '.' = (S.splitOn '.').modifyHead (L ++ ·) := by
  induction L with
  | nil =>
    rw [List.nil_append]
    cases S.splitOn '.' <;> simp
  | cons c L ih =>
    have hc : (c == '.') = false := by
      rw [beq_eq_false_iff_ne]
      rintro rfl
      exact h List.mem_cons_self
    rw [List.cons_append, List.splitOn_cons_eq_if_modifyHead, hc, if_neg Bool.false_ne_true,
      ih fun hL => h (List.mem_cons_of_mem _ hL), List.modifyHead_modifyHead]
    rfl

-- A tail that starts with neither a digit nor a dot: a pre-release mark such as `b2` or `-rc.1`.
theorem compareComponents_prerelease {c : Char} {r : List Char} (hc : isDigit c = false)
    (hdot : c ≠ '.') :
    ∀ {L : List (List Char)}, L ≠ [] →
      (∀ d ∈ L, d ≠ [] ∧ ∀ e ∈ d, isDigit e = true) →
      compareComponents (((['.'].intercalate L ++ c :: r).splitOn '.').map Component.ofChars)
        (((['.'].intercalate L).splitOn '.').map Component.ofChars) = .lt
  | [d], _, hL => by
    -- the last part takes the tail up to its first dot as a suffix
    obtain ⟨hd, digits⟩ := hL d (by simp)
    obtain ⟨h, tl, hsplit⟩ := List.exists_cons_of_ne_nil (List.splitOn_ne_nil '.' r)
    have tail : (c :: r).splitOn '.' = (c :: h) :: tl := by
      rw [List.splitOn_cons_eq_if_modifyHead, if_neg (by simpa using hdot), hsplit]
      rfl
    obtain ⟨run, runs', hruns⟩ := List.exists_cons_of_ne_nil (runs_ne_nil (List.cons_ne_nil c h))
    rw [List.intercalate_singleton, splitOn_append_of_not_mem (not_dot_of_digits digits), tail,
      List.splitOn_eq_singleton (not_dot_of_digits digits), List.modifyHead_cons, List.map_cons,
      List.map_singleton, ofChars_digits_append hd digits (by simpa using hc), ofChars_digits hd digits,
      hruns, compareComponents]
    simp [Component.compare, compareNumbers_self]
  | d :: d' :: L, _, hL => by
    -- the parts before the last compare equal
    have hd : '.' ∉ d := not_dot_of_digits (hL d (by simp)).2
    simp only [List.intercalate_cons_cons, List.append_assoc, List.cons_append]
    rw [List.splitOn_append_cons_self_of_not_mem hd, List.splitOn_append_cons_self_of_not_mem hd,
      List.map_cons, List.map_cons, compareComponents, Component.compare_self,
      Ordering.eq_then]
    exact compareComponents_prerelease hc hdot (List.cons_ne_nil d' L) fun e he => hL e (by simp [he])

theorem compareVersions_prerelease_lt {xs : List String} (hx : DottedNumber xs) {s : String}
    (hs : ∃ c r, s.toList = c :: r ∧ c.isDigit = false ∧ c ≠ '.') :
    compareVersions (".".intercalate xs ++ s) (".".intercalate xs) = .lt := by
  obtain ⟨c, r, hcr, hc, hdot⟩ := hs
  have dot : ".".toList = ['.'] := by simp
  rw [compareVersions, components, components, String.toList_append, String.toList_intercalate,
    dot, hcr]
  exact compareComponents_prerelease hc hdot (by simpa using hx.1) hx.digits

-- Dotted numbers compare as the lists of their values padded with zeros, however many digits
-- they have; and a release ranks above itself followed by a pre-release mark.
theorem compareVersions_dotted_numbers {xs ys : List String} (hx : DottedNumber xs) (hy : DottedNumber ys)
    {s : String} (hs : ∃ c r, s.toList = c :: r ∧ c.isDigit = false ∧ c ≠ '.') :
    compareVersions (".".intercalate xs) (".".intercalate ys) =
        compare ((xs.map fun x => digitsValue x.toList).rightpad (max xs.length ys.length) 0)
          ((ys.map fun y => digitsValue y.toList).rightpad (max xs.length ys.length) 0) ∧
      compareVersions (".".intercalate xs ++ s) (".".intercalate xs) = .lt :=
  ⟨compareVersions_intercalate_digits hx hy, compareVersions_prerelease_lt hx hs⟩

theorem padded_ten_outranks_nine :
    DottedNumber ["1", "010"] ∧ DottedNumber ["1", "9", "0"] ∧
      (∃ c r, "b2".toList = c :: r ∧ c.isDigit = false ∧ c ≠ '.') ∧
      (compareVersions (".".intercalate ["1", "010"]) (".".intercalate ["1", "9", "0"]) =
          compare ((["1", "010"].map fun x => digitsValue x.toList).rightpad 3 0)
            ((["1", "9", "0"].map fun y => digitsValue y.toList).rightpad 3 0) ∧
        compareVersions (".".intercalate ["1", "010"] ++ "b2") (".".intercalate ["1", "010"]) = .lt) := by
  have hx : DottedNumber ["1", "010"] := by simp [DottedNumber]
  have hy : DottedNumber ["1", "9", "0"] := by simp [DottedNumber]
  have hs : ∃ c r, "b2".toList = c :: r ∧ c.isDigit = false ∧ c ≠ '.' := ⟨'b', ['2'], by simp⟩
  exact ⟨hx, hy, hs, compareVersions_dotted_numbers hx hy hs⟩

end DottedNumbers

end Depot.Version
