import Mathlib
import Depot.Version.Order

namespace Depot.Version

namespace Run

def chars : Run → List Char
  | .number ds => ds
  | .text cs => cs

def isNumber : Run → Bool
  | .number _ => true
  | .text _ => false

@[simp] theorem chars_number (ds : List Char) : (Run.number ds).chars = ds := rfl
@[simp] theorem chars_text (cs : List Char) : (Run.text cs).chars = cs := rfl
@[simp] theorem isNumber_number (ds : List Char) : (Run.number ds).isNumber = true := rfl
@[simp] theorem isNumber_text (cs : List Char) : (Run.text cs).isNumber = false := rfl

def WellFormed (r : Run) : Prop := r.chars ≠ [] ∧ ∀ c ∈ r.chars, isDigit c = r.isNumber

def ofGroup (g : List Char) : Run := if startsWithDigit g then .number g else .text g

@[simp] theorem chars_ofGroup (g : List Char) : (ofGroup g).chars = g := by
  unfold ofGroup; split <;> rfl

@[simp] theorem isNumber_ofGroup (g : List Char) : (ofGroup g).isNumber = startsWithDigit g := by
  unfold ofGroup; split <;> simp_all

end Run

section Groups

structure Grouping (cs : List Char) (gs : List (List Char)) : Prop where
  flatten_eq : gs.flatten = cs
  ne_nil : ∀ g ∈ gs, g ≠ []
  uniform : ∀ g ∈ gs, ∀ c ∈ g, isDigit c = startsWithDigit g
  alternate : gs.IsChain fun g h => startsWithDigit g ≠ startsWithDigit h

namespace Grouping

variable {c d : Char} {r g : List Char} {gs : List (List Char)}

theorem nil : Grouping [] [] := ⟨rfl, by simp, by simp, .nil⟩

theorem extend (h : Grouping r ((d :: g) :: gs)) (hc : isDigit c = isDigit d) :
    Grouping (c :: r) ((c :: d :: g) :: gs) where
  flatten_eq := by simp [← h.flatten_eq]
  ne_nil := by
    intro x hx
    rcases List.mem_cons.1 hx with rfl | hx
    · simp
    · exact h.ne_nil x (by simp [hx])
  uniform := by
    intro x hx e he
    rcases List.mem_cons.1 hx with rfl | hx
    · have hd := h.uniform (d :: g) (by simp)
      rcases List.mem_cons.1 he with rfl | he
      · rfl
      · simpa [startsWithDigit, hc] using hd e he
    · exact h.uniform x (by simp [hx]) e he
  alternate := by
    have hd := List.isChain_cons.1 h.alternate
    exact List.isChain_cons.2 ⟨by simpa [startsWithDigit, hc] using hd.1, hd.2⟩

theorem start (h : Grouping r gs) (hc : ∀ g ∈ gs.head?, startsWithDigit g ≠ isDigit c) :
    Grouping (c :: r) ([c] :: gs) where
  flatten_eq := by simp [← h.flatten_eq]
  ne_nil := by
    intro x hx
    rcases List.mem_cons.1 hx with rfl | hx
    · simp
    · exact h.ne_nil x hx
  uniform := by
    intro x hx e he
    rcases List.mem_cons.1 hx with rfl | hx
    · simp_all [startsWithDigit]
    · exact h.uniform x hx e he
  alternate := List.isChain_cons.2 ⟨fun y hy => (hc y hy).symm, h.alternate⟩

end Grouping

-- The induction follows `groups`: the character in front either joins the first group of
-- the rest or opens a new one. The match's last case takes a rest without groups, and also
-- one whose first group is empty, which the invariant excludes.
theorem grouping_groups (cs : List Char) : Grouping cs (groups cs) := by
  induction cs with
  | nil => exact .nil
  | cons c r ih =>
    rw [groups]
    split
    · rename_i d g gs hr
      rw [hr] at ih
      split
      · exact ih.extend (by simpa using ‹(isDigit c == isDigit d) = true›)
      · refine ih.start fun x hx => ?_
        simp only [List.head?_cons, Option.mem_def, Option.some.injEq] at hx
        subst hx
        have hcd : isDigit c ≠ isDigit d := by simpa using ‹¬(isDigit c == isDigit d) = true›
        exact hcd.symm
    · rename_i gs hne
      refine ih.start fun x hx => ?_
      obtain ⟨d, g, rfl⟩ := List.exists_cons_of_ne_nil (ih.ne_nil x (List.mem_of_mem_head? hx))
      obtain ⟨tl, htl⟩ := List.head?_eq_some_iff.1 hx
      exact absurd htl (hne d g tl)

end Groups

section Runs

structure Tokenization (t : List Char) (rs : List Run) : Prop where
  wellFormed : ∀ r ∈ rs, r.WellFormed
  flatMap_chars : rs.flatMap Run.chars = t
  alternate : rs.IsChain fun a b => a.isNumber ≠ b.isNumber

theorem Grouping.tokenization {cs : List Char} {gs : List (List Char)} (h : Grouping cs gs) :
    Tokenization cs (gs.map Run.ofGroup) where
  wellFormed := by
    simp only [List.mem_map, forall_exists_index, and_imp, forall_apply_eq_imp_iff₂]
    intro g hg
    exact ⟨by simpa using h.ne_nil g hg, by simpa using h.uniform g hg⟩
  flatMap_chars := by
    rw [List.flatMap_map]
    simp only [Run.chars_ofGroup, List.flatMap_id']
    exact h.flatten_eq
  alternate := by simpa [List.isChain_map] using h.alternate

theorem tokenization_runs (t : List Char) : Tokenization t (runs t) :=
  (grouping_groups t).tokenization

end Runs

section Suffixes

structure TextLed (rs : List Run) : Prop where
  alternate : rs.IsChain fun a b => a.isNumber ≠ b.isNumber
  head_text : ∀ r ∈ rs.head?, r.isNumber = false

-- Taking off a leading digit run leaves a text run in front; without one, the runs already
-- open with text.
theorem textLed_suffix (t : List Char) : TextLed (Component.ofChars t).suffix := by
  have ht := tokenization_runs t
  rw [Component.ofChars]
  split
  · rename_i ds rest hrs
    rw [hrs] at ht
    obtain ⟨hhead, hrest⟩ := List.isChain_cons.1 ht.alternate
    exact ⟨hrest, fun r hr => by simpa using (hhead r hr).symm⟩
  · rename_i rs hne
    refine ⟨ht.alternate, fun r hr => ?_⟩
    obtain ⟨tl, htl⟩ := List.head?_eq_some_iff.1 hr
    cases r with
    | number ds => exact absurd htl (hne ds tl)
    | text _ => rfl

theorem textLed_zero : TextLed Component.zero.suffix := ⟨.nil, by simp [Component.zero]⟩

-- Induction on one list, the other taken apart alongside: each side flips kind at every
-- step, so the runs at one position keep the agreement of the first two.
theorem isNumber_eq_of_mem_zip {as bs : List Run}
    (ha : as.IsChain fun a b => a.isNumber ≠ b.isNumber)
    (hb : bs.IsChain fun a b => a.isNumber ≠ b.isNumber)
    (hhead : ∀ a ∈ as.head?, ∀ b ∈ bs.head?, a.isNumber = b.isNumber) :
    ∀ p ∈ as.zip bs, p.1.isNumber = p.2.isNumber := by
  induction as generalizing bs with
  | nil => simp
  | cons a as ih =>
    cases bs with
    | nil => simp
    | cons b bs =>
      obtain ⟨ha₁, ha₂⟩ := List.isChain_cons.1 ha
      obtain ⟨hb₁, hb₂⟩ := List.isChain_cons.1 hb
      have hab : a.isNumber = b.isNumber := hhead a rfl b rfl
      intro p hp
      rw [List.zip_cons_cons, List.mem_cons] at hp
      rcases hp with rfl | hp
      · exact hab
      · refine ih ha₂ hb₂ (fun a' ha' b' hb' => ?_) p hp
        have h₁ : a'.isNumber = !a.isNumber := Bool.eq_not_iff.2 (ha₁ a' ha').symm
        have h₂ : b'.isNumber = !b.isNumber := Bool.eq_not_iff.2 (hb₁ b' hb').symm
        rw [h₁, h₂, hab]

theorem TextLed.isNumber_eq_of_mem_zip {xs ys : List Run} (hx : TextLed xs) (hy : TextLed ys) :
    ∀ p ∈ xs.zip ys, p.1.isNumber = p.2.isNumber :=
  Version.isNumber_eq_of_mem_zip hx.alternate hy.alternate fun a ha b hb => by
    rw [hx.head_text a ha, hy.head_text b hb]

-- The components compared for a version are its own, each read by `Component.ofChars`, and
-- the zero padding.
theorem textLed_of_mem_padded {a : String} {x : Component}
    (hx : x ∈ Component.zero :: components a) : TextLed x.suffix := by
  rcases List.mem_cons.1 hx with rfl | hx
  · exact textLed_zero
  · obtain ⟨p, -, rfl⟩ := List.mem_map.1 hx
    exact textLed_suffix p

theorem runs_alternate_and_suffixes_align (t : List Char) :
    Tokenization t (runs t) ∧ (∀ r ∈ (Component.ofChars t).suffix.head?, r.isNumber = false) ∧
    ∀ a b : String, ∀ x ∈ Component.zero :: components a, ∀ y ∈ Component.zero :: components b,
      ∀ p ∈ x.suffix.zip y.suffix, p.1.isNumber = p.2.isNumber :=
  ⟨tokenization_runs t, (textLed_suffix t).head_text, fun _ _ _ hx _ hy =>
    (textLed_of_mem_padded hx).isNumber_eq_of_mem_zip (textLed_of_mem_padded hy)⟩

theorem prerelease_suffix_digits_align :
    Component.ofChars ['0', 'b', '2'] ∈ Component.zero :: components "1.0b2" ∧
    Component.ofChars ['0', 'r', 'c', '1'] ∈ Component.zero :: components "1.0rc1" ∧
    (Run.number ['2'], Run.number ['1']) ∈
      (Component.ofChars ['0', 'b', '2']).suffix.zip
        (Component.ofChars ['0', 'r', 'c', '1']).suffix ∧
    (Run.number ['2']).isNumber = (Run.number ['1']).isNumber := by
  have hx : Component.ofChars ['0', 'b', '2'] ∈ Component.zero :: components "1.0b2" :=
    List.mem_cons_of_mem _ (List.mem_map_of_mem (by decide))
  have hy : Component.ofChars ['0', 'r', 'c', '1'] ∈ Component.zero :: components "1.0rc1" :=
    List.mem_cons_of_mem _ (List.mem_map_of_mem (by decide))
  have hp : (Run.number ['2'], Run.number ['1']) ∈
      (Component.ofChars ['0', 'b', '2']).suffix.zip
        (Component.ofChars ['0', 'r', 'c', '1']).suffix := by
    decide
  exact ⟨hx, hy, hp,
    (runs_alternate_and_suffixes_align ['0', 'b', '2']).2.2 _ _ _ hx _ hy _ hp⟩

end Suffixes

end Depot.Version
