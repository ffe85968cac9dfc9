import Depot.Repository.Files
import Mathlib.Data.String.Basic

namespace Depot

open Disk

section Pieces

open String in
theorem String.splitOnAux_slash (l m r : List Char) (acc : List String) :
    String.splitOnAux (ofList (l ++ m ++ r)) "/" ⟨utf8Len l⟩ ⟨utf8Len l + utf8Len m⟩ 0 acc =
      acc.reverse ++ (List.splitOnPPrepend (· == '/') r m.reverse).map ofList := by
  rw [String.splitOnAux.eq_1]
  simp only [List.append_assoc, atEnd_iff, rawEndPos_ofList, utf8Len_append, Pos.Raw.mk_le_mk,
    Nat.add_le_add_iff_left, (by omega : utf8Len m + utf8Len r ≤ utf8Len m ↔ utf8Len r = 0),
    utf8Len_eq_zero, List.reverse_cons]
  split
  · subst r
    simpa using extract_of_valid l m []
  · obtain ⟨c, r, rfl⟩ := r.exists_cons_of_ne_nil ‹_›
    have hget : Pos.Raw.get (ofList (l ++ (m ++ c :: r))) ⟨utf8Len l + utf8Len m⟩ = c := by
      simpa using get_of_valid (l ++ m) (c :: r)
    have hnext : Pos.Raw.next (ofList (l ++ (m ++ c :: r))) ⟨utf8Len l + utf8Len m⟩ =
        ⟨utf8Len l + utf8Len m + c.utf8Size⟩ := by
      simpa using next_of_valid (l ++ m) c r
    have hsep : ("/" : String).rawEndPos ≤ ⟨1⟩ := by decide
    rw [hget, show Pos.Raw.get "/" 0 = '/' from rfl, show Pos.Raw.next "/" 0 = ⟨1⟩ from rfl,
      if_pos hsep, hnext, Pos.Raw.unoffsetBy_zero, hnext]
    by_cases hc : c = '/'
    · -- a slash closes the piece read so far, and the next piece starts after it
      subst hc
      have hback : (⟨utf8Len l + utf8Len m + Char.utf8Size '/'⟩ : Pos.Raw).unoffsetBy ⟨1⟩ =
          ⟨utf8Len l + utf8Len m⟩ := by
        simp [Pos.Raw.ext_iff, Pos.Raw.byteIdx_unoffsetBy, show Char.utf8Size '/' = 1 from rfl]
      have hpiece : Pos.Raw.extract (ofList (l ++ (m ++ '/' :: r))) ⟨utf8Len l⟩
          ⟨utf8Len l + utf8Len m⟩ = ofList m := by
        simpa using extract_of_valid l m ('/' :: r)
      rw [if_pos (by simp), hback, hpiece]
      simpa [Nat.add_assoc, List.splitOnPPrepend_cons_eq_if] using
        splitOnAux_slash (l ++ m ++ ['/']) [] r (ofList m :: acc)
    · rw [if_neg (by simpa using hc)]
      simpa [List.splitOnPPrepend_cons_eq_if, hc, Nat.add_assoc] using
        splitOnAux_slash l (m ++ [c]) r acc

theorem String.splitOn_slash (s : String) : s.splitOn "/" = (s.toList.splitOn '/').map String.ofList := by
  rw [String.splitOn, if_neg (by decide)]
  simpa [List.splitOn] using String.splitOnAux_slash [] [] s.toList []

theorem String.splitOn_slash_append (a b : String) :
    (a ++ "/" ++ b).splitOn "/" = a.splitOn "/" ++ b.splitOn "/" := by
  have hchars : (a ++ "/" ++ b).toList = a.toList ++ '/' :: b.toList := by simp
  rw [String.splitOn_slash, String.splitOn_slash, String.splitOn_slash, hchars,
    List.splitOn_append_cons_self, List.map_append]

theorem String.splitOn_slash_of_not_mem {a : String} (h : '/' ∉ a.toList) : a.splitOn "/" = [a] := by
  rw [String.splitOn_slash, List.splitOn_eq_singleton h]
  simp

theorem List.not_mem_of_mem_splitOn {α : Type} [BEq α] [LawfulBEq α] {a : α} :
    ∀ {xs l : List α}, l ∈ xs.splitOn a → a ∉ l
  | [], l, h => by
    rw [List.splitOn_nil, List.mem_singleton] at h
    simp [h]
  | x :: xs, l, h => by
    obtain ⟨first, rest, e⟩ := List.exists_cons_of_ne_nil (List.splitOn_ne_nil a xs)
    rw [List.splitOn_cons_eq_if_modifyHead] at h
    split at h
    · rcases List.mem_cons.1 h with rfl | h
      · simp
      · exact List.not_mem_of_mem_splitOn h
    · rename_i hx
      rw [e, List.modifyHead_cons] at h
      rcases List.mem_cons.1 h with rfl | h
      · -- the first piece, after a character that is no separator
        have hfirst : a ∉ first := List.not_mem_of_mem_splitOn (e ▸ List.mem_cons_self)
        rw [List.mem_cons, not_or]
        exact ⟨fun hax => hx (by simp [hax]), hfirst⟩
      · exact List.not_mem_of_mem_splitOn (e ▸ List.mem_cons_of_mem _ h)

theorem List.mem_splitOn_iff {α : Type} [BEq α] [LawfulBEq α] {a c : α} (hc : c ≠ a) :
    ∀ {xs : List α}, c ∈ xs ↔ ∃ g ∈ xs.splitOn a, c ∈ g
  | [] => by simp [List.splitOn_nil]
  | x :: xs => by
    obtain ⟨first, rest, e⟩ := List.exists_cons_of_ne_nil (List.splitOn_ne_nil a xs)
    have ih : c ∈ xs ↔ ∃ g ∈ xs.splitOn a, c ∈ g := List.mem_splitOn_iff hc
    rw [e] at ih
    rw [List.splitOn_cons_eq_if_modifyHead, e]
    split
    · -- the separator opens an empty piece
      rename_i hx
      have hcx : c ≠ x := fun h => hc (h.trans (beq_iff_eq.1 hx))
      simp [hcx, ih]
    · -- the first piece grows by the head
      rw [List.modifyHead_cons, List.mem_cons, ih]
      simp only [List.mem_cons, or_and_right, exists_or, exists_eq_left]
      tauto

@[simp] theorem String.splitOn_slash_empty : ("" : String).splitOn "/" = [""] := by
  rw [String.splitOn_slash]
  simp

end Pieces

section Names

theorem ByteArray.toList_loop_eq (bs : ByteArray) (i : Nat) (r : List UInt8) :
    ByteArray.toList.loop bs i r = r.reverse ++ bs.data.toList.drop i := by
  fun_induction ByteArray.toList.loop bs i r with
  | case1 i r h ih =>
    rw [ih, List.reverse_cons, List.append_assoc, List.singleton_append]
    congr 1
    have hi : i < bs.data.toList.length := by simpa using h
    have hget : bs.get! i = bs.data.toList[i] := by simp [ByteArray.get!, h]
    rw [hget]
    exact (List.drop_eq_getElem_cons hi).symm
  | case2 i r h =>
    have hdone : bs.data.toList.drop i = [] := List.drop_eq_nil_of_le (by simpa using h)
    simp [hdone]

theorem ByteArray.toList_eq_data (bs : ByteArray) : bs.toList = bs.data.toList := by
  simp [ByteArray.toList, ByteArray.toList_loop_eq]

theorem Disk.Name.ofString_injective : Function.Injective Name.ofString := by
  intro a b h
  simp only [Name.ofString, ByteArray.toList_eq_data] at h
  exact String.toByteArray_inj.mp (ByteArray.ext (Array.ext' h))

theorem Disk.Name.ofString_eq_up {s : String} : Name.ofString s = Name.up ↔ s = ".." := by
  have hup : Name.ofString ".." = Name.up := by decide +kernel
  rw [← hup]
  exact Name.ofString_injective.eq_iff

end Names

section Ends

variable {d : String}

theorem String.startsWith_slash_iff : d.startsWith "/" = true ↔ d.toList.head? = some '/' := by
  rw [String.startsWith_string_iff]
  constructor
  · rintro ⟨t, ht⟩
    simp [← ht]
  · intro h
    obtain ⟨t, ht⟩ := List.head?_eq_some_iff.mp h
    exact ⟨t, by simp [ht]⟩

theorem String.endsWith_slash_iff : d.endsWith "/" = true ↔ d.toList.getLast? = some '/' := by
  rw [← String.endsWith_toSlice, String.Slice.endsWith_string_iff, String.copy_toSlice]
  constructor
  · rintro ⟨t, ht⟩
    simp [← ht]
  · intro h
    obtain ⟨t, ht⟩ := List.getLast?_eq_some_iff.mp h
    exact ⟨t, by simp [ht]⟩

end Ends

inductive PathComponent where
  | rootDir
  | curDir
  | parentDir
  | normal (name : String)
  deriving DecidableEq, Repr

def PathComponent.isRelative : PathComponent → Bool
  | .curDir | .normal _ => true
  | .rootDir | .parentDir => false

def pathComponents (s : String) : List PathComponent :=
  let pieces := s.splitOn "/"
  let body := (pieces.filter fun p => p != "" && p != ".").map fun p =>
    if p == ".." then PathComponent.parentDir else .normal p
  if s.startsWith "/" then .rootDir :: body
  else if pieces.head? == some "." then .curDir :: body
  else body

theorem parentDir_mem_pathComponents {s : String} :
    PathComponent.parentDir ∈ pathComponents s ↔ ".." ∈ s.splitOn "/" := by
  unfold pathComponents
  dsimp only
  split
  · simp
  · split <;> simp

theorem rootDir_mem_pathComponents {s : String} :
    PathComponent.rootDir ∈ pathComponents s ↔ s.startsWith "/" = true := by
  unfold pathComponents
  have body : PathComponent.rootDir ∉ ((s.splitOn "/").filter fun p => p != "" && p != ".").map
      (fun p => if p == ".." then PathComponent.parentDir else .normal p) := by
    simp only [List.mem_map, not_exists, not_and]
    intro p _
    split <;> simp
  dsimp only
  split
  · rename_i h
    simp [h]
  · rename_i h
    refine iff_of_false ?_ h
    split
    · exact fun hm => body ((List.mem_cons.mp hm).resolve_left (by simp))
    · exact body

section Written

variable {d u : String}

@[simp] theorem Disk.PathText.absolute_ofString (s : String) :
    (PathText.ofString s).absolute = s.startsWith "/" :=
  rfl

-- The names a path is written with: the pieces between slashes that are not empty, and `.`
-- for a slash at the end.
theorem Disk.PathText.parts_ofString (s : String) :
    (PathText.ofString s).parts = ((s.splitOn "/").filter (· != "")).map Name.ofString ++
      if s.length > 1 && s.endsWith "/" then [Name.here] else [] := by
  unfold PathText.ofString
  split <;> simp_all

theorem Disk.PathText.ofString_append_slash (hd : d ≠ "") (hend : d.endsWith "/" = false) :
    (PathText.ofString (d ++ "/" ++ u)).absolute = (PathText.ofString d).absolute ∧
      ∃ last, (PathText.ofString (d ++ "/" ++ u)).parts = (PathText.ofString d).parts ++
        ((u.splitOn "/").filter (· != "")).map Name.ofString ++ last ∧ last ⊆ [Name.here] := by
  have hchars : d.toList ≠ [] := by simpa using hd
  constructor
  · -- the first character is the first character of `d`
    rw [absolute_ofString, absolute_ofString, Bool.eq_iff_iff, String.startsWith_slash_iff,
      String.startsWith_slash_iff]
    simp [List.head?_append_of_ne_nil _ hchars]
  · refine ⟨if (d ++ "/" ++ u).length > 1 && (d ++ "/" ++ u).endsWith "/" then [Name.here] else [], ?_, ?_⟩
    · rw [parts_ofString, parts_ofString, String.splitOn_slash_append, hend]
      simp
    · split <;> simp

def Disk.PathText.Within (dir p : PathText) : Prop :=
  p.absolute = dir.absolute ∧ ∃ rest, p.parts = dir.parts ++ rest ∧ Name.up ∉ rest

end Written

namespace Collection

variable (c : Collection)

theorem name_ne_empty : c.name ≠ "" := by
  cases c <;> decide +kernel

theorem slash_not_mem_name : '/' ∉ c.name.toList := by
  cases c <;> decide +kernel

theorem name_startsWith_slash : c.name.startsWith "/" = false := by
  cases c <;> decide +kernel

theorem name_endsWith_slash : c.name.endsWith "/" = false := by
  cases c <;> decide +kernel

theorem splitOn_identifier (u : String) : (c.identifier u).splitOn "/" = c.name :: u.splitOn "/" := by
  rw [identifier, String.splitOn_slash_append, String.splitOn_slash_of_not_mem c.slash_not_mem_name]
  rfl

end Collection

namespace FileRepo

section Join

variable {root x y : String}

theorem join_append (hx : x ≠ "") (hslash : x.startsWith "/" = false) :
    join root (x ++ "/" ++ y) = join root x ++ "/" ++ y := by
  have hchars : x.toList ≠ [] := by simpa using hx
  have hstart : (x ++ "/" ++ y).startsWith "/" = false := by
    rw [Bool.eq_false_iff] at hslash ⊢
    rw [ne_eq, String.startsWith_slash_iff] at hslash ⊢
    simpa [List.head?_append_of_ne_nil _ hchars] using hslash
  unfold join
  split
  · rfl
  · simp only [hstart, hslash, Bool.false_eq_true, if_false]
    split <;> simp [String.append_assoc]

theorem join_endsWith (hx : x ≠ "") : (join root x).endsWith "/" = x.endsWith "/" := by
  have hchars : x.toList ≠ [] := by simpa using hx
  rw [Bool.eq_iff_iff, String.endsWith_slash_iff, String.endsWith_slash_iff]
  unfold join
  split
  · rfl
  · split
    · rfl
    · split
      · simp [List.getLast?_append_of_ne_nil _ hchars]
      · simp only [String.toList_append]
        rw [List.getLast?_append_of_ne_nil _ hchars]

theorem join_ne_empty (hx : x ≠ "") : join root x ≠ "" := by
  unfold join
  split
  · exact hx
  · split
    · exact hx
    · split <;> simp [hx]

end Join

variable (r : FileRepo) {id : String}

theorem staysInside_iff :
    staysInside id = true ↔ id ≠ "" ∧ ∀ c ∈ pathComponents id, c.isRelative = true := by
  have relative : (∀ c ∈ pathComponents id, c.isRelative = true) ↔
      PathComponent.rootDir ∉ pathComponents id ∧ PathComponent.parentDir ∉ pathComponents id := by
    constructor
    · intro h
      exact ⟨fun hm => by simpa [PathComponent.isRelative] using h _ hm,
        fun hm => by simpa [PathComponent.isRelative] using h _ hm⟩
    · rintro ⟨hroot, hparent⟩ c hc
      cases c with
      | rootDir => exact absurd hc hroot
      | parentDir => exact absurd hc hparent
      | curDir | normal _ => rfl
  rw [relative, rootDir_mem_pathComponents, parentDir_mem_pathComponents]
  simp [staysInside, and_assoc]

theorem resolve_isOk_iff :
    (r.resolve id).isOk = true ↔ id ≠ "" ∧ ∀ c ∈ pathComponents id, c.isRelative = true := by
  rw [← staysInside_iff]
  unfold resolve
  split <;> simp_all [Except.isOk, Except.toBool]

theorem access_of_resolve_error {e : Error} (h : r.resolve id = .error e) (data : ByteArray) :
    r.get id = .error e ∧ Repository.put r id data = (r, .error e) ∧
      Repository.delete r id = (r, .error e) := by
  refine ⟨?_, ?_, ?_⟩
  · simp [get, h, bind, Except.bind]
  · show put r id data = _
    simp [put, h, bind, Except.bind]
  · show Changed.ofExcept r (delete r id) = _
    simp [delete, h, bind, Except.bind, Changed.ofExcept]

theorem resolve_identifier (c : Collection) (u : String) :
    r.resolve (c.identifier u) = .error (.access (c.identifier u) .escapesRoot) ∨
      ∃ p, r.resolve (c.identifier u) = .ok p ∧ (PathText.ofString (join r.root c.name)).Within p := by
  unfold resolve
  split
  · rename_i hinside
    refine .inr ⟨_, rfl, ?_⟩
    -- no piece of the item's path is `..`, or the identifier would have been refused
    have hup : ".." ∉ u.splitOn "/" := by
      intro hm
      simp [staysInside, c.splitOn_identifier, hm] at hinside
    have hjoin : join r.root (c.identifier u) = join r.root c.name ++ "/" ++ u :=
      join_append c.name_ne_empty c.name_startsWith_slash
    obtain ⟨habs, last, hparts, hlast⟩ := PathText.ofString_append_slash (u := u)
      (join_ne_empty c.name_ne_empty) ((join_endsWith c.name_ne_empty).trans c.name_endsWith_slash)
    rw [hjoin]
    refine ⟨habs, _, by rw [hparts, List.append_assoc], ?_⟩
    rw [List.mem_append, not_or]
    refine ⟨?_, fun h => absurd (List.mem_singleton.mp (hlast h)) (by decide)⟩
    simp only [List.mem_map, List.mem_filter, not_exists, not_and]
    intro q hq hqup
    exact hup (Name.ofString_eq_up.mp hqup ▸ hq.1)
  · exact .inl rfl

end FileRepo

end Depot
