import Depot.Repository.Location
import Depot.Proofs.Paths

namespace Depot

open Disk

section Resolution

def joinedPath (cwd path : String) : String :=
  if path.startsWith "/" then path else cwd ++ "/" ++ path

def resolveLexically (kept : List String) : List String → List String
  | [] => kept
  | part :: rest =>
    if part = "" ∨ part = "." then resolveLexically kept rest
    else if part = ".." then resolveLexically kept.dropLast rest
    else resolveLexically (kept ++ [part]) rest

def climbsAboveRoot (kept : List String) : List String → Bool
  | [] => false
  | part :: rest =>
    if part = "" ∨ part = "." then climbsAboveRoot kept rest
    else if part = ".." then kept.isEmpty || climbsAboveRoot kept.dropLast rest
    else climbsAboveRoot (kept ++ [part]) rest

def lexicalPath (cwd path : String) : String :=
  "/" ++ "/".intercalate (resolveLexically [] ((joinedPath cwd path).splitOn "/"))

variable {kept : List String}

theorem resolveLexically_filter :
    ∀ (kept parts : List String), resolveLexically kept (parts.filter (· != "")) = resolveLexically kept parts
  | _, [] => rfl
  | kept, part :: rest => by
    by_cases empty : part = ""
    · simp [resolveLexically, empty, resolveLexically_filter kept rest]
    · simp only [List.filter_cons, bne_iff_ne, ne_eq, empty, not_false_eq_true, if_true,
        resolveLexically]
      split_ifs <;> apply resolveLexically_filter

theorem climbsAboveRoot_filter :
    ∀ (kept parts : List String), climbsAboveRoot kept (parts.filter (· != "")) = climbsAboveRoot kept parts
  | _, [] => rfl
  | kept, part :: rest => by
    by_cases empty : part = ""
    · simp [climbsAboveRoot, empty, climbsAboveRoot_filter kept rest]
    · simp only [List.filter_cons, bne_iff_ne, ne_eq, empty, not_false_eq_true, if_true,
        climbsAboveRoot]
      split_ifs <;> simp only [climbsAboveRoot_filter]

theorem mem_resolveLexically :
    ∀ {kept parts : List String} {n : String}, n ∈ resolveLexically kept parts →
      n ∈ kept ∨ n ∈ parts ∧ n ≠ "" ∧ n ≠ "." ∧ n ≠ ".."
  | _, [], _, h => .inl h
  | kept, part :: rest, n, h => by
    unfold resolveLexically at h
    split_ifs at h with hdot hup
    · rcases mem_resolveLexically h with h | ⟨hn, hplain⟩
      · exact .inl h
      · exact .inr ⟨List.mem_cons_of_mem _ hn, hplain⟩
    · rcases mem_resolveLexically h with h | ⟨hn, hplain⟩
      · exact .inl (List.dropLast_subset _ h)
      · exact .inr ⟨List.mem_cons_of_mem _ hn, hplain⟩
    · rcases mem_resolveLexically h with h | ⟨hn, hplain⟩
      · rcases List.mem_append.1 h with h | h
        · exact .inl h
        · -- the part itself, which is no empty part, `.` or `..`
          rw [List.mem_singleton.1 h]
          exact .inr ⟨List.mem_cons_self, by tauto, by tauto, hup⟩
      · exact .inr ⟨List.mem_cons_of_mem _ hn, hplain⟩

end Resolution

section Pieces

theorem slash_not_mem_of_mem_splitOn {s piece : String} (h : piece ∈ s.splitOn "/") : '/' ∉ piece.toList := by
  rw [String.splitOn_slash, List.mem_map] at h
  obtain ⟨l, hl, rfl⟩ := h
  rw [String.toList_ofList]
  exact List.not_mem_of_mem_splitOn hl

theorem splitOn_root (t : String) : ("/" ++ t).splitOn "/" = "" :: t.splitOn "/" := by
  have h := String.splitOn_slash_append "" t
  rwa [String.empty_append, String.splitOn_slash_empty] at h

theorem eq_root_append {s : String} (h : s.startsWith "/" = true) : s = "/" ++ String.ofList s.toList.tail := by
  obtain ⟨rest, hrest⟩ := List.head?_eq_some_iff.mp (String.startsWith_slash_iff.mp h)
  apply String.ext
  simp [hrest]

theorem splitOn_clean {ns : List String} (h : ∀ n ∈ ns, '/' ∉ n.toList) :
    ∀ part ∈ ("/" ++ "/".intercalate ns).splitOn "/", part = "" ∨ part ∈ ns := by
  intro part hpart
  rw [splitOn_root] at hpart
  rcases List.mem_cons.1 hpart with rfl | hpart
  · exact .inl rfl
  cases ns with
  | nil => simp_all
  | cons n rest =>
    -- the pieces of the joined names are the names
    have slash : "/".toList = ['/'] := by simp
    have pieces : ("/".intercalate (n :: rest)).splitOn "/" = n :: rest := by
      rw [String.splitOn_slash, String.toList_intercalate, slash, List.splitOn_intercalate]
      · simp
      · simpa using h
      · simp
    rw [pieces] at hpart
    exact .inr hpart

end Pieces

section Normalize

def piecePart (p : String) : Option PathPart :=
  if p == "" || p == "." then none else if p == ".." then some .up else some (.name p)

theorem pathParts_absolute {s : String} (h : s.startsWith "/" = true) :
    pathParts s = .root :: (s.splitOn "/").filterMap piecePart := by
  have pieces : s.splitOn "/" = "" :: (String.ofList s.toList.tail).splitOn "/" := by
    conv_lhs => rw [eq_root_append h]
    exact splitOn_root _
  have skip : piecePart "" = none := rfl
  unfold pathParts
  simp only [pieces, h, if_true, Bool.true_or, List.drop_succ_cons, List.drop_zero, List.filterMap_cons, skip,
    List.singleton_append]
  rfl

@[simp] theorem showParts_root (ns : List String) : showParts (.root :: ns.map .name) = "/" ++ "/".intercalate ns := by
  simp [showParts, List.filterMap_map]

theorem getLast?_root_names {n : String} {ns : List String} (h : ns.getLast? = some n) :
    (PathPart.root :: ns.map .name).getLast? = some (.name n) := by
  rw [List.getLast?_cons, List.getLast?_map, h]
  rfl

theorem dropLast_root_names {ns : List String} (h : ns ≠ []) :
    (PathPart.root :: ns.map .name).dropLast = .root :: ns.dropLast.map .name := by
  rw [List.dropLast_cons_of_ne_nil (by simpa using h), List.map_dropLast]

theorem foldParts_keep {acc rest : List PathPart} {p : PathPart} (hup : p ≠ .up) (hhere : p ≠ .here) :
    foldParts acc (p :: rest) = foldParts (acc ++ [p]) rest := by
  rw [foldParts]
  · exact hup
  · exact hhere

-- The simulation: from the root and the names kept, folding the parts resolves them
-- lexically, as long as no `..` meets the root.
theorem foldParts_resolves :
    ∀ (ns parts : List String), climbsAboveRoot ns parts = false →
      foldParts (.root :: ns.map .name) (parts.filterMap piecePart) =
        .root :: (resolveLexically ns parts).map .name
  | _, [], _ => rfl
  | ns, part :: rest, h => by
    by_cases hdot : part = "" ∨ part = "."
    · -- an empty part or `.` is no part at all
      have skip : piecePart part = none := by
        rcases hdot with rfl | rfl <;> rfl
      rw [climbsAboveRoot, if_pos hdot] at h
      rw [List.filterMap_cons_none skip, resolveLexically, if_pos hdot]
      exact foldParts_resolves ns rest h
    · by_cases hup : part = ".."
      · -- a `..` below the root takes off the last name
        subst hup
        rw [climbsAboveRoot, if_neg hdot, if_pos rfl, Bool.or_eq_false_iff] at h
        obtain ⟨hkept, hrest⟩ := h
        have hne : ns ≠ [] := by simpa using hkept
        obtain ⟨n, hn⟩ := Option.ne_none_iff_exists'.mp (mt List.getLast?_eq_none_iff.mp hne)
        rw [List.filterMap_cons_some (show piecePart ".." = some .up from rfl), foldParts, getLast?_root_names hn,
          dropLast_root_names hne, resolveLexically, if_neg hdot, if_pos rfl]
        exact foldParts_resolves ns.dropLast rest hrest
      · -- a name is kept
        have keep : piecePart part = some (.name part) := by
          simp only [piecePart, Bool.or_eq_true, beq_iff_eq] at hdot ⊢
          rw [if_neg hdot, if_neg hup]
        rw [climbsAboveRoot, if_neg hdot, if_neg hup] at h
        rw [List.filterMap_cons_some keep, foldParts_keep (p := .name part) nofun nofun, resolveLexically,
          if_neg hdot, if_neg hup,
          show PathPart.root :: ns.map PathPart.name ++ [.name part] = .root :: (ns ++ [part]).map .name by simp]
        exact foldParts_resolves (ns ++ [part]) rest h

variable {cwd path : String}

theorem startsWith_slash_append {a b : String} (h : a.startsWith "/" = true) : (a ++ b).startsWith "/" = true := by
  rw [String.startsWith_slash_iff] at h ⊢
  obtain ⟨rest, hrest⟩ := List.head?_eq_some_iff.mp h
  simp [hrest]

theorem absolute_startsWith (hcwd : cwd.startsWith "/" = true) :
    (if path.startsWith "/" then path else FileRepo.join cwd path).startsWith "/" = true := by
  split
  · assumption
  · unfold FileRepo.join
    split_ifs with hempty
    · rw [eq_root_append hcwd] at hempty
      simp at hempty
    · exact startsWith_slash_append hcwd
    · exact startsWith_slash_append (startsWith_slash_append hcwd)

-- Normalizing reads the pieces of the model's joined path; they are those of the plain join,
-- less the empty piece a working directory ending in a slash adds.
theorem absolute_pieces (hcwd : cwd.startsWith "/" = true) :
    ((if path.startsWith "/" then path else FileRepo.join cwd path).splitOn "/").filter (· != "") =
      ((joinedPath cwd path).splitOn "/").filter (· != "") := by
  unfold joinedPath FileRepo.join
  by_cases habs : path.startsWith "/" = true
  · simp only [habs, if_true]
  · have hne : cwd.isEmpty = false := by
      rw [eq_root_append hcwd]
      simp
    simp only [habs, hne, Bool.false_eq_true, if_false]
    split
    · rename_i hend
      obtain ⟨init, hinit⟩ : ∃ init, cwd.toList = init ++ ['/'] :=
        List.getLast?_eq_some_iff.mp (String.endsWith_slash_iff.mp hend)
      have trailing : (String.ofList init ++ "/").splitOn "/" = (String.ofList init).splitOn "/" ++ [""] := by
        simpa using String.splitOn_slash_append (String.ofList init) ""
      have hcwd' : cwd = String.ofList init ++ "/" := String.ext (by simp [hinit])
      rw [hcwd', String.splitOn_slash_append, String.splitOn_slash_append, trailing]
      simp
    · rfl

theorem normalizePath_eq_lexicalPath (hcwd : cwd.startsWith "/" = true)
    (hstay : climbsAboveRoot [] ((joinedPath cwd path).splitOn "/") = false) :
    normalizePath cwd path = lexicalPath cwd path := by
  have pieces : ((if path.startsWith "/" then path else FileRepo.join cwd path).splitOn "/").filter (· != "") =
      ((joinedPath cwd path).splitOn "/").filter (· != "") := absolute_pieces hcwd
  -- both joins resolve alike, the empty pieces apart
  have same : resolveLexically [] ((if path.startsWith "/" then path else FileRepo.join cwd path).splitOn "/") =
      resolveLexically [] ((joinedPath cwd path).splitOn "/") := by
    rw [← resolveLexically_filter, pieces, resolveLexically_filter]
  have stays : climbsAboveRoot [] ((if path.startsWith "/" then path else FileRepo.join cwd path).splitOn "/") = false := by
    rw [← climbsAboveRoot_filter, pieces, climbsAboveRoot_filter, hstay]
  have folded := foldParts_resolves [] _ stays
  rw [List.map_nil] at folded
  unfold normalizePath lexicalPath
  dsimp only
  rw [pathParts_absolute (absolute_startsWith hcwd), foldParts_keep (p := .root) nofun nofun, List.nil_append, folded, same,
    showParts_root]

theorem plain_of_mem_resolveLexically {s n : String} (h : n ∈ resolveLexically [] (s.splitOn "/")) :
    n ≠ "" ∧ n ≠ "." ∧ n ≠ ".." ∧ '/' ∉ n.toList := by
  rcases mem_resolveLexically h with h | ⟨hpiece, hempty, hdot, hup⟩
  · cases h
  · exact ⟨hempty, hdot, hup, slash_not_mem_of_mem_splitOn hpiece⟩

theorem normalizePath_clean_below_root (hcwd : cwd.startsWith "/" = true)
    (hstay : climbsAboveRoot [] ((joinedPath cwd path).splitOn "/") = false) :
    (normalizePath cwd path).startsWith "/" = true ∧
      (∀ part ∈ (normalizePath cwd path).splitOn "/", part ≠ "." ∧ part ≠ "..") ∧
      normalizePath cwd path = lexicalPath cwd path := by
  have resolved := normalizePath_eq_lexicalPath hcwd hstay
  refine ⟨?_, ?_, resolved⟩
  · rw [resolved, lexicalPath]
    exact startsWith_slash_append (String.startsWith_slash_iff.2 (by simp))
  · intro part hpart
    rw [resolved, lexicalPath] at hpart
    -- the parts of the result are an empty piece and the resolved names
    rcases splitOn_clean (fun n hn => (plain_of_mem_resolveLexically hn).2.2.2) part hpart with rfl | hname
    · simp
    · exact ⟨(plain_of_mem_resolveLexically hname).2.1, (plain_of_mem_resolveLexically hname).2.2.1⟩

-- The example of the documentation, from a working directory `/srv`.
theorem srv_path_normalizes_cleanly :
    "/srv".startsWith "/" = true ∧
      climbsAboveRoot [] ((joinedPath "/srv" "./a/b/../c/./d/../e").splitOn "/") = false ∧
      normalizePath "/srv" "./a/b/../c/./d/../e" = "/srv/a/c/e" := by
  have hcwd : "/srv".startsWith "/" = true := by decide +kernel
  -- pieces are cut through the characters, which the kernel evaluates
  have hstay : climbsAboveRoot [] ((joinedPath "/srv" "./a/b/../c/./d/../e").splitOn "/") = false := by
    rw [String.splitOn_slash]
    decide +kernel
  have resolved : lexicalPath "/srv" "./a/b/../c/./d/../e" = "/srv/a/c/e" := by
    rw [lexicalPath, String.splitOn_slash]
    decide +kernel
  exact ⟨hcwd, hstay, (normalizePath_clean_below_root hcwd hstay).2.2.trans resolved⟩

-- A `..` directly under the root takes the root off: the result is not even absolute, where
-- the lexical resolution stays at the root.
theorem parent_of_root_normalizes_to_empty : normalizePath "/" "/.." = "" ∧ lexicalPath "/" "/.." = "/" := by
  have absolute : "/..".startsWith "/" = true := by decide +kernel
  constructor
  · unfold normalizePath
    dsimp only
    rw [if_pos absolute, pathParts_absolute absolute, String.splitOn_slash]
    decide +kernel
  · rw [lexicalPath, String.splitOn_slash]
    decide +kernel

end Normalize

end Depot
