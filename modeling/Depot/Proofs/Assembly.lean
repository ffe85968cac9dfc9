import Depot.Proofs.Sorted
import Depot.Catalog.Build

namespace Depot

section Items

-- A location that the package collection holds when case is ignored.
def storedIgnoringCase (paths : List String) (location : String) : Bool :=
  paths.any fun p => Text.lower p == Text.lower location

-- A record whose installer type has no payload.
def PkginfoRecord.noPayload (r : PkginfoRecord) : Bool :=
  r.installerType.any noPayloadTypes.contains

-- A record whose uninstall method needs an uninstaller item.
def PkginfoRecord.needsUninstaller (r : PkginfoRecord) : Bool :=
  r.uninstallMethod.any uninstallerMethods.contains

-- What the item check asks of a record: no payload, a remote package, or the installer and any
-- uninstaller stored ignoring case, with an uninstaller declared when the method needs one.
def itemsPresent (paths : List String) (r : PkginfoRecord) : Bool :=
  r.noPayload || r.remotePackage ||
    match r.installer with
    | none => false
    | some i => storedIgnoringCase paths i.path &&
      match r.uninstaller with
      | some u => storedIgnoringCase paths u.path
      | none => !r.needsUninstaller

namespace PkgIndex

variable {paths : List String} {l : String}

theorem mem_lowered_step (acc : List (String × String)) (p : String) :
    l ∈ (if acc.any (·.1 == Text.lower p) then acc else acc ++ [(Text.lower p, p)]).map Prod.fst ↔
      l ∈ acc.map Prod.fst ∨ l = Text.lower p := by
  split
  · rename_i hany
    -- the lowered form is filed already
    have hfiled : Text.lower p ∈ acc.map Prod.fst := by
      obtain ⟨e, he, hel⟩ := List.any_eq_true.mp hany
      exact List.mem_map.mpr ⟨e, he, by simpa using hel⟩
    refine ⟨.inl, ?_⟩
    rintro (h | h)
    · exact h
    · exact h ▸ hfiled
  · simp

theorem mem_lowered_foldl (ps : List String) (acc : List (String × String)) :
    l ∈ (ps.foldl (fun acc p =>
        let l := Text.lower p
        if acc.any (·.1 == l) then acc else acc ++ [(l, p)]) acc).map Prod.fst ↔
      l ∈ acc.map Prod.fst ∨ l ∈ ps.map Text.lower := by
  induction ps generalizing acc with
  | nil => simp
  | cons p ps ih =>
    rw [List.foldl_cons, ih]
    dsimp only
    rw [mem_lowered_step]
    simp only [List.map_cons, List.mem_cons, or_assoc]

theorem isSome_find_lowered (location : String) :
    ((ofList paths).lowered.find? (·.1 == Text.lower location)).isSome = storedIgnoringCase paths location := by
  have filed := mem_lowered_foldl (l := Text.lower location) paths []
  rw [Bool.eq_iff_iff, List.find?_isSome, storedIgnoringCase, List.any_eq_true]
  simp only [beq_iff_eq]
  simpa [ofList] using filed

theorem lookup_isOk (role : ItemRole) (location : String) :
    ((ofList paths).lookup role location).isOk = storedIgnoringCase paths location := by
  unfold lookup
  by_cases hexact : (ofList paths).paths.contains location = true
  · rw [if_pos hexact]
    -- a location stored as written is stored ignoring case
    have hmem : location ∈ paths := by simpa [ofList] using hexact
    exact (List.any_eq_true.mpr ⟨location, hmem, by simp⟩).symm
  · rw [if_neg hexact, ← isSome_find_lowered location]
    cases (ofList paths).lowered.find? (·.1 == Text.lower location) <;> rfl

end PkgIndex

theorem Except.isOk_foldlM {α β ε : Type} (f : β → α → Except ε β) (ok : α → Bool)
    (hf : ∀ b x, (f b x).isOk = ok x) : ∀ (xs : List α) (b : β), (xs.foldlM f b).isOk = xs.all ok
  | [], _ => rfl
  | x :: xs, b => by
    rw [List.foldlM_cons, List.all_cons, ← hf b x]
    cases f b x with
    | error e => rfl
    | ok b' => exact Except.isOk_foldlM f ok hf xs b'

variable {paths : List String}

theorem PkgIndex.isOk_lookup_bind {β : Type} (idx : PkgIndex) (role : ItemRole) (path : String)
    (k : Option String → Except Error β) (hk : ∀ o, (k o).isOk = true) :
    (idx.lookup role path >>= k).isOk = (idx.lookup role path).isOk := by
  cases idx.lookup role path with
  | error e => rfl
  | ok o => exact hk o

theorem verifyItems_isOk (r : PkginfoRecord) :
    (verifyItems r (PkgIndex.ofList paths)).isOk = itemsPresent paths r := by
  unfold verifyItems itemsPresent PkginfoRecord.noPayload PkginfoRecord.needsUninstaller
  -- the installer type and the uninstall method enter only through two yes-or-no tests: fix
  -- them, and the four cases go alike
  cases r.installerType <;> cases r.uninstallMethod <;> dsimp only [Option.any]
  all_goals
    split
    · rename_i hfree
      rw [hfree, Bool.true_or]
      rfl
    · rename_i hfree
      rw [Bool.eq_false_iff.mpr hfree, Bool.false_or]
      cases r.installer with
      | none => rfl
      | some i =>
        cases r.uninstaller with
        | some u =>
          -- each location is looked up in turn, and the check passes when every look-up does
          dsimp only
          rw [pure_bind, Except.isOk_foldlM _ (fun x => storedIgnoringCase paths x.2.path) fun _ x => ?_]
          · simp
          · exact (PkgIndex.isOk_lookup_bind _ _ _ _ fun o => by cases o <;> rfl).trans
              (PkgIndex.lookup_isOk x.1 x.2.path)
        | none =>
          dsimp only
          split
          · rename_i hneeds
            rw [hneeds, Bool.not_true, Bool.and_false]
            rfl
          · rename_i hneeds
            rw [Bool.eq_false_iff.mpr hneeds, Bool.not_false, Bool.and_true, pure_bind,
              Except.isOk_foldlM _ (fun x => storedIgnoringCase paths x.2.path) fun _ x => ?_]
            · simp
            · exact (PkgIndex.isOk_lookup_bind _ _ _ _ fun o => by cases o <;> rfl).trans
                (PkgIndex.lookup_isOk x.1 x.2.path)

end Items

section Acceptance

variable (options : CatalogOptions) (paths : List String)

-- Whether a build accepts a record that parsed: items not looked for, forced through, or
-- present.
def CatalogOptions.accepts (r : PkginfoRecord) : Bool :=
  options.skipPkgCheck || options.force || itemsPresent paths r

-- The records a build accepts, with their identifiers, in listing order.
def acceptedRecords (loaded : List (String × Except Error PkginfoRecord)) : List (String × PkginfoRecord) :=
  loaded.filterMap fun x =>
    match x.2 with
    | .ok r => if options.accepts paths r then some (x.1, r) else none
    | .error _ => none

variable {options paths} {r : PkginfoRecord}

theorem Report.foldl_warn (ws : List String) (report : Report) :
    ws.foldl Report.warn report = { report with warnings := report.warnings ++ ws } := by
  induction ws generalizing report with
  | nil => simp
  | cons w ws ih => simp [ih, Report.warn]

theorem screen_of_accepts (h : options.accepts paths r = true) (id : String) (report : Report) :
    ∃ report', Assembly.screen options (PkgIndex.ofList paths) id r report = .ok report' ∧
      report'.errors = report.errors ∧ report.warnings <+: report'.warnings := by
  unfold Assembly.screen
  split
  · exact ⟨report, rfl, rfl, List.prefix_refl _⟩
  · rename_i hcheck
    split
    · rename_i ws _
      rw [Report.foldl_warn]
      exact ⟨_, rfl, rfl, List.prefix_append _ _⟩
    · rename_i e hverify
      -- the items are missing, so the record passes only by force
      have hforce : options.force = true := by
        have hmissing : itemsPresent paths r = false := by
          rw [← verifyItems_isOk, hverify]
          rfl
        simpa [CatalogOptions.accepts, hcheck, hmissing] using h
      rw [if_pos hforce]
      exact ⟨_, rfl, rfl, List.prefix_append _ _⟩

theorem screen_of_refuses (h : options.accepts paths r = false) (id : String) (report : Report) :
    ∃ e, verifyItems r (PkgIndex.ofList paths) = .error e ∧
      Assembly.screen options (PkgIndex.ofList paths) id r report =
        .error (report.error (.pkginfoAccess id e)) := by
  simp only [CatalogOptions.accepts, Bool.or_eq_false_iff] at h
  obtain ⟨⟨hskip, hforce⟩, hmissing⟩ := h
  rw [← verifyItems_isOk] at hmissing
  cases hverify : verifyItems r (PkgIndex.ofList paths) with
  | ok ws => rw [hverify] at hmissing; cases hmissing
  | error e =>
    refine ⟨e, rfl, ?_⟩
    simp [Assembly.screen, hskip, hforce, hverify]

end Acceptance

section Publication

-- The key under which a record is entered in a catalog.
def entryKey (c : String) (r : PkginfoRecord) : EntryKey := (c, r.name, r.version, r.constraints)

-- Whether a record is entered under a key: it names the key's catalog, which is not empty,
-- with the key's name, version and constraints.
def entersUnder (k : EntryKey) (y : String × PkginfoRecord) : Bool :=
  k.1 != "" && y.2.catalogs.contains k.1 && entryKey k.1 y.2 == k

@[simp] theorem entersUnder_eq_true {k : EntryKey} {y : String × PkginfoRecord} :
    entersUnder k y = true ↔ k.1 ≠ "" ∧ k.1 ∈ y.2.catalogs ∧ entryKey k.1 y.2 = k := by
  simp [entersUnder, and_assoc]

-- The entries a catalog receives from accepted records, given those met before them: `all`
-- receives every record, and a catalog that a record names receives it when no record met
-- before is entered under the same key.
def published (c : String) : List (String × PkginfoRecord) → List (String × PkginfoRecord) → List Value
  | _, [] => []
  | before, x :: rest =>
    (if c = allCatalog then [catalogEntry x.2.document] else []) ++
      (if entersUnder (entryKey c x.2) x && !before.any (entersUnder (entryKey c x.2)) then
        [catalogEntry x.2.document] else []) ++
      published c (before ++ [x]) rest

-- The error of an accepted record naming a catalog under whose key a record with another
-- identifier was entered before: it names that first record.
def duplicateError (before : List (String × PkginfoRecord)) (x : String × PkginfoRecord) (c : String) :
    Option Error :=
  match before.find? (entersUnder (entryKey c x.2)) with
  | some first => if first.1 = x.1 then none else some (.duplicateItem c x.2.name x.2.version first.1 x.1)
  | none => none

-- The duplicate errors of an accepted record, for the catalogs it names in order, as often as
-- it names them.
def duplicateErrors (before : List (String × PkginfoRecord)) (x : String × PkginfoRecord) : List Error :=
  x.2.catalogs.filterMap (duplicateError before x)

-- The errors a build records, in listing order: a failure to load, the failed check of a
-- refused record, and the duplicates of an accepted one.
def assemblyErrors (options : CatalogOptions) (paths : List String) :
    List (String × PkginfoRecord) → List (String × Except Error PkginfoRecord) → List Error
  | _, [] => []
  | before, (_, .error e) :: rest => e :: assemblyErrors options paths before rest
  | before, (id, .ok r) :: rest =>
    if options.accepts paths r then
      duplicateErrors before (id, r) ++ assemblyErrors options paths (before ++ [(id, r)]) rest
    else
      (match verifyItems r (PkgIndex.ofList paths) with
        | .error e => [.pkginfoAccess id e]
        | .ok _ => []) ++ assemblyErrors options paths before rest

end Publication

namespace Assembly

-- The entries of a catalog as assembled so far; none for a catalog not there.
def entries (a : Assembly) (c : String) : List Value :=
  (Sorted.findBy compare c a.catalogs).getD []

-- An assembly that has taken the records `before`: its catalogs in order, one for `all` and
-- for each name that a record names, and its first records by key those of `before`.
structure Tracks (a : Assembly) (before : List (String × PkginfoRecord)) : Prop where
  ordered : Sorted.Strict compare (a.catalogs.map Prod.fst)
  names : ∀ c, c ∈ a.catalogs.map Prod.fst ↔ c = allCatalog ∨ c ≠ "" ∧ ∃ y ∈ before, c ∈ y.2.catalogs
  seen : ∀ k, (a.seen.find? (·.1 == k)).map Prod.snd = (before.find? (entersUnder k)).map Prod.fst

variable {a : Assembly} {name c : String} {e : Value}

@[simp] theorem push_seen : (a.push name e).seen = a.seen := rfl

@[simp] theorem push_report : (a.push name e).report = a.report := rfl

theorem keys_push : (a.push name e).catalogs.map Prod.fst = Sorted.insertBy compare name (a.catalogs.map Prod.fst) :=
  Sorted.keys_alterBy _ _ _

theorem entries_push (h : Sorted.Strict compare (a.catalogs.map Prod.fst)) :
    (a.push name e).entries c = if c = name then a.entries c ++ [e] else a.entries c := by
  unfold entries push
  rw [Sorted.findBy_alterBy h]
  split
  · subst_vars
    rfl
  · rfl

theorem addToCatalog_cases (log : Logger) (id : String) (r : PkginfoRecord) (e : Value) (a : Assembly)
    (c : String) :
    (c = "" ∧ addToCatalog log id r e a c = { a with report := a.report.warn (id ++ " has an empty catalog name") }) ∨
    (c ≠ "" ∧ ∃ first, (a.seen.find? (·.1 == entryKey c r)).map Prod.snd = some first ∧
      addToCatalog log id r e a c =
        if first = id then a else { a with report := a.report.error (.duplicateItem c r.name r.version first id) }) ∨
    (c ≠ "" ∧ a.seen.find? (·.1 == entryKey c r) = none ∧
      ∃ l, addToCatalog log id r e a c = { a with seen := a.seen ++ [(entryKey c r, id)], log := l }.push c e) := by
  unfold addToCatalog
  by_cases hc : c = ""
  · exact .inl ⟨hc, by simp [hc]⟩
  have hne : c.isEmpty = false := by simpa using hc
  rw [if_neg (by simp [hne])]
  dsimp only
  split
  · rename_i key first hfound
    refine .inr (.inl ⟨hc, first, by simp [entryKey, hfound], ?_⟩)
    simp only [beq_iff_eq]
  · rename_i hnone
    exact .inr (.inr ⟨hc, hnone, _, rfl⟩)

theorem entersUnder_append_catalog (k : EntryKey) (id : String) (r : PkginfoRecord) (done : List String)
    (c : String) :
    entersUnder k (id, { r with catalogs := done ++ [c] }) =
      (entersUnder k (id, { r with catalogs := done }) || (c != "" && k == entryKey c r)) := by
  obtain ⟨k₁, k₂⟩ := k
  rw [Bool.eq_iff_iff]
  simp only [entersUnder_eq_true, List.mem_append, List.mem_singleton, Bool.or_eq_true,
    Bool.and_eq_true, bne_iff_ne, ne_eq, beq_iff_eq]
  constructor
  · rintro ⟨hne, hdone | rfl, hkey⟩
    · exact .inl ⟨hne, hdone, hkey⟩
    · exact .inr ⟨hne, by simpa [entryKey] using hkey.symm⟩
  · rintro (⟨hne, hdone, hkey⟩ | ⟨hne, hkey⟩)
    · exact ⟨hne, .inl hdone, hkey⟩
    · simp only [entryKey, Prod.mk.injEq] at hkey
      obtain ⟨rfl, rfl⟩ := hkey
      exact ⟨hne, .inr rfl, rfl⟩

section Step

variable {log : Logger} {id : String} {r : PkginfoRecord} {before : List (String × PkginfoRecord)}
  {done : List String}

theorem map_fst_find?_append_catalog (k : EntryKey) :
    ((before ++ [(id, { r with catalogs := done ++ [c] })]).find? (entersUnder k)).map Prod.fst =
      if c ≠ "" ∧ k = entryKey c r then
        (((before ++ [(id, { r with catalogs := done })]).find? (entersUnder k)).map Prod.fst).or (some id)
      else ((before ++ [(id, { r with catalogs := done })]).find? (entersUnder k)).map Prod.fst := by
  rw [List.find?_append, List.find?_append, List.find?_singleton, List.find?_singleton,
    entersUnder_append_catalog]
  by_cases hk : c ≠ "" ∧ k = entryKey c r
  · rw [if_pos hk]
    have hnew : (c != "" && k == entryKey c r) = true := by simp [hk.1, hk.2]
    cases before.find? (entersUnder k) <;> by_cases hx : entersUnder k (id, { r with catalogs := done }) = true <;>
      simp [hx, hnew]
  · rw [if_neg hk]
    have hnew : (c != "" && k == entryKey c r) = false := by
      rw [Bool.eq_false_iff]
      intro h
      exact hk (by simpa using h)
    rw [hnew, Bool.or_false]
    -- the record is found as before, with its identifier
    cases before.find? (entersUnder k) <;> split <;> rfl

theorem map_snd_find?_seen_addToCatalog (e : Value) (a : Assembly) (k : EntryKey) :
    ((addToCatalog log id r e a c).seen.find? (·.1 == k)).map Prod.snd =
      if c ≠ "" ∧ k = entryKey c r then ((a.seen.find? (·.1 == k)).map Prod.snd).or (some id)
      else (a.seen.find? (·.1 == k)).map Prod.snd := by
  rcases addToCatalog_cases log id r e a c with ⟨hc, heq⟩ | ⟨hc, first, hfound, heq⟩ | ⟨hc, hnone, l, heq⟩
  · rw [heq, if_neg (fun h => h.1 hc)]
  · -- the key was taken: nothing changes, and the first holder stays
    have hseen : (addToCatalog log id r e a c).seen = a.seen := by
      rw [heq]
      split <;> rfl
    rw [hseen]
    split
    · rename_i hk
      rw [hk.2, hfound]
      rfl
    · rfl
  · rw [heq, push_seen]
    dsimp only
    rw [List.find?_append]
    split
    · rename_i hk
      rw [hk.2, hnone]
      simp
    · rename_i hk
      have hother : k ≠ entryKey c r := fun e => hk ⟨hc, e⟩
      have hmiss : [(entryKey c r, id)].find? (·.1 == k) = none := by
        simp [Ne.symm hother]
      rw [hmiss, Option.or_none]

theorem exists_catalog_append_catalog {c' : String} :
    (∃ y ∈ before ++ [(id, { r with catalogs := done ++ [c] })], c' ∈ y.2.catalogs) ↔
      (∃ y ∈ before ++ [(id, { r with catalogs := done })], c' ∈ y.2.catalogs) ∨ c' = c := by
  simp only [List.mem_append, List.mem_singleton]
  constructor
  · rintro ⟨y, hy | rfl, hc'⟩
    · exact .inl ⟨y, .inl hy, hc'⟩
    · rcases List.mem_append.mp hc' with hc' | hc'
      · exact .inl ⟨_, .inr rfl, hc'⟩
      · exact .inr (List.mem_singleton.mp hc')
  · rintro (⟨y, hy | rfl, hc'⟩ | rfl)
    · exact ⟨y, .inl hy, hc'⟩
    · exact ⟨_, .inr rfl, List.mem_append_left _ hc'⟩
    · exact ⟨_, .inr rfl, List.mem_append_right _ (List.mem_singleton_self _)⟩

theorem Tracks.enter {a : Assembly} (h : a.Tracks (before ++ [(id, { r with catalogs := done })]))
    (e : Value) (c : String) :
    (Assembly.addToCatalog log id r e a c).Tracks (before ++ [(id, { r with catalogs := done ++ [c] })]) := by
  -- the names gain the catalog, when it is not empty
  have names' : ∀ c', (c' = allCatalog ∨ c' ≠ "" ∧
      ∃ y ∈ before ++ [(id, { r with catalogs := done ++ [c] })], c' ∈ y.2.catalogs) ↔
      c' ∈ a.catalogs.map Prod.fst ∨ (c' ≠ "" ∧ c' = c) := by
    intro c'
    rw [exists_catalog_append_catalog, h.names c']
    constructor
    · rintro (hall | ⟨hne, hold | rfl⟩)
      · exact .inl (.inl hall)
      · exact .inl (.inr ⟨hne, hold⟩)
      · exact .inr ⟨hne, rfl⟩
    · rintro ((hall | ⟨hne, hold⟩) | ⟨hne, rfl⟩)
      · exact .inl hall
      · exact .inr ⟨hne, .inl hold⟩
      · exact .inr ⟨hne, .inr rfl⟩
  have seen' : ∀ k, ((Assembly.addToCatalog log id r e a c).seen.find? (·.1 == k)).map Prod.snd =
      ((before ++ [(id, { r with catalogs := done ++ [c] })]).find? (entersUnder k)).map Prod.fst := by
    intro k
    rw [map_snd_find?_seen_addToCatalog, map_fst_find?_append_catalog, h.seen k]
  rcases addToCatalog_cases log id r e a c with ⟨hc, heq⟩ | ⟨hc, first, hfound, heq⟩ | ⟨hc, hnone, l, heq⟩
  · refine ⟨?_, fun c' => ?_, seen'⟩
    · rw [heq]
      exact h.ordered
    · rw [names', heq]
      exact (or_iff_left fun ⟨hne, e⟩ => hne (e.trans hc)).symm
  · have hcat : (Assembly.addToCatalog log id r e a c).catalogs = a.catalogs := by
      rw [heq]
      split <;> rfl
    -- a record entered under the catalog's key put the catalog among the names
    have hnamed : c ∈ a.catalogs.map Prod.fst := by
      rw [h.seen, Option.map_eq_some_iff] at hfound
      obtain ⟨y, hy, -⟩ := hfound
      have henters := entersUnder_eq_true.mp (List.find?_some hy)
      exact (h.names c).mpr (.inr ⟨henters.1, y, List.mem_of_find?_eq_some hy, henters.2.1⟩)
    refine ⟨hcat ▸ h.ordered, fun c' => ?_, seen'⟩
    rw [names', hcat]
    exact ⟨.inl, fun h' => h'.elim (fun hold => hold) fun ⟨_, e⟩ => e ▸ hnamed⟩
  · have hcat : (Assembly.addToCatalog log id r e a c).catalogs.map Prod.fst =
        Sorted.insertBy compare c (a.catalogs.map Prod.fst) := by
      rw [heq, keys_push]
    refine ⟨?_, fun c' => ?_, seen'⟩
    · rw [hcat]
      exact h.ordered.insertBy
    · rw [names', hcat, Sorted.mem_insertBy]
      exact ⟨fun h' => h'.elim (fun e => .inr ⟨e ▸ hc, e⟩) .inl,
        fun h' => h'.elim .inr fun ⟨_, e⟩ => .inl e⟩

theorem Tracks.find?_eq_none_iff {a : Assembly} (h : a.Tracks (before ++ [(id, { r with catalogs := done })]))
    (hc : c ≠ "") :
    a.seen.find? (·.1 == entryKey c r) = none ↔
      before.any (entersUnder (entryKey c r)) = false ∧ c ∉ done := by
  rw [← Option.map_eq_none_iff, h.seen, Option.map_eq_none_iff, List.find?_eq_none]
  simp only [List.mem_append, List.mem_singleton, Bool.not_eq_true]
  constructor
  · intro hfree
    refine ⟨List.any_eq_false.mpr fun y hy => ?_, fun hdone => ?_⟩
    · rw [hfree y (.inl hy)]
      exact Bool.false_ne_true
    · have := hfree _ (.inr rfl)
      simp [entersUnder, entryKey, hc, hdone] at this
  · rintro ⟨hbefore, hdone⟩ y (hy | rfl)
    · exact Bool.eq_false_iff.mpr (List.any_eq_false.mp hbefore y hy)
    · simp [entersUnder, entryKey, hdone]

theorem Tracks.entries_enter {a : Assembly} (h : a.Tracks (before ++ [(id, { r with catalogs := done })]))
    (e : Value) (c c' : String) :
    (Assembly.addToCatalog log id r e a c).entries c' = a.entries c' ++
      if c' = c ∧ c ≠ "" ∧ c ∉ done ∧ before.any (entersUnder (entryKey c r)) = false then [e] else [] := by
  rcases addToCatalog_cases log id r e a c with ⟨hc, heq⟩ | ⟨hc, first, hfound, heq⟩ | ⟨hc, hnone, l, heq⟩
  · rw [heq, if_neg fun h' => h'.2.1 hc, List.append_nil]
    rfl
  · -- the key is taken, by an earlier record or by this one
    have htaken : ¬(before.any (entersUnder (entryKey c r)) = false ∧ c ∉ done) := fun hfree => by
      rw [(h.find?_eq_none_iff hc).mpr hfree] at hfound
      cases hfound
    have hcat : (Assembly.addToCatalog log id r e a c).catalogs = a.catalogs := by
      rw [heq]
      split <;> rfl
    rw [if_neg fun h' => htaken ⟨h'.2.2.2, h'.2.2.1⟩, List.append_nil]
    unfold entries
    rw [hcat]
  · have hfree := (h.find?_eq_none_iff hc).mp hnone
    rw [heq, entries_push (a := { a with seen := a.seen ++ [(entryKey c r, id)], log := l }) h.ordered]
    by_cases hc' : c' = c
    · rw [if_pos hc', if_pos ⟨hc', hc, hfree.2, hfree.1⟩]
      rfl
    · rw [if_neg hc', if_neg fun h' => hc' h'.1, List.append_nil]
      rfl

theorem Tracks.errors_enter {a : Assembly} (h : a.Tracks (before ++ [(id, { r with catalogs := done })]))
    (e : Value) (c : String) :
    (Assembly.addToCatalog log id r e a c).report.errors =
      a.report.errors ++ (duplicateError before (id, r) c).toList := by
  rcases addToCatalog_cases log id r e a c with ⟨hc, heq⟩ | ⟨hc, first, hfound, heq⟩ | ⟨hc, hnone, l, heq⟩
  · -- an empty name is entered under no key
    have hnone : before.find? (entersUnder (entryKey c r)) = none := by
      rw [List.find?_eq_none]
      intro y _
      simp [entersUnder, entryKey, hc]
    rw [heq, duplicateError, hnone]
    simp [Report.warn]
  · rw [h.seen, List.find?_append, Option.map_eq_some_iff] at hfound
    obtain ⟨y, hy, rfl⟩ := hfound
    rw [heq, duplicateError]
    cases hbefore : before.find? (entersUnder (entryKey c r)) with
    | some y' =>
      -- an earlier record holds the key: the error names it, unless it is this very record
      rw [hbefore, Option.some_or] at hy
      cases hy
      by_cases hsame : y.1 = id
      · simp [hsame]
      · simp [hsame, Report.error]
    | none =>
      -- this record holds the key itself
      rw [hbefore, Option.none_or, List.find?_singleton] at hy
      split at hy
      · cases hy
        simp
      · cases hy
  · have hfree := (h.find?_eq_none_iff hc).mp hnone
    have hnone' : before.find? (entersUnder (entryKey c r)) = none := by
      rw [List.find?_eq_none]
      intro y hy
      simpa using List.any_eq_false.mp hfree.1 y hy
    rw [heq, duplicateError, hnone']
    simp

theorem warnings_enter (e : Value) (a : Assembly) (c : String) :
    (Assembly.addToCatalog log id r e a c).report.warnings =
      a.report.warnings ++ if c = "" then [id ++ " has an empty catalog name"] else [] := by
  rcases addToCatalog_cases log id r e a c with ⟨hc, heq⟩ | ⟨hc, first, hfound, heq⟩ | ⟨hc, hnone, l, heq⟩
  · rw [heq, if_pos hc]
    rfl
  · rw [heq, if_neg hc, List.append_nil]
    split <;> rfl
  · rw [heq, if_neg hc, List.append_nil]
    rfl

-- Going through a record's catalogs one by one: the fold keeps track of the record as naming
-- the catalogs gone through; a catalog gains the entry at the first time the record names it,
-- when its key is free; each catalog named gives its duplicate error, each empty one a warning.
theorem Tracks.foldl_enter (e : Value) :
    ∀ (cs done : List String) (a : Assembly), a.Tracks (before ++ [(id, { r with catalogs := done })]) →
      (cs.foldl (Assembly.addToCatalog log id r e) a).Tracks (before ++ [(id, { r with catalogs := done ++ cs })])
  | [], done, a, h => by simpa using h
  | c :: cs, done, a, h => by
    simpa using Tracks.foldl_enter e cs (done ++ [c]) _ (h.enter e c)

theorem Tracks.entries_foldl_enter (e : Value) (c' : String) :
    ∀ (cs done : List String) (a : Assembly), a.Tracks (before ++ [(id, { r with catalogs := done })]) →
      (cs.foldl (Assembly.addToCatalog log id r e) a).entries c' = a.entries c' ++
        if c' ≠ "" ∧ c' ∈ cs ∧ c' ∉ done ∧ before.any (entersUnder (entryKey c' r)) = false then [e] else []
  | [], done, a, h => by simp
  | c :: cs, done, a, h => by
    rw [List.foldl_cons, Tracks.entries_foldl_enter e c' cs (done ++ [c]) _ (h.enter e c),
      h.entries_enter e c c', List.append_assoc]
    congr 1
    by_cases hc' : c' = c
    · -- the first time the record names the catalog is here, and not again
      subst hc'
      have hlater : ¬(c' ≠ "" ∧ c' ∈ cs ∧ c' ∉ done ++ [c'] ∧
          before.any (entersUnder (entryKey c' r)) = false) :=
        fun h' => h'.2.2.1 (List.mem_append_right _ (List.mem_singleton_self _))
      rw [if_neg hlater, List.append_nil]
      exact ite_congr (propext (by simp)) (fun _ => rfl) (fun _ => rfl)
    · rw [if_neg fun h' => hc' h'.1, List.nil_append]
      exact ite_congr (propext (by simp [hc'])) (fun _ => rfl) (fun _ => rfl)

theorem Tracks.errors_foldl_enter (e : Value) :
    ∀ (cs done : List String) (a : Assembly), a.Tracks (before ++ [(id, { r with catalogs := done })]) →
      (cs.foldl (Assembly.addToCatalog log id r e) a).report.errors =
        a.report.errors ++ cs.filterMap (duplicateError before (id, r))
  | [], done, a, h => by simp
  | c :: cs, done, a, h => by
    rw [List.foldl_cons, Tracks.errors_foldl_enter e cs (done ++ [c]) _ (h.enter e c), h.errors_enter e c,
      List.filterMap_cons]
    cases duplicateError before (id, r) c <;> simp

theorem warnings_foldl_enter (e : Value) :
    ∀ (cs : List String) (a : Assembly),
      (cs.foldl (Assembly.addToCatalog log id r e) a).report.warnings =
        a.report.warnings ++ cs.filterMap fun c => if c = "" then some (id ++ " has an empty catalog name") else none
  | [], a => by simp
  | c :: cs, a => by
    rw [List.foldl_cons, warnings_foldl_enter e cs, warnings_enter, List.filterMap_cons]
    split <;> simp

end Step

section Run

variable {options : CatalogOptions} {paths : List String} {log : Logger}
  {before : List (String × PkginfoRecord)} {a a' a'' : Assembly}

@[simp] theorem acceptedRecords_nil : acceptedRecords options paths [] = [] := rfl

theorem acceptedRecords_append (L₁ L₂ : List (String × Except Error PkginfoRecord)) :
    acceptedRecords options paths (L₁ ++ L₂) =
      acceptedRecords options paths L₁ ++ acceptedRecords options paths L₂ :=
  List.filterMap_append

theorem published_append (c : String) :
    ∀ (before A B : List (String × PkginfoRecord)),
      published c before (A ++ B) = published c before A ++ published c (before ++ A) B
  | _, [], _ => by simp [published]
  | before, x :: A, B => by
    simp [published, published_append c (before ++ [x]) A B]

theorem assemblyErrors_append :
    ∀ (before : List (String × PkginfoRecord)) (L₁ L₂ : List (String × Except Error PkginfoRecord)),
      assemblyErrors options paths before (L₁ ++ L₂) = assemblyErrors options paths before L₁ ++
        assemblyErrors options paths (before ++ acceptedRecords options paths L₁) L₂
  | _, [], _ => by simp [assemblyErrors]
  | before, (id, .error e) :: L₁, L₂ => by
    simp [assemblyErrors, acceptedRecords, assemblyErrors_append before L₁ L₂]
  | before, (id, .ok r) :: L₁, L₂ => by
    by_cases h : options.accepts paths r = true
    · simp [assemblyErrors, acceptedRecords, h, assemblyErrors_append (before ++ [(id, r)]) L₁ L₂]
    · simp [assemblyErrors, acceptedRecords, h, assemblyErrors_append before L₁ L₂]

-- An assembly `a'` reached from `a` by taking the loaded records `loaded`, when `a` had taken
-- the accepted records `before`: it has taken the accepted ones of `loaded` too, each catalog
-- has gained what they publish, the report has gained their errors in order and kept its
-- warnings, and each empty catalog name they give is a warning.
structure Takes (options : CatalogOptions) (paths : List String) (before : List (String × PkginfoRecord))
    (loaded : List (String × Except Error PkginfoRecord)) (a a' : Assembly) : Prop where
  tracks : a'.Tracks (before ++ acceptedRecords options paths loaded)
  entries : ∀ c, a'.entries c = a.entries c ++ published c before (acceptedRecords options paths loaded)
  errors : a'.report.errors = a.report.errors ++ assemblyErrors options paths before loaded
  warnings : a.report.warnings <+: a'.report.warnings
  emptyNames : ∀ y ∈ acceptedRecords options paths loaded, "" ∈ y.2.catalogs →
    y.1 ++ " has an empty catalog name" ∈ a'.report.warnings

theorem Takes.trans {L₁ L₂ : List (String × Except Error PkginfoRecord)}
    (h₁ : Takes options paths before L₁ a a') (h₂ : Takes options paths (before ++ acceptedRecords options paths L₁) L₂ a' a'') :
    Takes options paths before (L₁ ++ L₂) a a'' where
  tracks := by
    rw [acceptedRecords_append, ← List.append_assoc]
    exact h₂.tracks
  entries c := by
    rw [h₂.entries, h₁.entries, acceptedRecords_append, published_append, List.append_assoc]
  errors := by
    rw [h₂.errors, h₁.errors, assemblyErrors_append, List.append_assoc]
  warnings := h₁.warnings.trans h₂.warnings
  emptyNames y hy hempty := by
    rcases List.mem_append.mp ((acceptedRecords_append L₁ L₂) ▸ hy) with hy | hy
    · exact h₂.warnings.subset (h₁.emptyNames y hy hempty)
    · exact h₂.emptyNames y hy hempty

theorem Tracks.withReport (h : a.Tracks before) (report : Report) : ({ a with report }).Tracks before :=
  ⟨h.ordered, h.names, h.seen⟩

@[simp] theorem entries_withReport (report : Report) (c : String) : ({ a with report }).entries c = a.entries c :=
  rfl

theorem Tracks.start (h : a.Tracks before) (id : String) (r : PkginfoRecord) (e : Value) :
    (a.push allCatalog e).Tracks (before ++ [(id, { r with catalogs := [] })]) where
  ordered := by
    rw [keys_push]
    exact h.ordered.insertBy
  names c := by
    rw [keys_push, Sorted.mem_insertBy]
    simp only [List.mem_append, List.mem_singleton]
    rw [h.names c]
    constructor
    · rintro (rfl | hall | ⟨hne, y, hy, hc⟩)
      · exact .inl rfl
      · exact .inl hall
      · exact .inr ⟨hne, y, .inl hy, hc⟩
    · rintro (hall | ⟨hne, y, hy | rfl, hc⟩)
      · exact .inl hall
      · exact .inr (.inr ⟨hne, y, hy, hc⟩)
      · cases hc
  seen k := by
    rw [push_seen, List.find?_append, List.find?_singleton]
    simpa using h.seen k

theorem Takes.error (h : a.Tracks before) (id : String) (e : Error) :
    Takes options paths before [(id, .error e)] a (Assembly.add options (PkgIndex.ofList paths) log a (id, .error e)) where
  tracks := by simpa [acceptedRecords, Assembly.add] using h.withReport (a.report.error e)
  entries c := by simp [acceptedRecords, published, Assembly.add]
  errors := by simp [Assembly.add, assemblyErrors, Report.error]
  warnings := List.prefix_refl _
  emptyNames y hy := by simp [acceptedRecords] at hy

theorem Takes.refused (h : a.Tracks before) {id : String} {r : PkginfoRecord}
    (hrefuse : options.accepts paths r = false) :
    Takes options paths before [(id, .ok r)] a (Assembly.add options (PkgIndex.ofList paths) log a (id, .ok r)) := by
  obtain ⟨err, hverify, hscreen⟩ := screen_of_refuses hrefuse id a.report
  have hadd : Assembly.add options (PkgIndex.ofList paths) log a (id, .ok r) =
      { a with report := a.report.error (.pkginfoAccess id err) } := by
    simp [Assembly.add, hscreen]
  rw [hadd]
  exact {
    tracks := by simpa [acceptedRecords, hrefuse] using h.withReport (a.report.error (.pkginfoAccess id err))
    entries := fun c => by simp [acceptedRecords, hrefuse, published]
    errors := by simp [assemblyErrors, hrefuse, hverify, Report.error]
    warnings := List.prefix_refl _
    emptyNames := fun y hy => by simp [acceptedRecords, hrefuse] at hy }

theorem Takes.accepted (h : a.Tracks before) {id : String} {r : PkginfoRecord}
    (haccept : options.accepts paths r = true) :
    Takes options paths before [(id, .ok r)] a (Assembly.add options (PkgIndex.ofList paths) log a (id, .ok r)) := by
  obtain ⟨report', hscreen, herrors, hwarnings⟩ := screen_of_accepts haccept id a.report
  have hadd : Assembly.add options (PkgIndex.ofList paths) log a (id, .ok r) =
      r.catalogs.foldl (Assembly.addToCatalog log id r (catalogEntry r.document))
        ({ a with report := report' }.push allCatalog (catalogEntry r.document)) := by
    simp [Assembly.add, hscreen]
  have hstart := (h.withReport report').start id r (catalogEntry r.document)
  have haccepted : acceptedRecords options paths [(id, .ok r)] = [(id, r)] := by
    simp [acceptedRecords, haccept]
  rw [hadd]
  refine ⟨?tracks, fun c => ?entries, ?errors, ?warnings, fun y hy hempty => ?emptyNames⟩
  case tracks =>
    rw [haccepted]
    exact hstart.foldl_enter _ r.catalogs [] _
  case entries =>
    rw [haccepted, hstart.entries_foldl_enter _ c r.catalogs [] _, entries_push (h.withReport report').ordered]
    -- the record enters `all`, and then the catalog when it names it and the key is free
    have hnames : entersUnder (entryKey c r) (id, r) = true ↔ c ≠ "" ∧ c ∈ r.catalogs := by
      simp [entryKey]
    simp only [published, entries_withReport, List.append_nil, List.not_mem_nil, not_false_eq_true,
      true_and, Bool.and_eq_true, Bool.not_eq_true', hnames]
    have hcond : (if c ≠ "" ∧ c ∈ r.catalogs ∧ before.any (entersUnder (entryKey c r)) = false then
          [catalogEntry r.document] else []) =
        if (c ≠ "" ∧ c ∈ r.catalogs) ∧ before.any (entersUnder (entryKey c r)) = false then
          [catalogEntry r.document] else [] := by
      by_cases hfirst : c ≠ "" ∧ c ∈ r.catalogs ∧ before.any (entersUnder (entryKey c r)) = false
      · rw [if_pos hfirst, if_pos ⟨⟨hfirst.1, hfirst.2.1⟩, hfirst.2.2⟩]
      · rw [if_neg hfirst, if_neg fun h' => hfirst ⟨h'.1.1, h'.1.2, h'.2⟩]
    by_cases hall : c = allCatalog
    · simpa [hall, List.append_assoc] using hcond
    · simpa [hall] using hcond
  case errors =>
    rw [hstart.errors_foldl_enter _ r.catalogs [] _]
    simp [assemblyErrors, haccept, duplicateErrors, herrors]
  case warnings =>
    rw [warnings_foldl_enter]
    exact hwarnings.trans (List.prefix_append _ _)
  case emptyNames =>
    rw [haccepted, List.mem_singleton] at hy
    subst hy
    rw [warnings_foldl_enter]
    exact List.mem_append_right _ (List.mem_filterMap.mpr ⟨"", hempty, by simp⟩)

theorem Takes.add (log : Logger) (h : a.Tracks before) (x : String × Except Error PkginfoRecord) :
    Takes options paths before [x] a (Assembly.add options (PkgIndex.ofList paths) log a x) := by
  obtain ⟨id, e | r⟩ := x
  · exact Takes.error h id e
  · cases haccept : options.accepts paths r
    · exact Takes.refused h haccept
    · exact Takes.accepted h haccept

theorem Takes.foldl (log : Logger) :
    ∀ (loaded : List (String × Except Error PkginfoRecord)) (a : Assembly) (before : List (String × PkginfoRecord)),
      a.Tracks before →
        Takes options paths before loaded a (loaded.foldl (Assembly.add options (PkgIndex.ofList paths) log) a)
  | [], a, before, h => ⟨by simpa using h, fun c => by simp [published], by simp [assemblyErrors],
      List.prefix_refl _, fun y hy => by simp at hy⟩
  | x :: rest, a, before, h =>
    have step := Takes.add log h x
    step.trans (Takes.foldl log rest _ _ step.tracks)

theorem tracks_start (report : Report) : ({ report } : Assembly).Tracks [] where
  ordered := List.pairwise_singleton _ _
  names c := by simp [allCatalog]
  seen _ := rfl

theorem entries_start (report : Report) (c : String) : ({ report } : Assembly).entries c = [] := by
  by_cases hc : c = allCatalog <;> simp [entries, Sorted.findBy, hc]

end Run

end Assembly

theorem published_all_of_not_named :
    ∀ {before A : List (String × PkginfoRecord)}, (∀ x ∈ A, allCatalog ∉ x.2.catalogs) →
      published allCatalog before A = A.map (catalogEntry ·.2.document)
  | _, [], _ => rfl
  | before, x :: A, h => by
    have hx : entersUnder (entryKey allCatalog x.2) x = false :=
      Bool.eq_false_iff.mpr fun hin => h x (List.mem_cons_self ..) (entersUnder_eq_true.mp hin).2.1
    rw [published, if_pos rfl, hx, Bool.false_and, if_neg Bool.false_ne_true,
      published_all_of_not_named fun y hy => h y (List.mem_cons_of_mem _ hy)]
    rfl

section Build

variable (options : CatalogOptions) (paths : List String) (log : Logger)
  (loaded : List (String × Except Error PkginfoRecord)) (report : Report)

-- What a build publishes from the loaded records. The item check passes exactly when the items
-- it asks for are present. The catalogs are `all` and every non-empty name an accepted record
-- gives. Each catalog holds what `published` says, in listing order: `all` every accepted
-- record, and once more a record that names `all` and is the first with its key there; any
-- other catalog the accepted records that name it and are the first with their key. So when
-- no accepted record names `all`, it holds each accepted record once. The errors are those
-- of `assemblyErrors`, in listing order: each failure to load, the failed check of each
-- refused record, and for each accepted record naming a catalog after another record with its
-- key, an error naming that first record. An empty catalog name gives only a warning.
theorem catalogs_publish_accepted_records :
    (∀ r, (verifyItems r (PkgIndex.ofList paths)).isOk = itemsPresent paths r) ∧
    (∀ c, c ∈ (assemble options (PkgIndex.ofList paths) log loaded report).catalogs.map Prod.fst ↔
      c = allCatalog ∨ c ≠ "" ∧ ∃ x ∈ acceptedRecords options paths loaded, c ∈ x.2.catalogs) ∧
    (∀ c, (assemble options (PkgIndex.ofList paths) log loaded report).entries c =
      published c [] (acceptedRecords options paths loaded)) ∧
    ((∀ x ∈ acceptedRecords options paths loaded, allCatalog ∉ x.2.catalogs) →
      (assemble options (PkgIndex.ofList paths) log loaded report).entries allCatalog =
        (acceptedRecords options paths loaded).map (catalogEntry ·.2.document)) ∧
    (assemble options (PkgIndex.ofList paths) log loaded report).report.errors =
      report.errors ++ assemblyErrors options paths [] loaded ∧
    (∀ x ∈ acceptedRecords options paths loaded, "" ∈ x.2.catalogs →
      x.1 ++ " has an empty catalog name" ∈ (assemble options (PkgIndex.ofList paths) log loaded report).report.warnings) := by
  have run : Assembly.Takes options paths [] loaded { report } (assemble options (PkgIndex.ofList paths) log loaded report) :=
    Assembly.Takes.foldl log loaded { report } [] (Assembly.tracks_start report)
  have entries : ∀ c, (assemble options (PkgIndex.ofList paths) log loaded report).entries c =
      published c [] (acceptedRecords options paths loaded) := fun c => by
    rw [run.entries c, Assembly.entries_start, List.nil_append]
  refine ⟨verifyItems_isOk, fun c => ?names, entries, fun hall => ?all, run.errors, run.emptyNames⟩
  case names =>
    have names := run.tracks.names c
    rwa [List.nil_append] at names
  case all =>
    rw [entries]
    exact published_all_of_not_named hall

-- A record that names `all` among its catalogs, with no payload.
def recordNamingAll : PkginfoRecord where
  identifier := "pkgsinfo/a"
  metadataSize := 120
  name := "A"
  version := "1"
  catalogs := [allCatalog]
  requires := []
  updateFor := []
  uninstallMethod := none
  receipts := []
  installer := none
  uninstaller := none
  installerType := some "nopkg"
  remotePackage := false
  constraints := ⟨none, none, [], none⟩
  document := [("name", .string "A"), ("version", .string "1"), ("catalogs", .array [.string allCatalog]),
    ("installer_type", .string "nopkg")]

-- The record is accepted once and published twice in `all`.
theorem record_naming_all_published_twice :
    acceptedRecords {} [] [("pkgsinfo/a", .ok recordNamingAll)] = [("pkgsinfo/a", recordNamingAll)] ∧
      (assemble {} (PkgIndex.ofList []) {} [("pkgsinfo/a", .ok recordNamingAll)] {}).entries allCatalog =
        [catalogEntry recordNamingAll.document, catalogEntry recordNamingAll.document] :=
  ⟨rfl, rfl⟩

end Build

end Depot
