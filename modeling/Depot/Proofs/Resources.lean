import Depot.Proofs.Installers

namespace Depot

section Prefixes

theorem String.isPrefixOf_append_self (p x : String) : p.isPrefixOf (p ++ x) = true := by
  rw [String.isPrefixOf, String.startsWith_string_iff, String.toList_append]
  exact List.prefix_append _ _

theorem String.relative_append (p x : String) : String.ofList ((p ++ x).toList.drop p.length) = x := by
  rw [String.toList_append, ← String.length_toList, List.drop_left, String.ofList_toList]

theorem String.eq_append_relative {p k : String} (h : p.isPrefixOf k = true) :
    k = p ++ String.ofList (k.toList.drop p.length) := by
  rw [String.isPrefixOf, String.startsWith_string_iff] at h
  obtain ⟨t, ht⟩ := h
  apply String.toList_injective
  rw [String.toList_append, String.toList_ofList, ← ht, ← String.length_toList, List.drop_left]

-- A catalog does not sit in the icon collection: the first letters differ.
theorem Collection.icons_not_prefix_catalog (n : String) :
    (Collection.icons.name ++ "/").isPrefixOf (Collection.catalogs.identifier n) = false := by
  rw [Bool.eq_false_iff]
  intro h
  rw [String.isPrefixOf, String.startsWith_string_iff] at h
  obtain ⟨t, ht⟩ := h
  have := congrArg (List.take 1) ht
  simp [Collection.identifier, Collection.name] at this

theorem Collection.icons_identifier_ne_catalogs (x n : String) :
    Collection.icons.identifier x ≠ Collection.catalogs.identifier n := fun h => by
  have := Collection.icons_not_prefix_catalog n
  rw [← h, Collection.identifier, String.isPrefixOf_append_self] at this
  cases this

theorem Collection.identifier_ne_of_not_mem (k : Collection) {n : String} {names : List String}
    (h : n ∉ names) : ∀ c ∈ names, k.identifier n ≠ k.identifier c :=
  fun _ hc he => h (Collection.identifier_injective k he ▸ hc)

theorem isCatalog_iff {id : String} :
    IsCatalog id ↔ (Collection.catalogs.name ++ "/").isPrefixOf id = true := by
  constructor
  · rintro ⟨n, rfl⟩
    exact String.isPrefixOf_append_self _ n
  · intro h
    exact ⟨_, String.eq_append_relative h⟩

instance : DecidablePred IsCatalog := fun _ => decidable_of_iff _ isCatalog_iff.symm

instance : DecidablePred IsCatalogOutput := fun id =>
  inferInstanceAs (Decidable (IsCatalog id ∨ id = Collection.icons.identifier iconHashesName))

theorem isCatalogOutput_icon {x : String} :
    IsCatalogOutput (Collection.icons.identifier x) ↔ x = iconHashesName := by
  constructor
  · rintro (⟨n, h⟩ | h)
    · exact absurd h (Collection.icons_identifier_ne_catalogs x n)
    · exact Collection.identifier_injective _ h
  · rintro rfl
    exact .inr rfl

end Prefixes

namespace MemoryStore

variable {s t : MemoryStore} {id j : String} {data : ByteArray}

def lookup (s : MemoryStore) (id : String) : Option ByteArray :=
  (s.items.find? (·.1 == id)).map Prod.snd

theorem find?_insertItem (items : List (String × ByteArray)) :
    (insertItem id data items).find? (·.1 == j) = if j = id then some (id, data) else items.find? (·.1 == j) := by
  induction items with
  | nil =>
    by_cases h : j = id
    · subst h
      simp [insertItem]
    · simp [insertItem, h, Ne.symm h]
  | cons kv rest ih =>
    obtain ⟨k, v⟩ := kv
    simp only [insertItem]
    split
    · by_cases h : j = id
      · subst h
        simp
      · simp [h, Ne.symm h]
    · split
      · subst_vars
        by_cases h : j = k
        · subst h
          simp
        · simp [h, Ne.symm h]
      · rename_i hne
        rw [List.find?_cons, List.find?_cons, ih]
        by_cases h : j = id
        · subst h
          rw [beq_false_of_ne (Ne.symm hne)]
        · simp [h]

theorem find?_filter_ne (items : List (String × ByteArray)) :
    (items.filter (·.1 != id)).find? (·.1 == j) = if j = id then none else items.find? (·.1 == j) := by
  rw [List.find?_filter]
  split
  · subst_vars
    simp
  · rename_i h
    congr 1
    funext x
    by_cases hx : x.1 = j
    · simp [hx, h]
    · simp [hx]

@[simp] theorem lookup_insert : (s.insert id data).lookup j = if j = id then some data else s.lookup j := by
  unfold lookup insert
  rw [find?_insertItem]
  split <;> rfl

theorem lookup_filter_ne :
    ({ s with items := s.items.filter (·.1 != id) } : MemoryStore).lookup j = if j = id then none else s.lookup j := by
  unfold lookup
  rw [find?_filter_ne]
  split <;> rfl

theorem lookup_eq_none_iff : s.lookup j = none ↔ j ∉ s.identifiers := by
  simp only [lookup, identifiers, Option.map_eq_none_iff, List.find?_eq_none, beq_iff_eq, List.mem_map,
    not_exists, not_and]

theorem contains_iff : s.contains id = true ↔ id ∈ s.identifiers := by
  simp [contains, identifiers]

theorem repository_put_of_not_mem (h : id ∉ s.failing) :
    Repository.put s id data = (s.insert id data, .ok ()) := by
  show Changed.ofExcept s (s.put id data) = _
  rw [MemoryStore.put, check_of_not_mem h]
  rfl

theorem repository_put_of_mem (h : id ∈ s.failing) :
    Repository.put s id data = (s, .error (refusal id)) := by
  show Changed.ofExcept s (s.put id data) = _
  rw [MemoryStore.put, check_of_mem h]
  rfl

theorem repository_delete_of_deletable (h₁ : id ∉ s.failing) (h₂ : id ∉ s.undeletable) (h₃ : id ∈ s.identifiers) :
    Repository.delete s id = ({ s with items := s.items.filter (·.1 != id) }, .ok ()) := by
  show Changed.ofExcept s (s.delete id) = _
  rw [MemoryStore.delete, check_of_not_mem h₁, check_of_not_mem h₂, if_pos (contains_iff.mpr h₃)]
  rfl

theorem repository_delete_of_absent (h : id ∉ s.identifiers) :
    Repository.delete s id = (s, .error (if id ∈ s.failing ∨ id ∈ s.undeletable then refusal id else .notFound id)) := by
  show Changed.ofExcept s (s.delete id) = _
  have hc : s.contains id = false := Bool.eq_false_iff.mpr fun hc => h (contains_iff.mp hc)
  by_cases h₁ : id ∈ s.failing
  · rw [MemoryStore.delete, check_of_mem h₁, if_pos (Or.inl h₁)]
    rfl
  by_cases h₂ : id ∈ s.undeletable
  · rw [MemoryStore.delete, check_of_not_mem h₁, check_of_mem h₂, if_pos (Or.inr h₂)]
    rfl
  · have hm : ¬(id ∈ s.failing ∨ id ∈ s.undeletable) := fun hm => hm.elim h₁ h₂
    rw [MemoryStore.delete, check_of_not_mem h₁, check_of_not_mem h₂, hc, if_neg hm]
    rfl

theorem repository_delete_of_marked (h : id ∈ s.failing ∨ id ∈ s.undeletable) :
    Repository.delete s id = (s, .error (refusal id)) := by
  show Changed.ofExcept s (s.delete id) = _
  by_cases h₁ : id ∈ s.failing
  · rw [MemoryStore.delete, check_of_mem h₁]
    rfl
  · rw [MemoryStore.delete, check_of_not_mem h₁, check_of_mem (h.resolve_left h₁)]
    rfl

@[simp] theorem put_failing : (Repository.put s id data).1.failing = s.failing := by
  rcases repository_put_cases s id data with e | ⟨_, e⟩
  · rw [e]
    rfl
  · rw [e]

@[simp] theorem put_undeletable : (Repository.put s id data).1.undeletable = s.undeletable := by
  rcases repository_put_cases s id data with e | ⟨_, e⟩
  · rw [e]
    rfl
  · rw [e]

@[simp] theorem delete_failing : (Repository.delete s id).1.failing = s.failing := by
  rcases repository_delete_cases s id with e | ⟨_, e⟩ <;> rw [e]

@[simp] theorem delete_undeletable : (Repository.delete s id).1.undeletable = s.undeletable := by
  rcases repository_delete_cases s id with e | ⟨_, e⟩ <;> rw [e]

theorem lookup_put :
    (Repository.put s id data).1.lookup j = if j = id ∧ id ∉ s.failing then some data else s.lookup j := by
  by_cases h : id ∈ s.failing
  · rw [repository_put_of_mem h, if_neg fun h' => h'.2 h]
  · rw [repository_put_of_not_mem h, lookup_insert]
    by_cases hj : j = id <;> simp [hj, h]

theorem lookup_delete :
    (Repository.delete s id).1.lookup j =
      if j = id ∧ id ∉ s.failing ∧ id ∉ s.undeletable then none else s.lookup j := by
  by_cases hm : id ∈ s.failing ∨ id ∈ s.undeletable
  · rw [repository_delete_of_marked hm, if_neg]
    rintro ⟨-, h₁, h₂⟩
    exact hm.elim h₁ h₂
  have h₁ : id ∉ s.failing := fun h => hm (.inl h)
  have h₂ : id ∉ s.undeletable := fun h => hm (.inr h)
  by_cases h₃ : id ∈ s.identifiers
  · rw [repository_delete_of_deletable h₁ h₂ h₃, lookup_filter_ne]
    by_cases hj : j = id <;> simp [hj, h₁, h₂]
  · rw [repository_delete_of_absent h₃]
    by_cases hj : j = id
    · subst hj
      simpa [h₁, h₂] using lookup_eq_none_iff.mpr h₃
    · simp [hj]

theorem mem_itemlist {c : Collection} {n : String} :
    n ∈ s.itemlist c ↔ c.identifier n ∈ s.identifiers ∧ hasHiddenPart n = false := by
  simp only [itemlist, List.mem_filterMap, identifiers, List.mem_map]
  constructor
  · rintro ⟨⟨k, v⟩, hkv, hn⟩
    dsimp only at hn
    split at hn
    · rename_i hp
      split at hn
      · cases hn
      · rename_i hh
        cases Option.some.inj hn
        exact ⟨⟨(k, v), hkv, String.eq_append_relative hp⟩, Bool.eq_false_iff.mpr hh⟩
    · cases hn
  · rintro ⟨⟨⟨k, v⟩, hkv, rfl⟩, hh⟩
    refine ⟨(c.identifier n, v), hkv, ?_⟩
    simp only [Collection.identifier, String.isPrefixOf_append_self, String.relative_append, hh,
      Bool.false_eq_true, ↓reduceIte]

end MemoryStore

section Inputs

namespace MemoryStore

variable {s t : MemoryStore} {id : String} {data : ByteArray} {P : String → Prop} [DecidablePred P]

def buildInputs (s : MemoryStore) : List (String × ByteArray) :=
  s.items.filter fun e => !decide (IsCatalogOutput e.1)

theorem filter_insertItem (h : P id) (items : List (String × ByteArray)) :
    (insertItem id data items).filter (fun e => !decide (P e.1)) = items.filter fun e => !decide (P e.1) := by
  induction items with
  | nil => simp [insertItem, h]
  | cons kv rest ih =>
    obtain ⟨k, v⟩ := kv
    simp only [insertItem]
    split
    · simp [h]
    · split
      · subst_vars
        simp [h]
      · rw [List.filter_cons, List.filter_cons, ih]

theorem filter_filter_ne (h : P id) (items : List (String × ByteArray)) :
    (items.filter (·.1 != id)).filter (fun e => !decide (P e.1)) = items.filter fun e => !decide (P e.1) := by
  rw [List.filter_filter]
  refine List.filter_congr fun x _ => ?_
  by_cases hx : x.1 = id
  · simp [hx, h]
  · simp [hx]

theorem buildInputs_put (h : IsCatalogOutput id) :
    (Repository.put s id data).1.buildInputs = s.buildInputs := by
  rcases repository_put_cases s id data with e | ⟨_, e⟩ <;> rw [e]
  exact filter_insertItem h s.items

theorem buildInputs_delete (h : IsCatalogOutput id) :
    (Repository.delete s id).1.buildInputs = s.buildInputs := by
  rcases repository_delete_cases s id with e | ⟨_, e⟩ <;> rw [e]
  exact filter_filter_ne h s.items

theorem find?_buildInputs (h : ¬IsCatalogOutput id) :
    s.buildInputs.find? (·.1 == id) = s.items.find? (·.1 == id) := by
  unfold buildInputs
  rw [List.find?_filter]
  congr 1
  funext x
  by_cases hx : x.1 = id
  · simp [hx, h]
  · simp [hx]

theorem get_eq_of_buildInputs (h : t.buildInputs = s.buildInputs) (hf : t.failing = s.failing)
    (hid : ¬IsCatalogOutput id) : t.get id = s.get id := by
  have found : t.items.find? (·.1 == id) = s.items.find? (·.1 == id) := by
    rw [← find?_buildInputs hid, h, find?_buildInputs hid]
  unfold get
  rw [hf, found]

theorem filter_itemlist_filter {c : Collection} (keep : String → Bool)
    (h : ∀ r, P (c.identifier r) → keep r = false) :
    (({ s with items := s.items.filter fun e => !decide (P e.1) } : MemoryStore).itemlist c).filter keep =
      (s.itemlist c).filter keep := by
  unfold itemlist
  rw [List.filterMap_filter, List.filter_filterMap, List.filter_filterMap]
  refine List.filterMap_congr fun x _ => ?_
  obtain ⟨k, v⟩ := x
  by_cases hp : P k
  · simp only [hp, decide_true, Bool.not_true, Bool.false_eq_true, ↓reduceIte]
    split
    · rename_i hpre
      have hk := String.eq_append_relative hpre
      have hkeep : keep (String.ofList (k.toList.drop (c.name ++ "/").length)) = false :=
        h _ (by show P (c.name ++ "/" ++ _); rw [← hk]; exact hp)
      split
      · rfl
      · simp only [Option.filter_some, Option.filter_none, hkeep, Bool.false_eq_true, ↓reduceIte]
    · rfl
  · simp [hp]

theorem itemlist_buildInputs {c : Collection} (hc : c = .pkgsinfo ∨ c = .pkgs) :
    ({ s with items := s.buildInputs } : MemoryStore).itemlist c = s.itemlist c := by
  have h := filter_itemlist_filter (s := s) (c := c) (fun _ => true)
    fun r hr => absurd hr (Collection.not_isCatalogOutput hc r)
  rw [List.filter_true, List.filter_true] at h
  exact h

theorem filter_itemlist_buildInputs :
    (({ s with items := s.buildInputs } : MemoryStore).itemlist .icons).filter (· != iconHashesName) =
      (s.itemlist .icons).filter (· != iconHashesName) :=
  filter_itemlist_filter _ fun r hr => by simp [isCatalogOutput_icon.mp hr]

end MemoryStore

theorem Repository.Reach.buildInputs_eq {D U : String → Prop} {s s' : MemoryStore}
    (hD : ∀ id, D id → IsCatalogOutput id) (hU : ∀ id, U id → IsCatalogOutput id) (h : Reach D U s s') :
    s'.buildInputs = s.buildInputs ∧ s'.failing = s.failing ∧ s'.undeletable = s.undeletable := by
  induction h with
  | refl => exact ⟨rfl, rfl, rfl⟩
  | delete hd _ ih =>
    rw [ih.1, ih.2.1, ih.2.2, MemoryStore.buildInputs_delete (hD _ hd)]
    simp
  | put data hu _ ih =>
    rw [ih.1, ih.2.1, ih.2.2, MemoryStore.buildInputs_put (hU _ hu)]
    simp

end Inputs

end Depot
