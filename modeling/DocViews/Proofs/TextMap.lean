import DocViews.TextMap
import Mathlib.Data.List.Nodup
import Mathlib.Data.List.Sort

/-!
# Looking up in maps

A map answers for every key what was put in last for that key. The order of its entries is for
listings alone and plays no part in it. No key is listed twice, so what a map lists is what it
answers.
-/

namespace DocViews

/-- A look-up at the first entry, as a decision on its key. -/
theorem lookup_cons_eq_ite (j : String) (e : String × α) (es : List (String × α)) :
    (e :: es).lookup j = if j = e.1 then some e.2 else es.lookup j := by
  rw [List.lookup_cons]
  by_cases h : j = e.1
  · simp [h]
  · simp [h, beq_eq_false_iff_ne.2 h]

theorem lookup_insertEntry (k j : String) (v : α) (es : List (String × α)) :
    (insertEntry k v es).lookup j = if j = k then some v else es.lookup j := by
  induction es with
  | nil => rw [insertEntry, lookup_cons_eq_ite]
  | cons e es ih =>
    simp only [insertEntry]
    split
    · rw [lookup_cons_eq_ite]
    · split
      · -- The entry with the same key gives way, and a look-up of another key passes both.
        rename_i hkey
        subst hkey
        rw [lookup_cons_eq_ite, lookup_cons_eq_ite]
        split <;> rfl
      · rename_i hkey
        rw [lookup_cons_eq_ite, lookup_cons_eq_ite, ih]
        by_cases hj : j = e.1
        · rw [if_pos hj, if_neg (hj ▸ Ne.symm hkey), if_pos hj]
        · rw [if_neg hj, if_neg hj]

/-- Where no key is listed twice, a look-up finds exactly what is listed. -/
theorem lookup_eq_some_iff_mem {es : List (String × α)} (hkeys : (es.map (·.1)).Nodup) {k : String}
    {v : α} : es.lookup k = some v ↔ (k, v) ∈ es := by
  induction es with
  | nil => simp
  | cons e es ih =>
    obtain ⟨hhead, htail⟩ := List.nodup_cons.1 hkeys
    rw [lookup_cons_eq_ite, List.mem_cons]
    split
    case isTrue hk =>
      subst hk
      -- The key of the first entry is not listed again.
      have hnot : (e.1, v) ∉ es := fun hmem => hhead (List.mem_map.2 ⟨_, hmem, rfl⟩)
      simp [hnot, Prod.ext_iff, eq_comm]
    case isFalse hk =>
      have hne : (k, v) ≠ e := fun heq => hk (congrArg Prod.fst heq)
      simp [hne, ih htail]

/-- Where no key is listed twice, what is listed under a key is found by itself. -/
theorem filter_key_eq_singleton {es : List (String × α)} (hkeys : (es.map (·.1)).Nodup) {k : String}
    {v : α} (h : (k, v) ∈ es) : es.filter (·.1 == k) = [(k, v)] := by
  induction es with
  | nil => cases h
  | cons e es ih =>
    obtain ⟨hhead, htail⟩ := List.nodup_cons.1 hkeys
    cases List.mem_cons.1 h with
    | inl heq =>
      subst heq
      have hnone : es.filter (·.1 == k) = [] := by
        refine List.filter_eq_nil_iff.2 fun e' he' hk => hhead ?_
        exact List.mem_map.2 ⟨e', he', eq_of_beq hk⟩
      simp [hnone]
    | inr hmem =>
      have hne : e.1 ≠ k := fun heq => hhead (List.mem_map.2 ⟨_, hmem, heq.symm⟩)
      simp [hne, ih htail hmem]

theorem filter_key_eq_nil {es : List (String × α)} {k : String} (h : k ∉ es.map (·.1)) :
    es.filter (·.1 == k) = [] := by
  refine List.filter_eq_nil_iff.2 fun e he hk => h ?_
  exact List.mem_map.2 ⟨e, he, eq_of_beq hk⟩

namespace TextMap

theorem get?_insert (m : TextMap α) (k j : String) (v : α) :
    (m.insert k v).get? j = if j = k then some v else m.get? j :=
  lookup_insertEntry k j v m.entries

/-- In the map of a list a key has the value of its last entry. -/
theorem get?_ofList (es : List (String × α)) (k : String) :
    (ofList es).get? k = es.reverse.lookup k := by
  have step : ∀ (m : TextMap α), (es.foldl (fun m e => m.insert e.1 e.2) m).get? k =
      (es.reverse.lookup k).or (m.get? k) := by
    induction es with
    | nil =>
      intro m
      rfl
    | cons e es ih =>
      intro m
      rw [List.foldl_cons, ih, get?_insert, List.reverse_cons, List.lookup_append, Option.or_assoc,
        lookup_cons_eq_ite]
      congr 1
      split <;> rfl
  rw [ofList, step]
  exact Option.or_none

/-- A key that is listed has one of the values that it is listed with. -/
theorem exists_get?_ofList {es : List (String × α)} {k : String} (hk : k ∈ es.map (·.1)) :
    ∃ v, (ofList es).get? k = some v ∧ (k, v) ∈ es := by
  rw [get?_ofList]
  cases hlookup : es.reverse.lookup k with
  | none =>
    obtain ⟨e, he, rfl⟩ := List.mem_map.1 hk
    have hne := List.lookup_eq_none_iff.1 hlookup e (List.mem_reverse.2 he)
    simp at hne
  | some v =>
    obtain ⟨before, after, hsplit, _⟩ := List.lookup_eq_some_iff.1 hlookup
    refine ⟨v, rfl, List.mem_reverse.1 ?_⟩
    rw [hsplit]
    exact List.mem_append_right _ List.mem_cons_self

/-! ## Listings -/

/-- No key is listed twice. -/
theorem nodup_keys (m : TextMap α) : (m.entries.map (·.1)).Nodup :=
  List.pairwise_map.2 (m.ascending.imp String.ne_of_lt)

/-- What a map lists is what it answers. -/
theorem mem_entries_iff {m : TextMap α} {k : String} {v : α} :
    (k, v) ∈ m.entries ↔ m.get? k = some v :=
  (lookup_eq_some_iff_mem m.nodup_keys).symm

theorem contains_iff {m : TextMap α} {k : String} : m.contains k = true ↔ k ∈ m.keys := by
  simp [contains, keys, Option.isSome_iff_exists, mem_entries_iff]

/-- The map of a list in which no key occurs twice lists the same entries. -/
theorem entries_ofList_perm {es : List (String × α)} (hkeys : (es.map (·.1)).Nodup) :
    (ofList es).entries.Perm es := by
  have hreverse : (es.reverse.map (·.1)).Nodup := by
    rw [List.map_reverse]
    exact List.nodup_reverse.2 hkeys
  have hentries : ∀ e, e ∈ (ofList es).entries ↔ e ∈ es := by
    intro ⟨k, v⟩
    rw [mem_entries_iff, get?_ofList, lookup_eq_some_iff_mem hreverse, List.mem_reverse]
  exact (List.perm_ext_iff_of_nodup (nodup_keys _).of_map hkeys.of_map).2 hentries

/-- Entries that ascend are listed as they are. -/
theorem entries_ofList_ascending {es : List (String × α)} (h : es.Pairwise (·.1 < ·.1)) :
    (ofList es).entries = es := by
  have hkeys : (es.map (·.1)).Nodup := List.pairwise_map.2 (h.imp String.ne_of_lt)
  refine (entries_ofList_perm hkeys).eq_of_pairwise ?_ (ofList es).ascending h
  intro a b _ _ hab hba
  exact absurd hba (String.lt_asymm hab)

/-- No value is listed twice if no two keys have the same one. -/
theorem values_nodup_iff {m : TextMap α} :
    m.values.Nodup ↔ ∀ j k v, m.get? j = some v → m.get? k = some v → j = k := by
  rw [values, List.nodup_map_iff_inj_on m.nodup_keys.of_map]
  simp only [← mem_entries_iff]
  constructor
  · intro h j k v hj hk
    exact congrArg Prod.fst (h _ hj _ hk rfl)
  · rintro h ⟨j, v⟩ hj ⟨k, w⟩ hk rfl
    rw [h j k v hj hk]

end TextMap

end DocViews
