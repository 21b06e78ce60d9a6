/-!
# Finite maps and sets of texts

Documents, prefixes and properties are kept by name, and every listing of them goes by ascending
code points. A map is the list of its entries in that order, so two maps with the same entries are
equal; a set is the list of its elements.
-/

namespace DocViews

/-! ## Maps -/

/-- Puts an entry into its place among ascending entries; an entry with the same key gives way. -/
def insertEntry (k : String) (v : α) : List (String × α) → List (String × α)
  | [] => [(k, v)]
  | e :: es =>
    if k < e.1 then (k, v) :: e :: es
    else if k = e.1 then (k, v) :: es
    else e :: insertEntry k v es

theorem mem_insertEntry {k : String} {v : α} {es : List (String × α)} {x : String × α}
    (h : x ∈ insertEntry k v es) : x = (k, v) ∨ x ∈ es := by
  induction es with
  | nil => simpa [insertEntry] using h
  | cons e es ih =>
    simp only [insertEntry] at h
    split at h
    · simpa using h
    · split at h
      · simp only [List.mem_cons] at h ⊢
        exact h.imp_right .inr
      · simp only [List.mem_cons] at h ⊢
        rcases h with h | h
        · exact .inr (.inl h)
        · exact (ih h).imp_right .inr

theorem insertEntry_ascending {k : String} {v : α} {es : List (String × α)}
    (h : es.Pairwise (·.1 < ·.1)) : (insertEntry k v es).Pairwise (·.1 < ·.1) := by
  induction es with
  | nil => simp [insertEntry]
  | cons e es ih =>
    have ⟨hhead, htail⟩ := List.pairwise_cons.1 h
    simp only [insertEntry]
    split
    · rename_i hlt
      refine List.pairwise_cons.2 ⟨fun x hx => ?_, h⟩
      rcases List.mem_cons.1 hx with rfl | hx
      · exact hlt
      · exact String.lt_trans hlt (hhead x hx)
    · rename_i hlt
      split
      · rename_i heq
        subst heq
        exact List.pairwise_cons.2 ⟨hhead, htail⟩
      · rename_i hne
        refine List.pairwise_cons.2 ⟨fun x hx => ?_, ih htail⟩
        rcases mem_insertEntry hx with rfl | hx
        · exact Std.lt_of_le_of_ne hlt (Ne.symm hne)
        · exact hhead x hx

/-- A finite map with texts as keys. -/
structure TextMap (α : Type u) where
  entries : List (String × α)
  ascending : entries.Pairwise (·.1 < ·.1)

namespace TextMap

def empty : TextMap α := ⟨[], .nil⟩

instance : Inhabited (TextMap α) := ⟨empty⟩

def isEmpty (m : TextMap α) : Bool := m.entries.isEmpty

def get? (m : TextMap α) (k : String) : Option α := m.entries.lookup k

def contains (m : TextMap α) (k : String) : Bool := (m.get? k).isSome

def keys (m : TextMap α) : List String := m.entries.map (·.1)

def values (m : TextMap α) : List α := m.entries.map (·.2)

def insert (m : TextMap α) (k : String) (v : α) : TextMap α :=
  ⟨insertEntry k v m.entries, insertEntry_ascending m.ascending⟩

/-- The map of a list of entries; of several with one key the last counts. -/
def ofList (es : List (String × α)) : TextMap α :=
  es.foldl (fun m e => m.insert e.1 e.2) empty

@[ext]
theorem ext {m n : TextMap α} (h : m.entries = n.entries) : m = n := by
  cases m; cases n; simp_all

end TextMap

/-! ## Sets -/

/-- Puts a text into its place among ascending texts, unless it is there already. -/
def insertText (s : String) : List String → List String
  | [] => [s]
  | t :: ts => if s < t then s :: t :: ts else if s = t then t :: ts else t :: insertText s ts

theorem mem_insertText {s x : String} {ts : List String} :
    x ∈ insertText s ts ↔ x = s ∨ x ∈ ts := by
  induction ts with
  | nil => simp [insertText]
  | cons t ts ih =>
    simp only [insertText]
    split
    · simp
    · split
      · rename_i heq
        subst heq
        simp
      · simp only [List.mem_cons, ih]
        exact or_left_comm

theorem insertText_ascending {s : String} {ts : List String} (h : ts.Pairwise (· < ·)) :
    (insertText s ts).Pairwise (· < ·) := by
  induction ts with
  | nil => simp [insertText]
  | cons t ts ih =>
    have ⟨hhead, htail⟩ := List.pairwise_cons.1 h
    simp only [insertText]
    split
    · rename_i hlt
      refine List.pairwise_cons.2 ⟨fun x hx => ?_, h⟩
      rcases List.mem_cons.1 hx with rfl | hx
      · exact hlt
      · exact String.lt_trans hlt (hhead x hx)
    · rename_i hlt
      split
      · exact h
      · rename_i hne
        refine List.pairwise_cons.2 ⟨fun x hx => ?_, ih htail⟩
        rcases mem_insertText.1 hx with rfl | hx
        · exact Std.lt_of_le_of_ne hlt (Ne.symm hne)
        · exact hhead x hx

/-- A finite set of texts. -/
structure TextSet where
  elems : List String
  ascending : elems.Pairwise (· < ·)

namespace TextSet

def empty : TextSet := ⟨[], .nil⟩

instance : Inhabited TextSet := ⟨empty⟩

instance : Membership String TextSet := ⟨fun s x => x ∈ s.elems⟩

def isEmpty (s : TextSet) : Bool := s.elems.isEmpty

def insert (s : TextSet) (x : String) : TextSet :=
  ⟨insertText x s.elems, insertText_ascending s.ascending⟩

def ofList (xs : List String) : TextSet := xs.foldl insert empty

theorem mem_insert {s : TextSet} {x y : String} : y ∈ s.insert x ↔ y = x ∨ y ∈ s :=
  mem_insertText

/-- The set of a list has exactly the elements of the list. -/
theorem mem_ofList {xs : List String} {x : String} : x ∈ ofList xs ↔ x ∈ xs := by
  have step : ∀ (xs : List String) (s : TextSet), x ∈ xs.foldl insert s ↔ x ∈ s ∨ x ∈ xs := by
    intro xs
    induction xs with
    | nil => simp
    | cons y ys ih =>
      intro s
      rw [List.foldl_cons, ih, mem_insert, List.mem_cons]
      exact ⟨fun h => h.elim (fun h => h.elim (.inr ∘ .inl) .inl) (.inr ∘ .inr),
        fun h => h.elim (.inl ∘ .inr) (fun h => h.elim (.inl ∘ .inl) .inr)⟩
  exact (step xs empty).trans ⟨fun h => h.resolve_left List.not_mem_nil, .inr⟩

end TextSet

end DocViews
