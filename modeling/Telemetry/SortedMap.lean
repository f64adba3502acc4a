/-!
# Maps in the order of their keys

* `SortedMap`: texts with a value each, by increasing text.
* `SortedMap.get?`, `SortedMap.insert`, `SortedMap.erase`: looking up, setting and removing one
  text.
-/

namespace Telemetry

/-- Entries in increasing order of their keys, with every key once. -/
structure SortedMap (α : Type) where
  entries : List (String × α)
  increasing : entries.Pairwise fun a b => a.1 < b.1
deriving Repr, DecidableEq

namespace SortedMap

variable {α : Type}

theorem lt_of_not_lt_of_ne {a b : String} (h : ¬ a < b) (hne : a ≠ b) : b < a :=
  Std.lt_of_le_of_ne h hne.symm

/-! ## Entries -/

def lookup (key : String) : List (String × α) → Option α
  | [] => none
  | (k, v) :: rest => if k = key then some v else lookup key rest

def insertEntry (key : String) (value : α) : List (String × α) → List (String × α)
  | [] => [(key, value)]
  | (k, v) :: rest =>
    if key = k then (key, value) :: rest
    else if key < k then (key, value) :: (k, v) :: rest
    else (k, v) :: insertEntry key value rest

theorem mem_insertEntry {key : String} {value : α} {l : List (String × α)} {e : String × α}
    (h : e ∈ insertEntry key value l) : e = (key, value) ∨ e ∈ l := by
  induction l with
  | nil => exact .inl (by simpa [insertEntry] using h)
  | cons a rest ih =>
    obtain ⟨k, v⟩ := a
    unfold insertEntry at h
    split at h
    · rcases List.mem_cons.1 h with h | h
      · exact .inl h
      · exact .inr (List.mem_cons_of_mem _ h)
    · split at h
      · rcases List.mem_cons.1 h with h | h
        · exact .inl h
        · exact .inr h
      · rcases List.mem_cons.1 h with h | h
        · exact .inr (h ▸ List.mem_cons_self)
        · exact (ih h).imp id (List.mem_cons_of_mem _)

theorem increasing_insertEntry (key : String) (value : α) {l : List (String × α)}
    (h : l.Pairwise fun a b => a.1 < b.1) :
    (insertEntry key value l).Pairwise fun a b => a.1 < b.1 := by
  induction l with
  | nil => simp [insertEntry]
  | cons a rest ih =>
    obtain ⟨k, v⟩ := a
    obtain ⟨ha, hrest⟩ := List.pairwise_cons.1 h
    unfold insertEntry
    split
    · next heq =>
      subst heq
      exact List.pairwise_cons.2 ⟨ha, hrest⟩
    · next hne =>
      split
      · next hlt =>
        refine List.pairwise_cons.2 ⟨fun e he => ?_, h⟩
        rcases List.mem_cons.1 he with rfl | he
        · exact hlt
        · exact String.lt_trans hlt (ha e he)
      · next hlt =>
        refine List.pairwise_cons.2 ⟨fun e he => ?_, ih hrest⟩
        rcases mem_insertEntry he with rfl | he
        · exact lt_of_not_lt_of_ne hlt hne
        · exact ha e he

/-! ## Operations -/

def empty : SortedMap α := ⟨[], .nil⟩

instance : Inhabited (SortedMap α) := ⟨empty⟩

def isEmpty (m : SortedMap α) : Bool := m.entries.isEmpty

def keys (m : SortedMap α) : List String := m.entries.map (·.1)

def get? (m : SortedMap α) (key : String) : Option α := lookup key m.entries

def contains (m : SortedMap α) (key : String) : Bool := (m.get? key).isSome

def insert (m : SortedMap α) (key : String) (value : α) : SortedMap α :=
  ⟨insertEntry key value m.entries, increasing_insertEntry key value m.increasing⟩

def erase (m : SortedMap α) (key : String) : SortedMap α :=
  ⟨m.entries.filter (·.1 != key), m.increasing.filter _⟩

/-- Sets every entry of a list in turn. -/
def insertAll (m : SortedMap α) (l : List (String × α)) : SortedMap α :=
  l.foldl (fun m e => m.insert e.1 e.2) m

def ofList (l : List (String × α)) : SortedMap α := empty.insertAll l

/-! ## Looking up -/

theorem lookup_insertEntry (key key' : String) (value : α) (l : List (String × α)) :
    lookup key' (insertEntry key value l) = if key = key' then some value else lookup key' l := by
  induction l with
  | nil => simp [insertEntry, lookup]
  | cons a rest ih =>
    obtain ⟨k, v⟩ := a
    unfold insertEntry
    split
    · next heq =>
      subst heq
      simp only [lookup]
      split <;> rfl
    · next hne =>
      split
      · simp only [lookup]
      · simp only [lookup, ih]
        grind

@[simp] theorem get?_insert (m : SortedMap α) (key key' : String) (value : α) :
    (m.insert key value).get? key' = if key = key' then some value else m.get? key' :=
  lookup_insertEntry key key' value m.entries

/-- Of several entries with a key, the last one that is set counts. -/
theorem get?_insertAll (m : SortedMap α) (l : List (String × α)) (key : String) :
    (m.insertAll l).get? key =
      ((l.reverse.find? fun e => e.1 = key).map (·.2)).or (m.get? key) := by
  induction l generalizing m with
  | nil => rfl
  | cons e l ih =>
    have hnext : m.insertAll (e :: l) = (m.insert e.1 e.2).insertAll l := rfl
    rw [hnext, ih, get?_insert, List.reverse_cons, List.find?_append, List.find?_singleton]
    by_cases he : e.1 = key
    · rw [if_pos he, if_pos (by simpa using he)]
      cases l.reverse.find? fun e => decide (e.1 = key) <;> rfl
    · rw [if_neg he, if_neg (by simpa using he), Option.or_none]

theorem lookup_filter (key key' : String) (l : List (String × α)) :
    lookup key' (l.filter (·.1 != key)) = if key = key' then none else lookup key' l := by
  induction l with
  | nil => simp [lookup]
  | cons a rest ih => grind [lookup]

@[simp] theorem get?_erase (m : SortedMap α) (key key' : String) :
    (m.erase key).get? key' = if key = key' then none else m.get? key' :=
  lookup_filter key key' m.entries

theorem get?_foldl_erase (m : SortedMap α) (keys : List String) (key : String) :
    (keys.foldl erase m).get? key = if key ∈ keys then none else m.get? key := by
  induction keys generalizing m with
  | nil => simp
  | cons first keys ih =>
    rw [List.foldl_cons, ih, get?_erase]
    by_cases hfirst : first = key
    · simp [hfirst]
    · simp [hfirst, Ne.symm hfirst]

@[simp] theorem get?_empty (key : String) : (empty : SortedMap α).get? key = none := rfl

theorem lookup_eq_some_iff {l : List (String × α)} (h : l.Pairwise fun a b => a.1 < b.1)
    {key : String} {value : α} : lookup key l = some value ↔ (key, value) ∈ l := by
  induction l with
  | nil => simp [lookup]
  | cons a rest ih =>
    obtain ⟨k, v⟩ := a
    obtain ⟨ha, hrest⟩ := List.pairwise_cons.1 h
    unfold lookup
    split
    · next heq =>
      subst heq
      constructor
      · rintro ⟨⟩
        exact List.mem_cons_self
      · intro hm
        rcases List.mem_cons.1 hm with hm | hm
        · cases hm
          rfl
        · exact absurd (ha _ hm) (String.lt_irrefl _)
    · next hne =>
      rw [ih hrest, List.mem_cons]
      constructor
      · exact .inr
      · rintro (hm | hm)
        · cases hm
          exact absurd rfl hne
        · exact hm

theorem get?_eq_some_iff {m : SortedMap α} {key : String} {value : α} :
    m.get? key = some value ↔ (key, value) ∈ m.entries :=
  lookup_eq_some_iff m.increasing

theorem mem_keys_iff {m : SortedMap α} {key : String} :
    key ∈ m.keys ↔ ∃ value, m.get? key = some value := by
  simp [keys, get?_eq_some_iff]

theorem pairwise_lt_keys (m : SortedMap α) : m.keys.Pairwise (· < ·) :=
  List.pairwise_map.mpr m.increasing

/-! ## Equal maps -/

theorem eq_of_entries {m n : SortedMap α} (h : m.entries = n.entries) : m = n := by
  cases m
  cases n
  cases h
  rfl

theorem nodup_entries (m : SortedMap α) : m.entries.Nodup := by
  refine List.Pairwise.imp (fun {a b} hlt heq => ?_) m.increasing
  subst heq
  exact String.lt_irrefl _ hlt

/-- Maps are the same if they have the same value under every key. -/
theorem eq_of_get? {m n : SortedMap α} (h : ∀ key, m.get? key = n.get? key) : m = n := by
  have hmem : ∀ e, e ∈ m.entries ↔ e ∈ n.entries := fun e => by
    rw [← get?_eq_some_iff (m := m), ← get?_eq_some_iff (m := n), h]
  have hperm : m.entries.Perm n.entries :=
    (List.perm_ext_iff_of_nodup m.nodup_entries n.nodup_entries).mpr hmem
  refine eq_of_entries (hperm.eq_of_pairwise (fun a b _ _ hab hba => ?_) m.increasing n.increasing)
  exact absurd hba (String.lt_asymm hab)

/-! ## Entries set again -/

theorem eq_empty_of_isEmpty {m : SortedMap α} (h : m.isEmpty = true) : m = empty :=
  eq_of_entries (List.isEmpty_iff.mp h)

theorem insertEntry_of_lt {key : String} {l : List (String × α)} (h : ∀ e ∈ l, e.1 < key) (value : α) :
    insertEntry key value l = l ++ [(key, value)] := by
  induction l with
  | nil => rfl
  | cons e l ih =>
    obtain ⟨k, v⟩ := e
    have hlt : k < key := h _ List.mem_cons_self
    have hne : key ≠ k := (String.ne_of_lt hlt).symm
    rw [insertEntry, if_neg hne, if_neg (String.lt_asymm hlt),
      ih fun e he => h e (List.mem_cons_of_mem _ he)]
    rfl

theorem entries_insertAll (m : SortedMap α) {l : List (String × α)}
    (h : (m.entries ++ l).Pairwise fun a b => a.1 < b.1) :
    (m.insertAll l).entries = m.entries ++ l := by
  induction l generalizing m with
  | nil => exact (List.append_nil _).symm
  | cons e l ih =>
    have hlt : ∀ a ∈ m.entries, a.1 < e.1 :=
      fun a ha => (List.pairwise_append.mp h).2.2 a ha e List.mem_cons_self
    have hnext : (m.insert e.1 e.2).entries = m.entries ++ [e] := insertEntry_of_lt hlt e.2
    have hall : m.entries ++ e :: l = (m.insert e.1 e.2).entries ++ l := by
      rw [hnext, List.append_assoc]
      rfl
    rw [hall] at h ⊢
    exact ih _ h

/-- A map is the map of its entries. -/
theorem ofList_entries (m : SortedMap α) : ofList m.entries = m :=
  eq_of_entries (entries_insertAll empty m.increasing)

/-- Where a map is set over another one, its own values come first. -/
theorem get?_insertAll_entries (m n : SortedMap α) (key : String) :
    (m.insertAll n.entries).get? key = (n.get? key).or (m.get? key) := by
  have hown := get?_insertAll empty n.entries key
  rw [← ofList, ofList_entries, get?_empty, Option.or_none] at hown
  rw [get?_insertAll, hown]

end SortedMap

end Telemetry
