/-!
# Ordered tables

A table keeps its entries in the order in which their keys came, each key once. Writing to a key
that is there replaces its value in place; `get?_insert` and `get?_erase` say what a reader sees.
-/

namespace Screening

namespace Entries

variable {κ α : Type} [DecidableEq κ]

/-- Replace the value of the first entry under `k`, or append an entry. -/
def put : List (κ × α) → κ → α → List (κ × α)
  | [], k, v => [(k, v)]
  | (l, w) :: rest, k, v => if l = k then (l, v) :: rest else (l, w) :: put rest k v

def get? : List (κ × α) → κ → Option α
  | [], _ => none
  | (l, w) :: rest, k => if l = k then some w else get? rest k

def drop : List (κ × α) → κ → List (κ × α)
  | [], _ => []
  | (l, w) :: rest, k => if l = k then rest else (l, w) :: drop rest k

/-- Entries in order; of a key that is given twice, the first place and the last value. -/
def ofPairs (pairs : List (κ × α)) : List (κ × α) :=
  pairs.foldl (fun entries p => put entries p.1 p.2) []

theorem get?_put (entries : List (κ × α)) (k l : κ) (v : α) :
    get? (put entries k v) l = if k = l then some v else get? entries l := by
  induction entries with
  | nil => simp [put, get?]
  | cons e rest ih =>
    obtain ⟨m, w⟩ := e
    by_cases hm : m = k
    · subst hm; by_cases hl : m = l <;> simp [put, get?, hl]
    · by_cases hl : m = l
      · subst hl; simp [put, get?, hm, Ne.symm hm]
      · simp [put, get?, hm, hl, ih]

theorem mem_keys_put (entries : List (κ × α)) (k l : κ) (v : α) :
    l ∈ (put entries k v).map Prod.fst ↔ l = k ∨ l ∈ entries.map Prod.fst := by
  induction entries with
  | nil => simp [put]
  | cons e rest ih =>
    obtain ⟨m, w⟩ := e
    by_cases hm : m = k
    · subst hm; simp [put]
    · simp only [put, hm, if_false, List.map_cons, List.mem_cons, ih]
      grind

theorem nodup_put {entries : List (κ × α)} (h : (entries.map Prod.fst).Nodup) (k : κ) (v : α) :
    ((put entries k v).map Prod.fst).Nodup := by
  induction entries with
  | nil => simp [put]
  | cons e rest ih =>
    obtain ⟨m, w⟩ := e
    simp only [List.map_cons, List.nodup_cons] at h
    by_cases hm : m = k
    · subst hm; simpa [put] using h
    · simp only [put, hm, if_false, List.map_cons, List.nodup_cons, mem_keys_put]
      exact ⟨by simpa using h.1, ih h.2⟩

theorem drop_sublist (entries : List (κ × α)) (k : κ) : (drop entries k).Sublist entries := by
  induction entries with
  | nil => simp [drop]
  | cons e rest ih =>
    obtain ⟨m, w⟩ := e
    by_cases hm : m = k <;> simp [drop, hm, ih]

theorem nodup_drop {entries : List (κ × α)} (h : (entries.map Prod.fst).Nodup) (k : κ) :
    ((drop entries k).map Prod.fst).Nodup :=
  h.sublist ((drop_sublist entries k).map _)

theorem get?_eq_none_iff {entries : List (κ × α)} {k : κ} :
    get? entries k = none ↔ k ∉ entries.map Prod.fst := by
  induction entries with
  | nil => simp [get?]
  | cons e rest ih =>
    obtain ⟨m, w⟩ := e
    by_cases hm : m = k
    · simp [get?, hm]
    · simp only [get?, hm, if_false, List.map_cons, List.mem_cons, not_or, ih]
      exact ⟨fun h => ⟨Ne.symm hm, h⟩, fun h => h.2⟩

theorem get?_drop {entries : List (κ × α)} (h : (entries.map Prod.fst).Nodup) (k l : κ) :
    get? (drop entries k) l = if k = l then none else get? entries l := by
  induction entries with
  | nil => simp [drop, get?]
  | cons e rest ih =>
    obtain ⟨m, w⟩ := e
    simp only [List.map_cons, List.nodup_cons] at h
    by_cases hm : m = k
    · subst hm
      by_cases hl : m = l
      · subst hl; simpa [drop, get?_eq_none_iff] using h.1
      · simp [drop, get?, hl]
    · by_cases hl : m = l
      · subst hl; simp [drop, get?, hm, Ne.symm hm]
      · simp [drop, get?, hm, hl, ih h.2]

end Entries

structure Table (κ α : Type) where
  entries : List (κ × α)
  nodup : (entries.map Prod.fst).Nodup

namespace Table

variable {κ α : Type} [DecidableEq κ]

def empty : Table κ α := ⟨[], List.nodup_nil⟩

def get? (t : Table κ α) (k : κ) : Option α := Entries.get? t.entries k

def contains (t : Table κ α) (k : κ) : Bool := (t.get? k).isSome

def insert (t : Table κ α) (k : κ) (v : α) : Table κ α :=
  ⟨Entries.put t.entries k v, Entries.nodup_put t.nodup k v⟩

def erase (t : Table κ α) (k : κ) : Table κ α :=
  ⟨Entries.drop t.entries k, Entries.nodup_drop t.nodup k⟩

def keys (t : Table κ α) : List κ := t.entries.map Prod.fst

def values (t : Table κ α) : List α := t.entries.map Prod.snd

@[simp] theorem get?_empty (k : κ) : (empty : Table κ α).get? k = none := rfl

theorem get?_insert (t : Table κ α) (k l : κ) (v : α) :
    (t.insert k v).get? l = if k = l then some v else t.get? l :=
  Entries.get?_put t.entries k l v

theorem get?_erase (t : Table κ α) (k l : κ) :
    (t.erase k).get? l = if k = l then none else t.get? l :=
  Entries.get?_drop t.nodup k l

end Table

end Screening
