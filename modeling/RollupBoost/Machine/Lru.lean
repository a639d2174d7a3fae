import Mathlib.Algebra.Ring.Nat
import Mathlib.Data.List.Basic
import Mathlib.Data.List.Nodup

/-!
# A cache that forgets what was not used for longest

The entries are kept in the order of their use, the most recent one first. A new entry goes to
the front; when the cache is full, the entry at the end has to go. So an entry is safe as long
as the number of entries in front of it stays below the capacity, and each later insertion adds
at most one to it.

`Within key n cache` says that the key is in the cache with at most `n` entries in front of it.
-/

namespace Machine

universe u v

structure LruCache (κ : Type u) (α : Type v) (capacity : Nat) where
  entries : List (κ × α)
  nodup : (entries.map (·.1)).Nodup
  length_le : entries.length ≤ capacity

namespace LruCache

variable {κ : Type u} {α : Type v} {capacity : Nat}

def new (κ : Type u) (α : Type v) (capacity : Nat) : LruCache κ α capacity where
  entries := []
  nodup := List.nodup_nil
  length_le := Nat.zero_le capacity

def Mem (cache : LruCache κ α capacity) (key : κ) : Prop := key ∈ cache.entries.map (·.1)

def Within (key : κ) (n : Nat) (cache : LruCache κ α capacity) : Prop :=
  ∃ newer value older, cache.entries = newer ++ (key, value) :: older ∧ newer.length ≤ n

variable {cache : LruCache κ α capacity} {key other : κ} {n : Nat}

theorem not_mem_new : ¬ (new κ α capacity).Mem key := by simp [Mem, new]

theorem Within.mem (h : Within key n cache) : cache.Mem key := by
  obtain ⟨newer, value, older, hentries, -⟩ := h
  simp [Mem, hentries]

variable [DecidableEq κ]

/-- The entries for the other keys. -/
def others (cache : LruCache κ α capacity) (key : κ) : List (κ × α) :=
  cache.entries.filter fun entry => entry.1 ≠ key

theorem others_sublist (cache : LruCache κ α capacity) (key : κ) :
    (cache.others key).Sublist cache.entries :=
  List.filter_sublist

/-- The entry goes to the front, and the last one has to make room for it if it is new and the
cache is full. -/
def put [NeZero capacity] (cache : LruCache κ α capacity) (key : κ) (value : α) :
    LruCache κ α capacity where
  entries := (key, value) :: (cache.others key).take (capacity - 1)
  nodup := by
    rw [List.map_cons, List.nodup_cons]
    constructor
    · intro hmem
      obtain ⟨entry, hentry, rfl⟩ := List.mem_map.mp hmem
      have hother := List.mem_filter.mp (List.mem_of_mem_take hentry)
      simpa using hother.2
    · exact cache.nodup.sublist
        (((List.take_sublist _ _).trans (cache.others_sublist key)).map _)
  length_le := by
    have hpos := Nat.pos_of_neZero capacity
    rw [List.length_cons, List.length_take]
    omega

/-- Take an entry out. -/
def pop (cache : LruCache κ α capacity) (key : κ) : Option α × LruCache κ α capacity :=
  ((cache.entries.find? fun entry => entry.1 = key).map (·.2),
    { entries := cache.others key
      nodup := cache.nodup.sublist ((cache.others_sublist key).map _)
      length_le := Nat.le_trans (cache.others_sublist key).length_le cache.length_le })

theorem isSome_pop_iff : (cache.pop key).1.isSome = true ↔ cache.Mem key := by
  rw [pop, Option.isSome_map, List.find?_isSome, Mem, List.mem_map]
  simp

theorem mem_of_mem_others (h : key ∈ (cache.others other).map (·.1)) : cache.Mem key :=
  ((cache.others_sublist other).map _).subset h

theorem mem_of_mem_pop (h : (cache.pop other).2.Mem key) : cache.Mem key :=
  mem_of_mem_others h

/-- The entries for other keys keep their order. -/
theorem others_of_within (h : Within key n cache) (hne : other ≠ key) :
    ∃ newer value older, cache.others other = newer ++ (key, value) :: older ∧
      newer.length ≤ n := by
  obtain ⟨newer, value, older, hentries, hle⟩ := h
  refine ⟨newer.filter fun entry => entry.1 ≠ other, value,
    older.filter fun entry => entry.1 ≠ other, ?_, ?_⟩
  · rw [others, hentries, List.filter_append, List.filter_cons_of_pos]
    simpa using hne.symm
  · exact Nat.le_trans (List.length_filter_le _ _) hle

theorem within_pop (h : Within key n cache) (hne : other ≠ key) :
    Within key n (cache.pop other).2 :=
  others_of_within h hne

variable [NeZero capacity] {value : α}

theorem mem_of_mem_put (h : (cache.put other value).Mem key) : key = other ∨ cache.Mem key := by
  simp only [Mem, put, List.map_cons, List.mem_cons] at h
  obtain rfl | h := h
  · exact .inl rfl
  · exact .inr (mem_of_mem_others (((List.take_sublist _ _).map _).subset h))

theorem within_put_self : Within key 0 (cache.put key value) :=
  ⟨[], value, _, rfl, Nat.le_refl 0⟩

/-- An entry survives the insertion of another one if there is room in front of it. -/
theorem within_put (h : Within key n cache) (hne : other ≠ key) (hroom : n + 1 < capacity) :
    Within key (n + 1) (cache.put other value) := by
  obtain ⟨newer, kept, older, hothers, hle⟩ := others_of_within h hne
  obtain ⟨room, hcapacity⟩ : ∃ room, capacity - 1 - newer.length = room + 1 :=
    ⟨capacity - 1 - newer.length - 1, by omega⟩
  refine ⟨(other, value) :: newer, kept, older.take room, ?_, ?_⟩
  · simp only [put, hothers]
    rw [List.take_append, List.take_of_length_le (by omega), hcapacity, List.take_succ_cons,
      List.cons_append]
  · rw [List.length_cons]
    omega

end LruCache

end Machine
