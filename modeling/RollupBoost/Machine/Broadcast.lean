import Mathlib.Data.List.Basic
import Mathlib.Data.Int.ModEq
import Mathlib.Logic.Function.Basic

/-!
# A broadcast channel of bounded capacity

Every sender appends to one ring, and every receiver walks along it with a position of its own.
The ring has `capacity` slots, and the message at a position goes to the slot of the position
modulo the capacity, over whatever was there. So a sender never waits for a receiver. A
receiver whose next slot was overwritten is told so once, and is moved to the oldest message
that is still there.

`Holds channel history` is the meaning of the ring: the last `capacity` messages of the history
of all messages sent. `Holds.recv_cases` reads off what a receiver can see of the history.

A receiver that goes on after a lag sees the history with gaps. `Follows` accounts for them: its
position has passed what it has taken and what it was told to have missed.
-/

namespace Machine

universe u

/-- A slot knows the position of the message in it. -/
structure Slot (α : Type u) where
  pos : Nat
  value : α

structure Broadcast (α : Type u) (capacity : Nat) where
  slots : Fin capacity → Option (Slot α)
  tail : Nat
  closed : Bool

/-- What a receiver gets. -/
inductive Received (α : Type u) where
  | ok (value : α)
  | lagged (missed : Nat)
  | closed
  | empty

namespace Broadcast

variable {α : Type u} {capacity : Nat}

def new (α : Type u) (capacity : Nat) : Broadcast α capacity where
  slots _ := none
  tail := 0
  closed := false

variable [NeZero capacity]

def send (channel : Broadcast α capacity) (value : α) : Broadcast α capacity :=
  { channel with
    slots := Function.update channel.slots (Fin.ofNat capacity channel.tail)
      (some { pos := channel.tail, value := value })
    tail := channel.tail + 1 }

/-- All senders are gone. -/
def close (channel : Broadcast α capacity) : Broadcast α capacity :=
  { channel with closed := true }

/-- The result for a receiver at the position `next`, and its position afterwards. -/
def recv (channel : Broadcast α capacity) (next : Nat) : Nat × Received α :=
  let drained : Nat × Received α := (next, if channel.closed then .closed else .empty)
  match channel.slots (Fin.ofNat capacity next) with
  | none => drained
  | some slot =>
      if slot.pos = next then (next + 1, .ok slot.value)
      else if next = channel.tail then drained
      else (channel.tail - capacity, .lagged (channel.tail - capacity - next))

/-- The ring holds the end of the history. -/
structure Holds (channel : Broadcast α capacity) (history : List α) : Prop where
  tail : channel.tail = history.length
  slot : ∀ pos value, history[pos]? = some value → history.length ≤ pos + capacity →
    channel.slots (Fin.ofNat capacity pos) = some { pos := pos, value := value }
  past : ∀ index slot, channel.slots index = some slot → slot.pos < history.length

variable {channel : Broadcast α capacity} {history : List α} {next pos : Nat}

theorem holds_new : Holds (new α capacity) [] where
  tail := rfl
  slot := by simp
  past := by simp [new]

theorem Holds.close (h : Holds channel history) : Holds channel.close history :=
  ⟨h.tail, h.slot, h.past⟩

/-- A slot is used again only after `capacity` messages. -/
theorem ofNat_ne {tail : Nat} (hlt : pos < tail) (hrecent : tail < pos + capacity) :
    Fin.ofNat capacity pos ≠ Fin.ofNat capacity tail := by
  intro heq
  have hmod : pos % capacity = tail % capacity := congrArg Fin.val heq
  have hdvd : capacity ∣ tail - pos := (Nat.modEq_iff_dvd' (Nat.le_of_lt hlt)).mp hmod
  have hle := Nat.le_of_dvd (by omega) hdvd
  omega

theorem Holds.send (h : Holds channel history) (value : α) :
    Holds (channel.send value) (history ++ [value]) where
  tail := by simp [Broadcast.send, h.tail]
  slot := by
    intro pos value' hget hrecent
    simp only [Broadcast.send, h.tail, List.length_append, List.length_singleton] at hrecent ⊢
    by_cases hlast : pos = history.length
    · rw [hlast, List.getElem?_concat_length] at hget
      obtain rfl := Option.some.inj hget
      rw [hlast, Function.update_self]
    · have hlt : pos < history.length := by
        obtain ⟨hlt, -⟩ := List.getElem?_eq_some_iff.mp hget
        simp only [List.length_append, List.length_singleton] at hlt
        omega
      rw [List.getElem?_append_left hlt] at hget
      rw [Function.update_of_ne (ofNat_ne hlt (by omega))]
      exact h.slot pos value' hget (by omega)
  past := by
    intro index slot hslot
    simp only [Broadcast.send, h.tail, List.length_append, List.length_singleton] at hslot ⊢
    by_cases hindex : index = Fin.ofNat capacity history.length
    · rw [hindex, Function.update_self] at hslot
      obtain rfl := Option.some.inj hslot
      exact Nat.lt_succ_self _
    · rw [Function.update_of_ne hindex] at hslot
      exact Nat.lt_succ_of_lt (h.past index slot hslot)

/-- The slot of a message that has been overwritten holds a later one. -/
theorem Holds.overwritten (h : Holds channel history) (hold : next + capacity < history.length) :
    ∃ slot, channel.slots (Fin.ofNat capacity next) = some slot ∧ next < slot.pos := by
  have hpos : 0 < capacity := Nat.pos_of_ne_zero (NeZero.ne capacity)
  -- the last position below the tail that has this slot
  obtain ⟨rounds, hdiv⟩ : ∃ rounds, (history.length - 1 - next) / capacity = rounds := ⟨_, rfl⟩
  have hsplit := Nat.div_add_mod' (history.length - 1 - next) capacity
  have hrest := Nat.mod_lt (history.length - 1 - next) hpos
  have hrounds : 0 < rounds := by
    rw [← hdiv]
    exact Nat.div_pos (by omega) hpos
  rw [hdiv] at hsplit
  have hle : capacity ≤ rounds * capacity := Nat.le_mul_of_pos_left capacity hrounds
  have hlt : next + rounds * capacity < history.length := by omega
  have hsame : Fin.ofNat capacity (next + rounds * capacity) = Fin.ofNat capacity next :=
    Fin.ext (Nat.add_mul_mod_self_right next rounds capacity)
  have hslot := h.slot _ _ (List.getElem?_eq_getElem hlt) (by omega)
  rw [hsame] at hslot
  exact ⟨_, hslot, by simp only; omega⟩

/-- All that a receiver can see: the next message of the history, that there is none, or that
it has been overwritten. -/
theorem Holds.recv_cases (h : Holds channel history) (hnext : next ≤ history.length) :
    (∃ value, history[next]? = some value ∧ history.length ≤ next + capacity ∧
      channel.recv next = (next + 1, .ok value)) ∨
    (next = history.length ∧
      channel.recv next = (next, if channel.closed then .closed else .empty)) ∨
    (next + capacity < history.length ∧
      channel.recv next =
        (history.length - capacity, .lagged (history.length - capacity - next))) := by
  have htail := h.tail
  by_cases hend : next = history.length
  · refine .inr (.inl ⟨hend, ?_⟩)
    simp only [recv]
    cases hslot : channel.slots (Fin.ofNat capacity next) with
    | none => rfl
    | some slot =>
        have hpast := h.past _ slot hslot
        simp only
        rw [if_neg (by omega), if_pos (by omega)]
  · have hlt : next < history.length := by omega
    have hget := List.getElem?_eq_getElem hlt
    by_cases hrecent : history.length ≤ next + capacity
    · refine .inl ⟨history[next], hget, hrecent, ?_⟩
      simp only [recv, h.slot next _ hget hrecent, if_true]
    · refine .inr (.inr ⟨by omega, ?_⟩)
      have hold : next + capacity < history.length := by omega
      obtain ⟨slot, hslot, hlater⟩ := h.overwritten hold
      simp only [recv, hslot]
      rw [if_neg (by omega), if_neg (by omega), htail]

/-! ## Receivers that go on after a lag -/

/-- A receiver that began at `start` has taken some messages, in order, and missed the others. -/
structure Follows (history : List α) (start next : Nat) (taken : List α) (missed : Nat) :
    Prop where
  le : next ≤ history.length
  sublist : taken.Sublist ((history.take next).drop start)
  count : start + taken.length + missed = next

variable {start missed count : Nat} {taken : List α}

theorem follows_start (hle : start ≤ history.length) : Follows history start start [] 0 :=
  ⟨hle, List.nil_sublist _, rfl⟩

theorem Follows.send (h : Follows history start next taken missed) (value : α) :
    Follows (history ++ [value]) start next taken missed where
  le := by
    have hle := h.le
    rw [List.length_append]
    omega
  sublist := by
    rw [List.take_append_of_le_length h.le]
    exact h.sublist
  count := h.count

theorem Follows.recv_ok (h : Follows history start next taken missed)
    (hholds : Holds channel history) {next' : Nat} {value : α}
    (hrecv : channel.recv next = (next', .ok value)) :
    Follows history start next' (taken ++ [value]) missed := by
  obtain ⟨value', hvalue, -, heq⟩ | ⟨-, heq⟩ | ⟨-, heq⟩ := hholds.recv_cases h.le
  · obtain ⟨rfl, hok⟩ := Prod.mk.inj (heq.symm.trans hrecv)
    obtain rfl := Received.ok.inj hok
    have hcount := h.count
    obtain ⟨hlt, hget⟩ := List.getElem?_eq_some_iff.mp hvalue
    refine ⟨hlt, ?_, by simp only [List.length_append, List.length_singleton]; omega⟩
    have htake : history.take (next + 1) = history.take next ++ [value'] := by
      rw [← hget, List.take_succ_eq_append_getElem hlt]
    rw [htake, List.drop_append_of_le_length (by rw [List.length_take]; omega)]
    exact h.sublist.append_right _
  · have hresult := (Prod.mk.inj (heq.symm.trans hrecv)).2
    split at hresult <;> exact absurd hresult (by simp)
  · exact absurd (Prod.mk.inj (heq.symm.trans hrecv)).2 (by simp)

theorem Follows.recv_lagged (h : Follows history start next taken missed)
    (hholds : Holds channel history) {next' : Nat}
    (hrecv : channel.recv next = (next', .lagged count)) :
    Follows history start next' taken (missed + count) := by
  obtain ⟨value, -, -, heq⟩ | ⟨-, heq⟩ | ⟨hold, heq⟩ := hholds.recv_cases h.le
  · exact absurd (Prod.mk.inj (heq.symm.trans hrecv)).2 (by simp)
  · have hresult := (Prod.mk.inj (heq.symm.trans hrecv)).2
    split at hresult <;> exact absurd hresult (by simp)
  · obtain ⟨rfl, hlagged⟩ := Prod.mk.inj (heq.symm.trans hrecv)
    obtain rfl := Received.lagged.inj hlagged
    have hcount := h.count
    refine ⟨Nat.sub_le _ _, h.sublist.trans ?_, by omega⟩
    exact (List.take_sublist_take_left (by omega)).drop start

/-- Without a lag nothing was skipped. -/
theorem Follows.eq_of_missed (h : Follows history start next taken 0) :
    taken = (history.take next).drop start := by
  refine h.sublist.eq_of_length ?_
  have hcount := h.count
  have hle := h.le
  rw [List.length_drop, List.length_take]
  omega

end Broadcast

end Machine
