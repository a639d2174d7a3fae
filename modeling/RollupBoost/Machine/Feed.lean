import Mathlib.Data.List.Infix
import Mathlib.Logic.Function.Basic

/-!
# Reading a log over one feed after the other

A log grows. A feed passes on what is in the log from some position on, with gaps or without, and
may break off anywhere. A reader takes what its feed has for it, leaves it and turns to another
one, which began no earlier than the last one was left.

What the reader has read over all its feeds is then a part of the log: nothing twice, and nothing
out of order. `Reads` says so, and holds through the steps of the reader and while the log and the
feeds grow.

A log that several sources write has a part of each of them. What is known of each part by itself
is known of all parts together, in the order of the log (`exists_merged`).
-/

namespace Machine

universe u

variable {α : Type u}

/-- What was passed on since the log was `start` long. -/
structure LogFeed (α : Type u) where
  start : Nat
  sent : List α

/-- The feed that is read, how much of it was read, how long the log was when the last feed was
left, and all that was read. -/
structure LogReader (α : Type u) where
  feed : Option Nat
  count : Nat
  since : Nat
  read : List α

namespace LogReader

def new : LogReader α where
  feed := none
  count := 0
  since := 0
  read := []

/-- The reader of a feed that is no older than the place where the last one was left. -/
def attach (self : LogReader α) (feeds : List (LogFeed α)) (index : Nat) : Option (LogReader α) :=
  match self.feed, feeds[index]? with
  | none, some feed =>
      if self.since ≤ feed.start then some { self with feed := some index, count := 0 } else none
  | _, _ => none

/-- What the feed has for the reader, and the reader that has taken it. -/
def next (self : LogReader α) (feeds : List (LogFeed α)) : Option (α × LogReader α) :=
  match self.feed.bind (feeds[·]?) with
  | some feed => feed.sent[self.count]?.map fun value =>
      (value, { self with count := self.count + 1, read := self.read ++ [value] })
  | none => none

def detach (self : LogReader α) (log : List α) : LogReader α :=
  { self with feed := none, since := log.length }

end LogReader

/-- Every feed passes on a part of the log, from its start on. -/
def Feeds (log : List α) (feeds : List (LogFeed α)) : Prop :=
  ∀ (i : Nat) feed, feeds[i]? = some feed →
    feed.start ≤ log.length ∧ feed.sent.Sublist (log.drop feed.start)

/-- Feeds stay, and pass on more. -/
def FeedsGrow (feeds feeds' : List (LogFeed α)) : Prop :=
  ∀ (i : Nat) feed, feeds[i]? = some feed →
    ∃ feed', feeds'[i]? = some feed' ∧ feed'.start = feed.start ∧ feed.sent <+: feed'.sent

theorem FeedsGrow.refl (feeds : List (LogFeed α)) : FeedsGrow feeds feeds :=
  fun _ feed hfeed => ⟨feed, hfeed, rfl, List.prefix_refl _⟩

/-- What was read before the feed is in the log before its start. -/
structure Reads (log : List α) (feeds : List (LogFeed α)) (reader : LogReader α) : Prop where
  detached : reader.feed = none →
    reader.since ≤ log.length ∧ reader.read.Sublist (log.take reader.since)
  attached : ∀ index, reader.feed = some index → ∃ feed before,
    feeds[index]? = some feed ∧ reader.count ≤ feed.sent.length ∧
      reader.read = before ++ feed.sent.take reader.count ∧
      before.Sublist (log.take feed.start)

namespace Reads

variable {log log' : List α} {feeds feeds' : List (LogFeed α)} {reader reader' : LogReader α}

theorem new : Reads log feeds .new where
  detached _ := ⟨Nat.zero_le _, List.nil_sublist _⟩
  attached _ h := absurd h (by simp [LogReader.new])

/-- Nothing is read twice, and nothing out of order. -/
theorem sublist (h : Reads log feeds reader) (hfeeds : Feeds log feeds) :
    reader.read.Sublist log := by
  cases hfeed : reader.feed with
  | none => exact (h.detached hfeed).2.trans (List.take_sublist _ _)
  | some index =>
      obtain ⟨feed, before, hget, -, hread, hbefore⟩ := h.attached index hfeed
      have hsent := (List.take_sublist reader.count feed.sent).trans (hfeeds index feed hget).2
      rw [hread, ← List.take_append_drop feed.start log]
      exact hbefore.append hsent

theorem attach (h : Reads log feeds reader) {index : Nat}
    (hattach : reader.attach feeds index = some reader') :
    Reads log feeds reader' ∧ reader'.read = reader.read := by
  simp only [LogReader.attach] at hattach
  split at hattach
  · next feed hnone hget =>
      split at hattach
      · next hsince =>
          obtain rfl := Option.some.inj hattach
          obtain ⟨-, hread⟩ := h.detached hnone
          refine ⟨⟨fun hfeed => absurd hfeed (by simp), fun other hother => ?_⟩, rfl⟩
          obtain rfl := Option.some.inj hother
          refine ⟨feed, reader.read, hget, Nat.zero_le _, by simp, hread.trans ?_⟩
          exact (List.take_prefix_take_left hsince).sublist
      · exact absurd hattach (by simp)
  · exact absurd hattach (by simp)

theorem next (h : Reads log feeds reader) {value : α}
    (hnext : reader.next feeds = some (value, reader')) :
    Reads log feeds reader' ∧ reader'.read = reader.read ++ [value] := by
  simp only [LogReader.next] at hnext
  split at hnext
  · next feed hfeed =>
      obtain ⟨value', hvalue, heq⟩ := Option.map_eq_some_iff.mp hnext
      obtain ⟨rfl, rfl⟩ := Prod.mk.inj heq
      obtain ⟨index, hindex, hget⟩ := Option.bind_eq_some_iff.mp hfeed
      obtain ⟨feed', before, hget', -, hread, hbefore⟩ := h.attached index hindex
      obtain rfl := Option.some.inj (hget.symm.trans hget')
      refine ⟨⟨fun hnone => absurd (hindex.symm.trans hnone) (by simp), fun other hother => ?_⟩,
        rfl⟩
      obtain rfl := Option.some.inj (hindex.symm.trans hother)
      refine ⟨feed, before, hget, (List.getElem?_eq_some_iff.mp hvalue).1, ?_, hbefore⟩
      rw [hread, List.take_add_one, hvalue, Option.toList_some, List.append_assoc]
  · exact absurd hnext (by simp)

theorem detach (h : Reads log feeds reader) (hfeeds : Feeds log feeds) :
    Reads log feeds (reader.detach log) := by
  refine ⟨fun _ => ⟨Nat.le_refl _, ?_⟩, fun _ hfeed => absurd hfeed (by simp [LogReader.detach])⟩
  rw [LogReader.detach, List.take_length]
  exact h.sublist hfeeds

theorem grow (h : Reads log feeds reader) (hfeeds : Feeds log feeds) (hlog : log <+: log')
    (hgrow : FeedsGrow feeds feeds') : Reads log' feeds' reader := by
  have htake : ∀ n ≤ log.length, log'.take n = log.take n := by
    intro n hn
    obtain ⟨rest, rfl⟩ := hlog
    exact List.take_append_of_le_length hn
  refine ⟨fun hnone => ?_, fun index hindex => ?_⟩
  · obtain ⟨hsince, hread⟩ := h.detached hnone
    rw [htake _ hsince]
    exact ⟨hsince.trans hlog.length_le, hread⟩
  · obtain ⟨feed, before, hget, hcount, hread, hbefore⟩ := h.attached index hindex
    obtain ⟨feed', hget', hstart, rest, hsent⟩ := hgrow index feed hget
    refine ⟨feed', before, hget', ?_, ?_, ?_⟩
    · rw [← hsent, List.length_append]
      omega
    · rw [hread, ← hsent, List.take_append_of_le_length hcount]
    · rw [hstart, htake _ (hfeeds index feed hget).1]
      exact hbefore

end Reads

/-! ## Logs of several sources -/

/-- If the entries of each source are images of a list of its own, the entries of all sources are
the images of one list, in which every source has its own. -/
theorem exists_merged {β γ : Type u} (f : α → β) (entries : List (Option Nat × β))
    (parts : Nat → List α)
    (h : ∀ i, (entries.filter (·.1 = some i)).map (·.2) = (parts i).map f) :
    ∃ merged : List (Nat × α),
      (∀ g : β → Option γ, (∀ value, (none, value) ∈ entries → g value = none) →
        (entries.map (·.2)).filterMap g = merged.filterMap fun entry => g (f entry.2)) ∧
      ∀ i, (merged.filter (·.1 = i)).map (·.2) = parts i := by
  induction entries generalizing parts with
  | nil =>
      refine ⟨[], fun _ _ => rfl, fun i => ?_⟩
      exact (List.map_eq_nil_iff.mp (h i).symm).symm
  | cons entry entries ih =>
      obtain ⟨source, value⟩ := entry
      cases source with
      | none =>
          obtain ⟨merged, hmerged, hparts⟩ := ih parts fun i => by simpa using h i
          refine ⟨merged, fun g hnone => ?_, hparts⟩
          rw [List.map_cons, List.filterMap_cons_none (hnone value List.mem_cons_self)]
          exact hmerged g fun other hother => hnone other (List.mem_cons_of_mem _ hother)
      | some j =>
          have hj := h j
          rw [List.filter_cons_of_pos (by simp), List.map_cons] at hj
          obtain ⟨first, rest, hfirst, hvalue, hrest⟩ := List.map_eq_cons_iff.mp hj.symm
          obtain ⟨merged, hmerged, hparts⟩ := ih (Function.update parts j rest) fun i => by
            by_cases hi : i = j
            · subst hi
              rw [Function.update_self, hrest]
            · rw [Function.update_of_ne hi, ← h i, List.filter_cons_of_neg (by simp [Ne.symm hi])]
          refine ⟨(j, first) :: merged, fun g hnone => ?_, fun i => ?_⟩
          · have hlater := hmerged g fun other hother =>
              hnone other (List.mem_cons_of_mem _ hother)
            rw [List.map_cons, List.filterMap_cons, List.filterMap_cons, hvalue, hlater]
          · by_cases hi : i = j
            · subst hi
              rw [List.filter_cons_of_pos (by simp), List.map_cons, hparts,
                Function.update_self, hfirst]
            · rw [List.filter_cons_of_neg (by simp [Ne.symm hi]), hparts,
                Function.update_of_ne hi]

end Machine
