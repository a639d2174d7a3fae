import Mathlib.Algebra.BigOperators.Group.List.Basic
import Mathlib.Algebra.Ring.Nat
import Mathlib.Data.List.Induction

/-!
# Lists of tasks

A machine that starts tasks keeps them in a list and names each by its position. A task is added
at the end, and a step changes the task at one position. What holds of every task and its
position survives both if it holds of the task that is new or has changed. A quantity that is
added up over the tasks changes by what it changes for that task.
-/

namespace Machine

universe u

variable {α : Type u} {tasks : List α} {P : Nat → α → Prop}

theorem forall_concat {task : α} (hold : ∀ (i : Nat) other, tasks[i]? = some other → P i other)
    (hnew : P tasks.length task) (i : Nat) (other : α)
    (h : (tasks ++ [task])[i]? = some other) : P i other := by
  have hlt : i < (tasks ++ [task]).length := (List.getElem?_eq_some_iff.mp h).1
  rw [List.length_append, List.length_singleton] at hlt
  by_cases hlast : i = tasks.length
  · subst hlast
    rw [List.getElem?_concat_length] at h
    exact Option.some.inj h ▸ hnew
  · rw [List.getElem?_append_left (by omega)] at h
    exact hold i other h

theorem getElem?_modify_map (f : α → α) (index i : Nat) :
    (tasks.modify index f)[i]? = tasks[i]?.map fun task => if index = i then f task else task := by
  rw [List.getElem?_modify, Option.map_eq_map]

theorem forall_modify {f : α → α} {index : Nat}
    (hchanged : ∀ task, tasks[index]? = some task → P index (f task))
    (hother : ∀ (i : Nat) task, i ≠ index → tasks[i]? = some task → P i task) (i : Nat) (task : α)
    (h : (tasks.modify index f)[i]? = some task) : P i task := by
  rw [getElem?_modify_map] at h
  obtain ⟨before, hbefore, rfl⟩ := Option.map_eq_some_iff.mp h
  by_cases hindex : index = i
  · subst hindex
    rw [if_pos rfl]
    exact hchanged before hbefore
  · rw [if_neg hindex]
    exact hother i before (Ne.symm hindex) hbefore

/-- The weight of a task that changes goes from the sum, and its new weight comes in. -/
theorem sum_map_modify (weight : α → Nat) (f : α → α) {index : Nat} {task : α}
    (h : tasks[index]? = some task) :
    ((tasks.modify index f).map weight).sum + weight task =
      (tasks.map weight).sum + weight (f task) := by
  induction tasks generalizing index with
  | nil => simp at h
  | cons first rest ih =>
      cases index with
      | zero =>
          obtain rfl := Option.some.inj (List.getElem?_cons_zero.symm.trans h)
          simp only [List.modify_zero_cons, List.map_cons, List.sum_cons]
          omega
      | succ index =>
          have hrest := ih (List.getElem?_cons_succ.symm.trans h)
          simp only [List.modify_succ_cons, List.map_cons, List.sum_cons]
          omega

theorem countP_modify (p : α → Bool) (f : α → α) {index : Nat} {task : α}
    (h : tasks[index]? = some task) :
    (tasks.modify index f).countP p + (p task).toNat =
      tasks.countP p + (p (f task)).toNat := by
  induction tasks generalizing index with
  | nil => simp at h
  | cons first rest ih =>
      cases index with
      | zero =>
          obtain rfl := Option.some.inj (List.getElem?_cons_zero.symm.trans h)
          rw [List.modify_zero_cons, List.countP_cons, List.countP_cons]
          cases p first <;> cases p (f first) <;> simp
      | succ index =>
          have hrest := ih (List.getElem?_cons_succ.symm.trans h)
          rw [List.modify_succ_cons, List.countP_cons, List.countP_cons]
          omega

/-- As many tasks have a property as there are names for them, at most. -/
theorem countP_le_length (p : α → Bool) {names : List Nat}
    (h : ∀ (i : Nat) task, tasks[i]? = some task → p task = true → i ∈ names) :
    tasks.countP p ≤ names.length := by
  induction tasks using List.reverseRecOn generalizing names with
  | nil => exact Nat.zero_le _
  | append_singleton tasks task ih =>
      have hearlier : ∀ (i : Nat) other, tasks[i]? = some other → i < tasks.length ∧
          (tasks ++ [task])[i]? = some other := by
        intro i other hother
        have hlt := (List.getElem?_eq_some_iff.mp hother).1
        exact ⟨hlt, by rw [List.getElem?_append_left hlt, hother]⟩
      rw [List.countP_append, List.countP_singleton]
      split
      · next hlast =>
          have hmem : tasks.length ∈ names := h _ task List.getElem?_concat_length hlast
          have hrest : tasks.countP p ≤ (names.erase tasks.length).length := by
            refine ih fun i other hother hp => ?_
            obtain ⟨hlt, hget⟩ := hearlier i other hother
            exact (List.mem_erase_of_ne (by omega)).mpr (h i other hget hp)
          have hpos := List.length_pos_of_mem hmem
          rw [List.length_erase_of_mem hmem] at hrest
          omega
      · exact ih fun i other hother hp => h i other (hearlier i other hother).2 hp

end Machine
