import Mathlib.Algebra.Ring.Nat
import SerialLink.Metric

/-!
What recording adds up to. A recording keeps one entry for each series; the totals of a metric, over
all labels, grow by what is recorded and are not changed by what is recorded of other metrics
(`total_add`, `sampleCount_sample`). Gauges are apart from both.
-/

namespace SerialLink

/-! ### Sums over entries -/

/-- If a change adds the same to the weight of what is kept under a key, whatever that is, it adds
that to the weight of all. -/
theorem sum_updateKey {α β : Type} [DecidableEq α] (weight : α × β → Nat) {key : α} {fresh : β}
    {change : β → β} {gain : Nat} (nothing : weight (key, fresh) = 0)
    (grows : ∀ value, weight (key, change value) = weight (key, value) + gain)
    (entries : List (α × β)) :
    ((updateKey key fresh change entries).map weight).sum = (entries.map weight).sum + gain := by
  induction entries with
  | nil =>
    rw [updateKey, List.map_singleton, List.sum_singleton, grows, nothing]
    rfl
  | cons entry entries ih =>
    obtain ⟨k, value⟩ := entry
    rw [updateKey]
    split
    · rename_i same
      subst same
      simp only [List.map_cons, List.sum_cons, grows]
      omega
    · simp only [List.map_cons, List.sum_cons, ih, Nat.add_assoc]

private theorem foldl_eq_sum {α : Type} (weight : α → Nat) (entries : List α) (first : Nat) :
    entries.foldl (fun sum entry => sum + weight entry) first =
      first + (entries.map weight).sum := by
  induction entries generalizing first with
  | nil => rfl
  | cons entry entries ih =>
    rw [List.foldl_cons, ih, List.map_cons, List.sum_cons, Nat.add_assoc]

namespace Recording

theorem total_eq_sum (r : Recording) (metric : Metric) :
    r.total metric =
      (r.counters.map fun entry => if entry.1.metric = metric then entry.2 else 0).sum := by
  rw [← Nat.zero_add (List.sum _), ← foldl_eq_sum]
  unfold total
  congr 1
  funext sum entry
  dsimp only
  split <;> rfl

theorem sampleCount_eq_sum (r : Recording) (metric : Metric) :
    r.sampleCount metric =
      (r.samples.map fun entry => if entry.1.metric = metric then entry.2.length else 0).sum := by
  rw [← Nat.zero_add (List.sum _), ← foldl_eq_sum]
  unfold sampleCount
  congr 1
  funext sum entry
  dsimp only
  split <;> rfl

/-! ### What is recorded -/

variable (r : Recording) (recorded metric : Metric) (labels : Labels)

@[simp] theorem total_add (amount : Nat) :
    (r.add recorded labels amount).total metric =
      r.total metric + if recorded = metric then amount else 0 := by
  rw [total_eq_sum, total_eq_sum, add]
  refine sum_updateKey _ (by simp) (fun value => ?_) _
  dsimp only
  split <;> rfl

@[simp] theorem total_set (value : Nat) :
    (r.set recorded labels value).total metric = r.total metric := rfl

@[simp] theorem total_sample (value : Nat) :
    (r.sample recorded labels value).total metric = r.total metric := rfl

@[simp] theorem sampleCount_add (amount : Nat) :
    (r.add recorded labels amount).sampleCount metric = r.sampleCount metric := rfl

@[simp] theorem sampleCount_set (value : Nat) :
    (r.set recorded labels value).sampleCount metric = r.sampleCount metric := rfl

@[simp] theorem sampleCount_sample (value : Nat) :
    (r.sample recorded labels value).sampleCount metric =
      r.sampleCount metric + if recorded = metric then 1 else 0 := by
  rw [sampleCount_eq_sum, sampleCount_eq_sum, sample]
  refine sum_updateKey _ (by simp) (fun values => ?_) _
  dsimp only
  split
  · exact List.length_append
  · rfl

end Recording

end SerialLink
