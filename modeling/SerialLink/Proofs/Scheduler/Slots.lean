import Mathlib.Data.List.Basic
import SerialLink.Scheduler.SendQueue

/-!
The slots of a send queue. Everything that a queue can tell is read off `get?`, so each change is
described by what it does to `get?` and, up to order, to the items: an insertion fills a free slot
and adds its item (`insert?_eq_some`, `perm_items_insert?`), and there is one as long as the queue
is not full (`insert?_isSome`); a removal takes its item away (`perm_items_remove`); a change of
an item leaves the others alone (`perm_items_modify`).
-/

namespace SerialLink.SendQueue

variable {q : SendQueue}

/-! ### One slot -/

@[simp] theorem get?_empty (slot : Nat) : ({} : SendQueue).get? slot = none := by
  unfold get?
  rw [Vector.getElem?_replicate]
  split <;> rfl

theorem get?_of_ge {slot : Nat} (outside : capacity ≤ slot) : q.get? slot = none := by
  unfold get?
  rw [Vector.getElem?_eq_none outside]
  rfl

theorem lt_of_get? {slot : Nat} {item : QueueItem} (held : q.get? slot = some item) :
    slot < capacity := by
  rcases Nat.lt_or_ge slot capacity with inside | outside
  · exact inside
  · rw [get?_of_ge outside] at held
    cases held

theorem get?_set_self {slot : Nat} (inside : slot < capacity) (item : Option QueueItem) :
    (q.set slot item).get? slot = item := by
  unfold get? set
  rw [Vector.getElem?_setIfInBounds_self_of_lt inside]
  rfl

theorem get?_set_of_ne {slot other : Nat} (ne : other ≠ slot) (item : Option QueueItem) :
    (q.set slot item).get? other = q.get? other := by
  unfold get? set
  rw [Vector.getElem?_setIfInBounds_ne ne.symm]

/-- The pointers do not matter for what is held. -/
@[simp] theorem get?_markSent (slot : Nat) : (q.markSent slot).get? = q.get? := rfl

@[simp] theorem items_markSent (slot : Nat) : (q.markSent slot).items = q.items := rfl

theorem get?_set_eq_some {slot other : Nat} {item : Option QueueItem} {held : QueueItem}
    (found : (q.set slot item).get? other = some held) :
    other = slot ∧ item = some held ∨ other ≠ slot ∧ q.get? other = some held := by
  by_cases same : other = slot
  · subst same
    have inside := lt_of_get? found
    rw [get?_set_self inside] at found
    exact .inl ⟨rfl, found⟩
  · rw [get?_set_of_ne same] at found
    exact .inr ⟨same, found⟩

/-! ### All items -/

theorem mem_items {item : QueueItem} : item ∈ q.items ↔ ∃ slot, q.get? slot = some item := by
  unfold items
  rw [List.mem_filterMap]
  constructor
  · rintro ⟨slot, -, held⟩
    exact ⟨slot, held⟩
  · rintro ⟨slot, held⟩
    exact ⟨slot, List.mem_range.mpr (lt_of_get? held), held⟩

@[simp] theorem items_empty : ({} : SendQueue).items = [] := by
  refine List.eq_nil_iff_forall_not_mem.mpr fun item mem => ?_
  obtain ⟨slot, held⟩ := mem_items.mp mem
  rw [get?_empty] at held
  cases held

@[simp] theorem count_empty (state : ItemState) : ({} : SendQueue).count state = 0 := by
  rw [count, items_empty, List.countP_nil]

theorem size_le (q : SendQueue) : q.size ≤ capacity := by
  have most := List.length_filterMap_le q.get? (List.range capacity)
  rwa [List.length_range] at most

/-- The items in the slots other than this one. -/
def others (q : SendQueue) (slot : Nat) : List QueueItem :=
  ((List.range capacity).erase slot).filterMap q.get?

theorem perm_items {slot : Nat} (inside : slot < capacity) :
    q.items.Perm ((q.get? slot).toList ++ q.others slot) := by
  have split := (List.perm_cons_erase (List.mem_range.mpr inside)).filterMap q.get?
  refine split.trans ?_
  cases held : q.get? slot with
  | none => rw [List.filterMap_cons_none held]; exact .refl _
  | some item => rw [List.filterMap_cons_some held]; exact .refl _

theorem others_set (slot : Nat) (item : Option QueueItem) :
    (q.set slot item).others slot = q.others slot := by
  unfold others
  refine List.filterMap_congr fun other mem => ?_
  have ne : other ≠ slot := ((List.nodup_range).mem_erase_iff.mp mem).1
  exact get?_set_of_ne ne item

theorem perm_items_set {slot : Nat} (inside : slot < capacity) (item : Option QueueItem) :
    (q.set slot item).items.Perm (item.toList ++ q.others slot) := by
  have split := perm_items (q := q.set slot item) inside
  rwa [get?_set_self inside, others_set] at split

/-! ### Changes -/

theorem perm_items_remove {slot : Nat} {item : QueueItem} (held : q.get? slot = some item) :
    q.items.Perm (item :: (q.remove slot).2.items) := by
  have inside := lt_of_get? held
  have before := perm_items (q := q) inside
  rw [held] at before
  exact before.trans ((perm_items_set inside none).symm.cons item)

theorem get?_remove_of_ne {slot other : Nat} (ne : other ≠ slot) :
    (q.remove slot).2.get? other = q.get? other :=
  get?_set_of_ne ne none

/-- What is held after a removal was held before, in another slot. -/
theorem get?_remove_eq_some {slot other : Nat} {held : QueueItem}
    (found : (q.remove slot).2.get? other = some held) :
    other ≠ slot ∧ q.get? other = some held := by
  rcases get?_set_eq_some found with ⟨-, removed⟩ | kept
  · cases removed
  · exact kept

theorem perm_items_modify {slot : Nat} {item : QueueItem} (held : q.get? slot = some item)
    (change : QueueItem → QueueItem) :
    q.items.Perm (item :: q.others slot) ∧
      (q.modify slot change).items.Perm (change item :: q.others slot) := by
  have inside := lt_of_get? held
  have before := perm_items (q := q) inside
  have after := perm_items_set (q := q) inside ((q.get? slot).map change)
  rw [held] at before after
  refine ⟨before, ?_⟩
  unfold modify
  rwa [held]

theorem get?_modify_of_ne {slot other : Nat} (ne : other ≠ slot) (change : QueueItem → QueueItem) :
    (q.modify slot change).get? other = q.get? other :=
  get?_set_of_ne ne _

theorem get?_modify_eq_some {slot other : Nat} {change : QueueItem → QueueItem} {held : QueueItem}
    (found : (q.modify slot change).get? other = some held) :
    ∃ before : QueueItem, q.get? other = some before ∧
      held = if other = slot then change before else before := by
  rcases get?_set_eq_some found with ⟨rfl, changed⟩ | ⟨ne, kept⟩
  · obtain ⟨before, held', eq⟩ := Option.map_eq_some_iff.mp changed
    exact ⟨before, held', by rw [if_pos rfl, eq]⟩
  · exact ⟨held, kept, by rw [if_neg ne]⟩

theorem get?_modify_cases {slot other : Nat} {change : QueueItem → QueueItem} {held : QueueItem}
    (found : (q.modify slot change).get? other = some held) :
    (other = slot ∧ ∃ before, q.get? slot = some before ∧ held = change before) ∨
      other ≠ slot ∧ q.get? other = some held := by
  obtain ⟨before, held', eq⟩ := get?_modify_eq_some found
  split at eq
  · rename_i same
    subst same
    exact .inl ⟨rfl, before, held', eq⟩
  · rename_i ne
    rw [eq]
    exact .inr ⟨ne, held'⟩

/-! ### Going round -/

/-- The circle passes every slot, wherever it starts. -/
theorem mem_circle {start slot : Nat} : slot ∈ circle start ↔ slot < capacity := by
  unfold circle
  simp only [List.mem_map, List.mem_range]
  constructor
  · rintro ⟨step, -, rfl⟩
    exact Nat.mod_lt _ (by decide)
  · intro inside
    refine ⟨(slot + capacity - start % capacity) % capacity, Nat.mod_lt _ (by decide), ?_⟩
    simp only [capacity] at inside ⊢
    omega

/-- The slot is the first one with a property that is met when going round from `start`. -/
def FirstFrom (start : Nat) (p : Nat → Prop) (slot : Nat) : Prop :=
  ∃ step < capacity, slot = (start + step) % capacity ∧ p slot ∧
    ∀ earlier < step, ¬ p ((start + earlier) % capacity)

theorem find?_circle_eq_some_iff {start slot : Nat} {p : Nat → Bool} :
    (circle start).find? p = some slot ↔ FirstFrom start (fun slot => p slot = true) slot := by
  unfold circle FirstFrom
  rw [List.find?_map, Option.map_eq_some_iff]
  constructor
  · rintro ⟨step, found, rfl⟩
    obtain ⟨here, inside, sooner⟩ := List.find?_range_eq_some.mp found
    refine ⟨step, List.mem_range.mp inside, rfl, here, fun earlier before => ?_⟩
    simpa using sooner earlier before
  · rintro ⟨step, inside, rfl, here, sooner⟩
    refine ⟨step, List.find?_range_eq_some.mpr ⟨here, List.mem_range.mpr inside, ?_⟩, rfl⟩
    intro earlier before
    simpa using sooner earlier before

theorem find?_circle_eq_none_iff {start : Nat} {p : Nat → Bool} :
    (circle start).find? p = none ↔ ∀ slot < capacity, ¬ p slot = true := by
  rw [List.find?_eq_none]
  simp only [mem_circle]

/-! ### Insertions -/

theorem isFull_eq_false_iff : q.isFull = false ↔ ∃ slot, slot < capacity ∧ q.get? slot = none := by
  unfold isFull
  rw [List.all_eq_false]
  simp

/-- An insertion fills a free slot and moves the write pointer behind it. -/
theorem insert?_eq_some {item : QueueItem} {slot : Nat} {q' : SendQueue}
    (inserted : q.insert? item = some (slot, q')) :
    slot < capacity ∧ q.get? slot = none ∧
      q' = { q.set slot (some item) with write := (slot + 1) % capacity } := by
  obtain ⟨found, free, eq⟩ := Option.map_eq_some_iff.mp inserted
  cases eq
  have unheld := List.find?_some free
  exact ⟨mem_circle.mp (List.mem_of_find?_eq_some free), by simpa using unheld, rfl⟩

/-- There is room as long as the queue is not full. -/
theorem insert?_isSome (room : q.isFull = false) (item : QueueItem) :
    (q.insert? item).isSome = true := by
  obtain ⟨slot, inside, free⟩ := isFull_eq_false_iff.mp room
  unfold insert?
  rw [Option.isSome_map, List.find?_isSome]
  exact ⟨slot, mem_circle.mpr inside, by simp [free]⟩

theorem perm_items_insert? {item : QueueItem} {slot : Nat} {q' : SendQueue}
    (inserted : q.insert? item = some (slot, q')) : q'.items.Perm (item :: q.items) := by
  obtain ⟨inside, free, rfl⟩ := insert?_eq_some inserted
  have before := perm_items (q := q) inside
  rw [free] at before
  exact (perm_items_set inside (some item)).trans (before.symm.cons item)

theorem get?_insert?_eq_some {item : QueueItem} {slot other : Nat} {q' : SendQueue}
    {held : QueueItem} (inserted : q.insert? item = some (slot, q'))
    (found : q'.get? other = some held) :
    other = slot ∧ held = item ∨ other ≠ slot ∧ q.get? other = some held := by
  obtain ⟨-, -, rfl⟩ := insert?_eq_some inserted
  rcases get?_set_eq_some found with ⟨same, eq⟩ | kept
  · exact .inl ⟨same, (Option.some.inj eq).symm⟩
  · exact .inr kept

/-! ### Counts -/

theorem countP_eq_ite {state : ItemState} {item : QueueItem} {items : List QueueItem} :
    (item :: items).countP (fun item => item.state = state) =
      items.countP (fun item => item.state = state) + if item.state = state then 1 else 0 := by
  rw [List.countP_cons]
  simp only [decide_eq_true_eq]

theorem count_insert? {item : QueueItem} {slot : Nat} {q' : SendQueue}
    (inserted : q.insert? item = some (slot, q')) (state : ItemState) :
    q'.count state = q.count state + if item.state = state then 1 else 0 := by
  unfold count
  rw [(perm_items_insert? inserted).countP_eq, countP_eq_ite]

theorem count_remove {slot : Nat} {item : QueueItem} (held : q.get? slot = some item)
    (state : ItemState) :
    q.count state = (q.remove slot).2.count state + if item.state = state then 1 else 0 := by
  unfold count
  rw [(perm_items_remove held).countP_eq, countP_eq_ite]

theorem count_modify {slot : Nat} {item : QueueItem} (held : q.get? slot = some item)
    (change : QueueItem → QueueItem) (state : ItemState) :
    (q.modify slot change).count state + (if item.state = state then 1 else 0) =
      q.count state + if (change item).state = state then 1 else 0 := by
  obtain ⟨before, after⟩ := perm_items_modify held change
  unfold count
  rw [before.countP_eq, after.countP_eq, countP_eq_ite, countP_eq_ite]
  omega

theorem size_insert? {item : QueueItem} {slot : Nat} {q' : SendQueue}
    (inserted : q.insert? item = some (slot, q')) : q'.size = q.size + 1 :=
  (perm_items_insert? inserted).length_eq

theorem size_modify {slot : Nat} {item : QueueItem} (held : q.get? slot = some item)
    (change : QueueItem → QueueItem) : (q.modify slot change).size = q.size := by
  obtain ⟨before, after⟩ := perm_items_modify held change
  unfold size
  rw [before.length_eq, after.length_eq, List.length_cons, List.length_cons]

theorem count_pos_iff {state : ItemState} :
    0 < q.count state ↔ ∃ slot item, q.get? slot = some item ∧ item.state = state := by
  unfold count
  rw [List.countP_pos_iff]
  constructor
  · rintro ⟨item, mem, same⟩
    obtain ⟨slot, held⟩ := mem_items.mp mem
    exact ⟨slot, item, held, of_decide_eq_true same⟩
  · rintro ⟨slot, item, held, same⟩
    exact ⟨item, mem_items.mpr ⟨slot, held⟩, decide_eq_true same⟩

/-! ### Whose turn it is -/

theorem waitSend_of_nextToSend? {slot : Nat} (next : q.nextToSend? = some slot) :
    ∃ item, q.get? slot = some item ∧ item.state = .waitSend := by
  have waits := List.find?_some next
  cases held : q.get? slot with
  | none =>
    rw [held] at waits
    cases waits
  | some item =>
    rw [held] at waits
    exact ⟨item, rfl, of_decide_eq_true waits⟩

/-- As long as an item waits to be sent, it is some item's turn. -/
theorem nextToSend?_isSome {slot : Nat} {item : QueueItem} (held : q.get? slot = some item)
    (waits : item.state = .waitSend) : q.nextToSend?.isSome = true := by
  unfold nextToSend?
  rw [List.find?_isSome]
  exact ⟨slot, mem_circle.mpr (lt_of_get? held), by simp [held, waits]⟩

/-- It is an item's turn just if one waits to be sent, and then that of the first one from the send
pointer on. -/
theorem nextToSend?_eq_some_iff {slot : Nat} : q.nextToSend? = some slot ↔
    FirstFrom q.send (fun slot => ∃ item, q.get? slot = some item ∧ item.state = .waitSend)
      slot := by
  unfold nextToSend?
  rw [find?_circle_eq_some_iff]
  simp [Option.any_eq_true]

theorem nextToSend?_isSome_iff :
    q.nextToSend?.isSome = true ↔ ∃ item ∈ q.items, item.state = .waitSend := by
  constructor
  · intro next
    obtain ⟨slot, next⟩ := Option.isSome_iff_exists.mp next
    obtain ⟨item, held, waits⟩ := waitSend_of_nextToSend? next
    exact ⟨item, mem_items.mpr ⟨slot, held⟩, waits⟩
  · rintro ⟨item, mem, waits⟩
    obtain ⟨slot, held⟩ := mem_items.mp mem
    exact nextToSend?_isSome held waits

/-! ### Looking up confirms -/

theorem mem_entries {slot : Nat} {item : QueueItem} :
    (slot, item) ∈ q.entries ↔ q.get? slot = some item := by
  unfold entries
  rw [List.mem_filterMap]
  constructor
  · rintro ⟨slot', -, eq⟩
    obtain ⟨item', held, eq⟩ := Option.map_eq_some_iff.mp eq
    cases eq
    exact held
  · intro held
    exact ⟨slot, List.mem_range.mpr (lt_of_get? held), by rw [held]; rfl⟩

theorem nodup_entries (q : SendQueue) : (q.entries.map Prod.fst).Nodup := by
  have slots : q.entries.map Prod.fst =
      (List.range capacity).filter fun slot => (q.get? slot).isSome := by
    unfold entries
    rw [List.map_filterMap, ← List.filterMap_eq_filter]
    refine List.filterMap_congr fun slot _ => ?_
    cases held : q.get? slot <;> simp [Option.guard, held]
  rw [slots]
  exact List.nodup_range.filter _

/-- The slot found for a confirm holds an item that waits for it. -/
theorem awaits_of_findConfirm? {id seq : UInt8} {slot : Nat}
    (found : q.findConfirm? id seq = some slot) :
    ∃ item, q.get? slot = some item ∧ item.awaits id seq = true := by
  obtain ⟨⟨slot', item⟩, entry, rfl⟩ := Option.map_eq_some_iff.mp found
  have awaits : item.awaits id seq = true :=
    List.find?_some (p := fun entry : Nat × QueueItem => entry.2.awaits id seq) entry
  exact ⟨item, mem_entries.mp (List.mem_of_find?_eq_some entry), awaits⟩

/-- A slot is found for a confirm that some item waits for. -/
theorem findConfirm?_isSome {id seq : UInt8} {slot : Nat} {item : QueueItem}
    (held : q.get? slot = some item) (awaits : item.awaits id seq = true) :
    (q.findConfirm? id seq).isSome = true := by
  unfold findConfirm?
  rw [Option.isSome_map, List.find?_isSome]
  exact ⟨(slot, item), mem_entries.mpr held, awaits⟩

end SerialLink.SendQueue
