import SerialLink.Bytes

/-!
Calls on a state, one after the other, each with its answer. What every call keeps is kept by all of
them, and may speak of the calls and answers so far (`callAll_keeps`). Two states that answer alike,
and stay related by what makes them do so, answer any calls alike (`callAll_alike`).
-/

namespace SerialLink

variable {σ τ κ α : Type}

/-- Makes calls one after the other. Gives each call with its answer, and the state after the last
one. -/
def callAll (call : σ → κ → α × σ) (s : σ) : List κ → List (κ × α) × σ
  | [] => ([], s)
  | k :: ks =>
    let (answer, s) := call s k
    let (later, s) := callAll call s ks
    ((k, answer) :: later, s)

theorem callAll_cons (call : σ → κ → α × σ) (s : σ) (k : κ) (ks : List κ) :
    callAll call s (k :: ks) =
      ((k, (call s k).1) :: (callAll call (call s k).2 ks).1,
        (callAll call (call s k).2 ks).2) :=
  rfl

/-- What each call keeps is kept by all of them. -/
theorem callAll_keeps {call : σ → κ → α × σ} {P : List (κ × α) → σ → Prop} {ks : List κ}
    (keeps : ∀ past s, ∀ k ∈ ks, P past s → P (past ++ [(k, (call s k).1)]) (call s k).2)
    (past : List (κ × α)) {s : σ} (start : P past s) :
    P (past ++ (callAll call s ks).1) (callAll call s ks).2 := by
  induction ks generalizing past s with
  | nil =>
    rw [callAll, List.append_nil]
    exact start
  | cons k ks ih =>
    have first := keeps past s k List.mem_cons_self start
    have rest := ih (fun past s k' mem => keeps past s k' (List.mem_cons_of_mem k mem)) _ first
    rw [callAll_cons]
    rwa [List.append_assoc, List.singleton_append] at rest

/-- States that answer each call alike, and stay related, answer all calls alike. -/
theorem callAll_alike {call : σ → κ → α × σ} {call' : τ → κ → α × τ} {R : σ → τ → Prop}
    (alike : ∀ s t k, R s t → (call s k).1 = (call' t k).1 ∧ R (call s k).2 (call' t k).2)
    {s : σ} {t : τ} (start : R s t) (ks : List κ) :
    (callAll call s ks).1 = (callAll call' t ks).1 ∧
      R (callAll call s ks).2 (callAll call' t ks).2 := by
  induction ks generalizing s t with
  | nil => exact ⟨rfl, start⟩
  | cons k ks ih =>
    obtain ⟨same, related⟩ := alike s t k start
    obtain ⟨later, after⟩ := ih related
    rw [callAll_cons, callAll_cons, same, later]
    exact ⟨rfl, after⟩

end SerialLink
