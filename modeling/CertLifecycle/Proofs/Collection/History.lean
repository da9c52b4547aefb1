import Mathlib.Data.List.Induction

/-!
Histories, the oldest event first. `Latest` picks the last event of a history that bears on a question;
it is what a state that is kept up to date event by event should show.
-/

namespace CertLifecycle.Collection

variable {ε : Type}

/-- An event bears on a question, and no later event of the history does. -/
def Latest (relevant : ε → Prop) (history : List ε) (event : ε) : Prop :=
  ∃ earlier later, history = earlier ++ event :: later ∧ relevant event ∧
    ∀ after ∈ later, ¬relevant after

theorem not_latest_nil (relevant : ε → Prop) (event : ε) : ¬Latest relevant [] event := by
  rintro ⟨earlier, later, whole, _⟩
  simp at whole

/-- Where an event stands in a history with one event more: it is the new one, or it was there before. -/
theorem append_singleton_eq_iff {history earlier later : List ε} {last event : ε} :
    history ++ [last] = earlier ++ event :: later ↔
      history = earlier ∧ last = event ∧ later = [] ∨
        ∃ before, later = before ++ [last] ∧ history = earlier ++ event :: before := by
  constructor
  · intro whole
    rcases List.eq_nil_or_concat later with rfl | ⟨before, final, rfl⟩
    · obtain ⟨front, ends⟩ := List.append_inj' whole rfl
      exact .inl ⟨front, List.singleton_inj.mp ends, rfl⟩
    · rw [List.concat_eq_append, ← List.cons_append, ← List.append_assoc] at whole
      obtain ⟨front, ends⟩ := List.append_inj' whole rfl
      exact .inr ⟨before, by rw [List.concat_eq_append, ends], front⟩
  · rintro (⟨rfl, rfl, rfl⟩ | ⟨before, rfl, rfl⟩)
    · rfl
    · rw [List.append_assoc, List.cons_append]

/-- One more event takes over if it is relevant, and changes nothing otherwise. -/
theorem latest_append_singleton (relevant : ε → Prop) (history : List ε) (last event : ε) :
    Latest relevant (history ++ [last]) event ↔
      relevant last ∧ event = last ∨ ¬relevant last ∧ Latest relevant history event := by
  constructor
  · rintro ⟨earlier, later, whole, bears, quiet⟩
    -- The new event is the latest one itself, or it stands at the end of the later ones.
    rcases append_singleton_eq_iff.mp whole with ⟨_, rfl, _⟩ | ⟨before, rfl, front⟩
    · exact .inl ⟨bears, rfl⟩
    · refine .inr ⟨quiet last (by simp), earlier, before, front, bears, fun after member => ?_⟩
      exact quiet after (List.mem_append_left _ member)
  · rintro (⟨bears, rfl⟩ | ⟨silent, earlier, later, rfl, bears, quiet⟩)
    · exact ⟨history, [], rfl, bears, by simp⟩
    · refine ⟨earlier, later ++ [last], by simp, bears, fun after member => ?_⟩
      rcases List.mem_append.mp member with old | new
      · exact quiet after old
      · rw [List.mem_singleton.mp new]
        exact silent

/-- The latest of the relevant events is the last one that is left of them. -/
theorem latest_iff_getLast? {relevant : ε → Prop} [DecidablePred relevant] {history : List ε} {event : ε} :
    Latest relevant history event ↔ (history.filter fun e => relevant e).getLast? = some event := by
  induction history using List.reverseRecOn with
  | nil => exact iff_of_false (not_latest_nil relevant event) (by simp)
  | append_singleton history last ih =>
    rw [latest_append_singleton, List.filter_append, ih]
    by_cases bears : relevant last
    · simp [bears, eq_comm]
    · simp [bears]

/-- In a history that was written down in another form, the latest event is that of the origins. -/
theorem latest_map {δ : Type} (relevant : ε → Prop) (write : δ → ε) (history : List δ) (event : ε) :
    Latest relevant (history.map write) event ↔
      ∃ origin, write origin = event ∧ Latest (fun o => relevant (write o)) history origin := by
  induction history using List.reverseRecOn with
  | nil => simp [not_latest_nil]
  | append_singleton history last ih =>
    rw [List.map_append, List.map_singleton, latest_append_singleton, ih]
    simp only [latest_append_singleton]
    constructor
    · rintro (⟨bears, rfl⟩ | ⟨silent, origin, rfl, latest⟩)
      · exact ⟨last, rfl, .inl ⟨bears, rfl⟩⟩
      · exact ⟨origin, rfl, .inr ⟨silent, latest⟩⟩
    · rintro ⟨origin, rfl, ⟨bears, rfl⟩ | ⟨silent, latest⟩⟩
      · exact .inl ⟨bears, rfl⟩
      · exact .inr ⟨silent, origin, rfl, latest⟩

end CertLifecycle.Collection
