namespace Rumor

-- The labels of steps that lead from `start` to a state, in order.
inductive Run {State Label : Type} (step : State → Label → State → Prop) (start : State) :
    List Label → State → Prop
  | refl : Run step start [] start
  | step {labels : List Label} {s s' : State} {label : Label} :
      Run step start labels s → step s label s' → Run step start (labels ++ [label]) s'

-- What no step breaks holds to the end.
theorem Run.invariant {State Label : Type} {step : State → Label → State → Prop} {start s : State}
    {labels : List Label} {P : State → Prop} (h : Run step start labels s) (hstart : P start)
    (hstep : ∀ s label s', P s → step s label s' → P s') : P s := by
  induction h with
  | refl => exact hstart
  | step _ hs ih => exact hstep _ _ _ ih hs

section Parts

variable {State Label : Type} {step : State → Label → State → Prop} {s s' s'' : State}
  {a b : List Label}

theorem Run.single {label : Label} (h : step s label s') : Run step s [label] s' :=
  .step .refl h

theorem Run.append (h : Run step s a s') (h' : Run step s' b s'') : Run step s (a ++ b) s'' := by
  induction h' with
  | refl => exact (List.append_nil a).symm ▸ h
  | step _ hs ih => exact List.append_assoc a _ _ ▸ ih.step hs

theorem Run.eq_of_nil (h : Run step s [] s') : s' = s := by
  generalize hlabels : [] = labels at h
  cases h with
  | refl => rfl
  | step _ _ =>
      exact absurd hlabels.symm (List.append_ne_nil_of_right_ne_nil _ (List.cons_ne_nil _ _))

theorem Run.last {label : Label} (h : Run step s (a ++ [label]) s'') :
    ∃ s', Run step s a s' ∧ step s' label s'' := by
  generalize hlabels : a ++ [label] = labels at h
  cases h with
  | refl => exact absurd hlabels (List.append_ne_nil_of_right_ne_nil _ (List.cons_ne_nil _ _))
  | step hrun hs =>
      obtain ⟨rfl, hlast⟩ := List.append_inj' hlabels rfl
      obtain rfl := List.singleton_inj.mp hlast
      exact ⟨_, hrun, hs⟩

theorem Run.split (h : Run step s (a ++ b) s'') : ∃ s', Run step s a s' ∧ Run step s' b s'' := by
  generalize hlabels : a ++ b = labels at h
  induction h generalizing b with
  | refl =>
      obtain ⟨rfl, rfl⟩ := List.append_eq_nil_iff.mp hlabels
      exact ⟨s, .refl, .refl⟩
  | step hrun hs ih =>
      rcases List.eq_nil_or_concat b with rfl | ⟨early, label, rfl⟩
      · rw [List.append_nil] at hlabels
        exact ⟨_, hlabels ▸ hrun.step hs, .refl⟩
      · rw [List.concat_eq_append, ← List.append_assoc] at hlabels
        obtain ⟨hearly, hlast⟩ := List.append_inj' hlabels rfl
        obtain rfl := List.singleton_inj.mp hlast
        obtain ⟨s', hrun, hrest⟩ := ih hearly
        exact ⟨s', hrun, List.concat_eq_append ▸ hrest.step hs⟩

theorem Run.first {label : Label} (h : Run step s (label :: a) s'') :
    ∃ s', step s label s' ∧ Run step s' a s'' := by
  obtain ⟨s', hone, hrest⟩ := Run.split (a := [label]) h
  obtain ⟨_, hnil, hs⟩ := Run.last (a := []) hone
  exact ⟨s', hnil.eq_of_nil ▸ hs, hrest⟩

end Parts

end Rumor
