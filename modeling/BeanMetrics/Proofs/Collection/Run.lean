import BeanMetrics.Collection.Pass

/-!
Laws of effects and runs. Effects are put together in order; a run after another one begins with the
recorders as the first one left them and is not made at all if the first one ended the pass. So the
steps over a list that was put together from several are the steps over these, one after the other.
-/

namespace BeanMetrics
namespace Effect

@[simp] theorem none_append (a : Effect) : none ++ a = a := by
  change append none a = a
  simp [append, none]

@[simp] theorem append_none (a : Effect) : a ++ none = a := by
  change append a none = a
  simp [append, none]

theorem append_assoc (a b c : Effect) : a ++ b ++ c = a ++ (b ++ c) := by
  change append (append a b) c = append a (append b c)
  simp [append, Nat.add_assoc]

def uncounted (a : Effect) : Effect := ⟨a.emissions, a.writes, 0, 0, 0⟩

theorem uncounted_append (a b : Effect) : (a ++ b).uncounted = a.uncounted ++ b.uncounted := rfl

end Effect

namespace Run

variable {α β : Type}

@[simp] theorem having_none_andThen (r : Recorders) (next : Recorders → Run) :
    (having .none r).andThen next = next r := by
  simp [having, andThen]

theorem andThen_assoc (run : Run) (f g : Recorders → Run) :
    (run.andThen f).andThen g = run.andThen fun r => (f r).andThen g := by
  obtain ⟨effect, r, violation⟩ := run
  cases violation with
  | some e => rfl
  | none =>
    simp only [andThen]
    cases hv : (f r).violation <;> simp [hv, Effect.append_assoc]

theorem violation_andThen_eq_none_iff {run : Run} {next : Recorders → Run} :
    (run.andThen next).violation = none ↔
      run.violation = none ∧ (next run.recorders).violation = none := by
  unfold andThen
  cases hv : run.violation <;> simp [hv]

theorem effect_andThen {run : Run} (h : run.violation = none) (next : Recorders → Run) :
    (run.andThen next).effect = run.effect ++ (next run.recorders).effect := by
  unfold andThen
  rw [h]

theorem andThen_of_violation {run : Run} {violation : RecorderError}
    (h : run.violation = some violation) (next : Recorders → Run) : run.andThen next = run := by
  unfold andThen
  rw [h]

theorem each_append (step : α → Recorders → Run) (as bs : List α) (r : Recorders) :
    each step (as ++ bs) r = (each step as r).andThen (each step bs) := by
  induction as generalizing r with
  | nil => simp [each]
  | cons a as ih =>
    have he : each step (as ++ bs) = fun r => (each step as r).andThen (each step bs) := funext ih
    rw [List.cons_append, each, each, he, andThen_assoc]

/-- Steps over lists, one list for every element, are the steps over all of them. -/
theorem each_flatMap (step : β → Recorders → Run) (f : α → List β) (as : List α) (r : Recorders) :
    each step (as.flatMap f) r = each (fun a => each step (f a)) as r := by
  induction as generalizing r with
  | nil => rfl
  | cons a as ih =>
    have he : each step (as.flatMap f) = each (fun a => each step (f a)) as := funext ih
    rw [List.flatMap_cons, each_append, he, each]

theorem each_filterMap (step : β → Recorders → Run) (f : α → Option β) (as : List α)
    (r : Recorders) :
    each step (as.filterMap f) r =
      each (fun a r => (f a).elim (having .none r) (step · r)) as r := by
  induction as generalizing r with
  | nil => rfl
  | cons a as ih =>
    have he : each step (as.filterMap f) =
        each (fun a r => (f a).elim (having .none r) (step · r)) as := funext ih
    cases ha : f a with
    | none => simp [each, ha, ih]
    | some b => simp [each, ha, he]

def uncounted (run : Run) : Run := { run with effect := run.effect.uncounted }

theorem uncounted_andThen (run : Run) (next : Recorders → Run) :
    (run.andThen next).uncounted = run.uncounted.andThen fun r => (next r).uncounted := by
  obtain ⟨effect, r, violation⟩ := run
  cases violation with
  | some e => rfl
  | none => simp [andThen, uncounted, Effect.uncounted_append]

theorem uncounted_each (step : α → Recorders → Run) (as : List α) (r : Recorders) :
    (each step as r).uncounted = each (fun a r => (step a r).uncounted) as r := by
  induction as generalizing r with
  | nil => rfl
  | cons a as ih =>
    have he : (fun r => (each step as r).uncounted) = each (fun a r => (step a r).uncounted) as :=
      funext ih
    rw [each, each, uncounted_andThen, he]

def result (run : Run) : Except RecorderError (List Emission) :=
  match run.violation with
  | none => .ok run.effect.emissions
  | some violation => .error violation

theorem result_uncounted (run : Run) : run.uncounted.result = run.result := rfl

theorem result_having_andThen (effect : Effect) (r : Recorders) (next : Recorders → Run) :
    ((having effect r).andThen next).result = (next r).result.map (effect.emissions ++ ·) := by
  simp only [having, andThen, result]
  cases (next r).violation <;> rfl

end Run
end BeanMetrics
