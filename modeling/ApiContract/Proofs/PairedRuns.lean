import ApiContract.Proofs.Outcome
/-!
# Two computations side by side

Two runs that only differ in what they never look at end alike. `Paired r x y` says that two
computations stop with the same fault, or that their values stand in the relation `r`; what they
report on the way may differ. There is one rule for each way in which a computation is put together,
so that two runs of one function are compared step by step.

* `Paired.bind`, `Paired.bind_same` : two steps on both sides.
* `Paired.report_bind_left`, `Paired.report_bind_right` : reports on one side only.
* `Paired.result_eq` : computations that are paired by equality have the same outcome.
-/

namespace ApiContract
namespace Traced

variable {α β γ δ : Type} {r : α → β → Prop} {q : γ → δ → Prop} {x : Traced α} {y : Traced β}

/-- Two computations stop with the same fault, or give values that are related. -/
def Paired (r : α → β → Prop) (x : Traced α) (y : Traced β) : Prop :=
  match x.result, y.result with
  | .ok a, .ok b => r a b
  | .error fault, .error fault' => fault = fault'
  | _, _ => False

namespace Paired

theorem of_ok {a : α} {b : β} (hx : x.result = .ok a) (hy : y.result = .ok b) (h : r a b) :
    Paired r x y := by
  rw [Paired, hx, hy]
  exact h

theorem of_error {fault : Fault} (hx : x.result = .error fault) (hy : y.result = .error fault) :
    Paired r x y := by
  rw [Paired, hx, hy]

/-- How two paired computations end. -/
theorem cases (h : Paired r x y) :
    (∃ a b, x.result = .ok a ∧ y.result = .ok b ∧ r a b) ∨
      ∃ fault, x.result = .error fault ∧ y.result = .error fault := by
  rw [Paired] at h
  cases hx : x.result with
  | ok a =>
    cases hy : y.result with
    | ok b =>
      rw [hx, hy] at h
      exact Or.inl ⟨a, b, rfl, rfl, h⟩
    | error fault =>
      rw [hx, hy] at h
      exact h.elim
  | error fault =>
    cases hy : y.result with
    | ok b =>
      rw [hx, hy] at h
      exact h.elim
    | error fault' =>
      rw [hx, hy] at h
      obtain rfl : fault = fault' := h
      exact Or.inr ⟨fault, rfl, rfl⟩

theorem flip (h : Paired r x y) : Paired (fun b a => r a b) y x := by
  rcases h.cases with ⟨a, b, hx, hy, hab⟩ | ⟨fault, hx, hy⟩
  · exact of_ok hy hx hab
  · exact of_error hy hx

/-- The second computation succeeds where the first one does. -/
theorem exists_of_ok (h : Paired r x y) {a : α} (hx : x.result = .ok a) :
    ∃ b, y.result = .ok b ∧ r a b := by
  rcases h.cases with ⟨a', b, hx', hy, hab⟩ | ⟨fault, hx', -⟩
  · obtain rfl : a = a' := Except.ok.inj (hx.symm.trans hx')
    exact ⟨b, hy, hab⟩
  · rw [hx] at hx'
    cases hx'

theorem of_result_eq {x y : Traced α} (h : x.result = y.result) : Paired Eq x y := by
  cases hx : x.result with
  | ok a => exact of_ok hx (h.symm.trans hx) rfl
  | error fault => exact of_error hx (h.symm.trans hx)

theorem refl (x : Traced α) : Paired Eq x x := of_result_eq rfl

/-- A computation gives the same value on both sides, and it is known where the value is from. -/
theorem self (x : Traced α) : Paired (fun a b => x.result = .ok a ∧ a = b) x x := by
  cases hx : x.result with
  | ok a => exact of_ok hx hx ⟨rfl, rfl⟩
  | error fault => exact of_error hx hx

theorem result_eq {x y : Traced α} (h : Paired Eq x y) : x.result = y.result := by
  rcases h.cases with ⟨a, b, hx, hy, rfl⟩ | ⟨fault, hx, hy⟩
  · rw [hx, hy]
  · rw [hx, hy]

theorem pure {a : α} {b : β} (h : r a b) : Paired r (Pure.pure a) (Pure.pure b) :=
  of_ok rfl rfl h

theorem fail (fault : Fault) : Paired r (Traced.fail fault) (Traced.fail fault) :=
  of_error rfl rfl

/-- Two steps are paired if the second ones are, after all values that the first ones can give. -/
theorem bind (h : Paired r x y) {f : α → Traced γ} {g : β → Traced δ}
    (hfg : ∀ a b, r a b → Paired q (f a) (g b)) : Paired q (x >>= f) (y >>= g) := by
  rcases h.cases with ⟨a, b, hx, hy, hab⟩ | ⟨fault, hx, hy⟩
  · have hnext := hfg a b hab
    rw [Paired, ← result_bind_of_ok hx f, ← result_bind_of_ok hy g] at hnext
    exact hnext
  · exact of_error (result_bind_of_error hx f) (result_bind_of_error hy g)

/-- After a first step with one outcome the second steps only have to be paired for its value. -/
theorem bind_same {x y : Traced α} (h : Paired Eq x y) {f : α → Traced γ} {g : α → Traced δ}
    (hfg : ∀ a, Paired q (f a) (g a)) : Paired q (x >>= f) (y >>= g) := by
  apply h.bind
  rintro a _ rfl
  exact hfg a

/-- A report on the left changes nothing. -/
theorem report_bind_left (e : Event) {f : Unit → Traced α} (h : Paired r (f ()) y) :
    Paired r (report e >>= f) y := by
  rw [Paired, result_report_bind]
  exact h

/-- A report on the right changes nothing. -/
theorem report_bind_right (e : Event) {g : Unit → Traced β} (h : Paired r x (g ())) :
    Paired r x (report e >>= g) := by
  rw [Paired, result_report_bind]
  exact h

/-- Both sides report something. -/
theorem report_bind (e e' : Event) {f : Unit → Traced α} {g : Unit → Traced β}
    (h : Paired r (f ()) (g ())) : Paired r (report e >>= f) (report e' >>= g) :=
  report_bind_left e (report_bind_right e' h)

theorem mapFault (g : Fault → Fault) (h : Paired r x y) :
    Paired r (x.mapFault g) (y.mapFault g) := by
  rcases h.cases with ⟨a, b, hx, hy, hab⟩ | ⟨fault, hx, hy⟩
  · exact of_ok (result_mapFault_eq_ok.2 hx) (result_mapFault_eq_ok.2 hy) hab
  · have hx' : (x.mapFault g).result = .error (g fault) := by
      rw [result_mapFault, hx]
      rfl
    have hy' : (y.mapFault g).result = .error (g fault) := by
      rw [result_mapFault, hy]
      rfl
    exact of_error hx' hy'

end Paired
end Traced
end ApiContract
