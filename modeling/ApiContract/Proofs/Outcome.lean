import ApiContract.Trace
/-!
# Outcomes of traced computations

A computation in several steps succeeds exactly if each step does, and fails with the fault of the
first step that fails. The lemmas here take a computation apart along `>>=`, so that later proofs
never open the monad:

* `result_bind_eq_ok` : what a success of two steps consists of.
* `result_bind_eq_error` : where a fault of two steps comes from.

`Meets` states what a computation gives and which faults it can stop with at once, so that each step
needs one specification; `Meets.bind` joins the specifications of two steps.
-/

namespace ApiContract

theorem exists_eq_ok_of_toBool {α ε : Type} {r : Except ε α} (h : r.toBool = true) :
    ∃ a, r = .ok a := by
  cases r with
  | error e => cases h
  | ok a => exact ⟨a, rfl⟩

theorem exceptMap_eq_ok {α β ε : Type} {r : Except ε α} {f : α → β} {b : β} :
    r.map f = .ok b ↔ ∃ a, r = .ok a ∧ f a = b := by
  cases r with
  | error e => simp [Except.map]
  | ok a => simp [Except.map]

theorem exceptMap_eq_error {α β ε : Type} {r : Except ε α} {f : α → β} {e : ε} :
    r.map f = .error e ↔ r = .error e := by
  cases r with
  | error e' => simp [Except.map]
  | ok a => simp [Except.map]

theorem exceptBind_eq_ok {α β ε : Type} {r : Except ε α} {f : α → Except ε β} {b : β} :
    r.bind f = .ok b ↔ ∃ a, r = .ok a ∧ f a = .ok b := by
  cases r with
  | error e => simp [Except.bind]
  | ok a => simp [Except.bind]

theorem exceptBind_eq_error {α β ε : Type} {r : Except ε α} {f : α → Except ε β} {e : ε} :
    r.bind f = .error e ↔ r = .error e ∨ ∃ a, r = .ok a ∧ f a = .error e := by
  cases r with
  | error e' => simp [Except.bind]
  | ok a => simp [Except.bind]

namespace Traced

variable {α β : Type}

theorem result_bind_eq_ok {x : Traced α} {f : α → Traced β} {b : β} :
    (x >>= f).result = .ok b ↔ ∃ a, x.result = .ok a ∧ (f a).result = .ok b := by
  rw [result_bind, exceptBind_eq_ok]

theorem result_bind_eq_error {x : Traced α} {f : α → Traced β} {fault : Fault} :
    (x >>= f).result = .error fault ↔
      x.result = .error fault ∨ ∃ a, x.result = .ok a ∧ (f a).result = .error fault := by
  rw [result_bind, exceptBind_eq_error]

theorem result_pure_eq_ok {a b : α} : (pure a : Traced α).result = .ok b ↔ b = a := by
  rw [result_pure, Except.ok.injEq, eq_comm]

/-- A step that succeeds can be replaced by its value. -/
theorem result_bind_of_ok {x : Traced α} {a : α} (h : x.result = .ok a) (f : α → Traced β) :
    (x >>= f).result = (f a).result := by
  rw [result_bind, h]
  rfl

theorem result_bind_of_error {x : Traced α} {fault : Fault} (h : x.result = .error fault)
    (f : α → Traced β) : (x >>= f).result = .error fault := by
  rw [result_bind, h]
  rfl

theorem result_mapFault_eq_ok {g : Fault → Fault} {x : Traced α} {a : α} :
    (x.mapFault g).result = .ok a ↔ x.result = .ok a := by
  rw [result_mapFault]
  cases x.result with
  | error fault =>
    show (Except.error (g fault) : Except Fault α) = .ok a ↔ (Except.error fault) = .ok a
    simp
  | ok b => exact Iff.rfl

/-- Reporting an event changes no outcome. -/
theorem result_report_bind (e : Event) (f : Unit → Traced β) :
    (report e >>= f).result = (f ()).result := result_bind_of_ok (result_report e) f

/-! ## Specifications -/

/-- The value of a computation satisfies `post`, or the fault that it stops with satisfies
`refusal`. -/
def Meets (x : Traced α) (post : α → Prop) (refusal : Fault → Prop) : Prop :=
  match x.result with
  | .ok a => post a
  | .error fault => refusal fault

namespace Meets

variable {x : Traced α} {post : α → Prop} {post' : β → Prop} {refusal : Fault → Prop}

theorem of_ok (h : x.Meets post refusal) {a : α} (hr : x.result = .ok a) : post a := by
  rw [Meets, hr] at h
  exact h

theorem of_error (h : x.Meets post refusal) {fault : Fault} (hr : x.result = .error fault) :
    refusal fault := by
  rw [Meets, hr] at h
  exact h

theorem intro (hok : ∀ a, x.result = .ok a → post a)
    (herror : ∀ fault, x.result = .error fault → refusal fault) : x.Meets post refusal := by
  rw [Meets]
  cases hr : x.result with
  | ok a => exact hok a hr
  | error fault => exact herror fault hr

theorem pure {a : α} (h : post a) : Meets (Pure.pure a) post refusal := h

theorem fail {fault : Fault} (h : refusal fault) : Meets (Traced.fail fault) post refusal := h

theorem mono {weaker : α → Prop} (h : x.Meets post refusal) (hw : ∀ a, post a → weaker a) :
    x.Meets weaker refusal :=
  intro (fun a ha => hw a (h.of_ok ha)) fun _ hf => h.of_error hf

/-- Two steps meet what the second meets after whatever the first can give. -/
theorem bind (h : x.Meets post refusal) {f : α → Traced β}
    (hf : ∀ a, post a → (f a).Meets post' refusal) : (x >>= f).Meets post' refusal := by
  refine intro (fun b hb => ?_) fun fault hfault => ?_
  · obtain ⟨a, ha, hfa⟩ := result_bind_eq_ok.1 hb
    exact (hf a (h.of_ok ha)).of_ok hfa
  · rcases result_bind_eq_error.1 hfault with hx | ⟨a, ha, hfa⟩
    · exact h.of_error hx
    · exact (hf a (h.of_ok ha)).of_error hfa

theorem report_bind (e : Event) {f : Unit → Traced β} (h : (f ()).Meets post' refusal) :
    (report e >>= f).Meets post' refusal := by
  have hreport : (report e).Meets (fun _ => True) refusal := trivial
  exact hreport.bind fun _ _ => h

theorem mapFault {g : Fault → Fault} (h : x.Meets post refusal)
    (hg : ∀ fault, refusal fault → refusal (g fault)) : (x.mapFault g).Meets post refusal := by
  refine intro (fun a ha => h.of_ok (result_mapFault_eq_ok.1 ha)) fun fault hfault => ?_
  rw [result_mapFault] at hfault
  cases hr : x.result with
  | ok a =>
    rw [hr] at hfault
    cases hfault
  | error inner =>
    rw [hr] at hfault
    exact Except.error.inj hfault ▸ hg inner (h.of_error hr)

end Meets

end Traced

/-! ## Kinds of faults -/

/-- A fault of a declaration other than that of a superclass. -/
def Fault.IsOtherConfiguration (fault : Fault) : Prop :=
  ∃ problem, fault = .configuration problem ∧ ∀ b start, problem ≠ .superclassCycle b start

end ApiContract
