import AppConfig.Yaml.Cursor

/-!
# AppConfig.Proofs.Yaml.Keeps

Scanner, grammar and tree builder all run on a state and may fail. What they do to their state, and
how they fail, is followed by rules with one case for each way to put steps together.

* `Keeps I E m Q` — from a state of `I`, `m` comes to a state of `I` again; its result is one of
  `Q`, and if it fails, the failure is one of `E`. The state is one of `I` even then, because what
  has been read before a failure is still used.
* `Leads P I E m Q` — the same, but `m` starts in a state of `P`.
-/

namespace AppConfig.Yaml

variable {ε σ α β : Type} {I : σ → Prop} {E : ε → Prop} {Q : α → Prop} {R : β → Prop}

def Kept (I : σ → Prop) (E : ε → Prop) (Q : α → Prop) : EStateM.Result ε σ α → Prop
  | .ok a s => I s ∧ Q a
  | .error e s => I s ∧ E e

/-- From a state of `P`, `m` comes to one of `I`. -/
def Leads (P I : σ → Prop) (E : ε → Prop) (m : EStateM ε σ α) (Q : α → Prop) : Prop :=
  ∀ s, P s → Kept I E Q (m s)

abbrev Keeps (I : σ → Prop) (E : ε → Prop) (m : EStateM ε σ α) (Q : α → Prop) : Prop :=
  Leads I I E m Q

/-- Nothing is said about the result. -/
def Any (_ : α) : Prop := True

section Bind

variable {m : EStateM ε σ α} {f : α → EStateM ε σ β} {s s' : σ}

theorem bind_ok {a : α} (h : m s = .ok a s') : (m >>= f) s = f a s' := by
  show EStateM.bind m f s = f a s'
  rw [EStateM.bind, h]

theorem bind_error {e : ε} (h : m s = .error e s') : (m >>= f) s = .error e s' := by
  show EStateM.bind m f s = .error e s'
  rw [EStateM.bind, h]

theorem Leads.bind {P : σ → Prop} (hm : Leads P I E m Q) (hf : ∀ a, Q a → Keeps I E (f a) R) :
    Leads P I E (m >>= f) R := by
  intro s hs
  have hkept := hm s hs
  cases hr : m s with
  | ok a s' =>
    rw [hr] at hkept
    rw [bind_ok hr]
    exact hf a hkept.2 s' hkept.1
  | error e s' =>
    rw [hr] at hkept
    rw [bind_error hr]
    exact hkept

/-- Whoever reads the state knows what the state is known to be. -/
theorem Leads.get_bind {P : σ → Prop} {f : σ → EStateM ε σ β}
    (hf : ∀ s, P s → Leads P I E (f s) R) : Leads P I E (get >>= f) R :=
  fun s hs => hf s hs s hs

theorem Leads.ite {P : σ → Prop} {c : Prop} [Decidable c] {m m' : EStateM ε σ α}
    (h : Leads P I E m Q) (h' : Leads P I E m' Q) : Leads P I E (if c then m else m') Q := by
  split
  · exact h
  · exact h'

end Bind

namespace Keeps

variable {m : EStateM ε σ α} {f : α → EStateM ε σ β}

theorem pure {a : α} (h : Q a) : Keeps I E (pure a) Q := fun _ hs => ⟨hs, h⟩

theorem throw {e : ε} (h : E e) : Keeps I E (throw e : EStateM ε σ α) Q := fun _ hs => ⟨hs, h⟩

theorem get : Keeps I E (get : EStateM ε σ σ) I := fun _ hs => ⟨hs, hs⟩

theorem set {s : σ} (h : I s) : Keeps I E (set s : EStateM ε σ PUnit) Any := fun _ _ => ⟨h, trivial⟩

theorem modify {g : σ → σ} (h : ∀ s, I s → I (g s)) :
    Keeps I E (modify g : EStateM ε σ PUnit) Any := fun s hs => ⟨h s hs, trivial⟩

theorem bind (hm : Keeps I E m Q) (hf : ∀ a, Q a → Keeps I E (f a) R) :
    Keeps I E (m >>= f) R := Leads.bind hm hf

theorem pure_bind {a : α} (h : Keeps I E (f a) R) : Keeps I E (Pure.pure a >>= f) R :=
  fun s hs => h s hs

/-- Nothing happens behind a failure. -/
theorem throw_bind {e : ε} (h : E e) : Keeps I E ((MonadExcept.throw e : EStateM ε σ α) >>= f) R :=
  fun _ hs => ⟨hs, h⟩

theorem discard (hm : Keeps I E m Q) : Keeps I E (discard m) Any :=
  .bind hm fun _ _ => .pure trivial

theorem ite {c : Prop} [Decidable c] {m m' : EStateM ε σ α} (h : Keeps I E m Q)
    (h' : Keeps I E m' Q) : Keeps I E (if c then m else m') Q := Leads.ite h h'

/-- A step that is taken on a condition only, in front of the rest. -/
theorem when {c : Prop} [Decidable c] {m : EStateM ε σ PUnit} {rest : PUnit → EStateM ε σ α}
    (hm : Keeps I E m Any) (hrest : ∀ u, Keeps I E (rest u) Q) :
    Keeps I E (if c then m >>= rest else rest ⟨⟩) Q :=
  .ite (.bind hm fun u _ => hrest u) (hrest ⟨⟩)

theorem whenNot {c : Prop} [Decidable c] {m : EStateM ε σ PUnit} {rest : PUnit → EStateM ε σ α}
    (hm : Keeps I E m Any) (hrest : ∀ u, Keeps I E (rest u) Q) :
    Keeps I E (if c then rest ⟨⟩ else m >>= rest) Q :=
  .ite (hrest ⟨⟩) (.bind hm fun u _ => hrest u)

/-- A loop keeps what one round of it keeps. -/
theorem forIn_list {γ : Type} {xs : List γ} {b : β} {body : γ → β → EStateM ε σ (ForInStep β)}
    (hb : R b) (h : ∀ x b, R b → Keeps I E (body x b) (R ·.value)) :
    Keeps I E (forIn xs b body) R := by
  induction xs generalizing b with
  | nil => exact .pure hb
  | cons x xs ih =>
    rw [List.forIn_cons]
    refine .bind (h x b hb) fun r hr => ?_
    cases r with
    | done b' => exact .pure hr
    | yield b' => exact ih hr

theorem forIn_range {n : Nat} {b : β} {body : Nat → β → EStateM ε σ (ForInStep β)}
    (hb : R b) (h : ∀ i b, R b → Keeps I E (body i b) (R ·.value)) :
    Keeps I E (forIn [0:n] b body) R := by
  rw [Std.Legacy.Range.forIn_eq_forIn_range']
  exact .forIn_list hb h

/-- A loop whose rounds hand on nothing that matters. -/
theorem loop {n : Nat} {b : β} {body : Nat → β → EStateM ε σ (ForInStep β)}
    (h : ∀ i b, Keeps I E (body i b) Any) : Keeps I E (forIn [0:n] b body) Any :=
  .forIn_range trivial fun i b _ => h i b

end Keeps

end AppConfig.Yaml
