import MediaServer.Foundation.Frame
import Mathlib.Data.List.Basic

/-!
# Fallible computations on a state

A method that takes `&mut self` and returns a `Result` leaves its state changed also
when it fails: what it wrote before the failing line stays written.  `Fallible ε σ α`
is that kind of computation, a state transformer around an exception.

`Within frame m` says that `m` only ever moves within a frame, whether it fails or not.
The rules below carry a frame through sequencing, branching, loops and computations
on a part of the state, so that a frame of a long method is proved line by line.
-/

namespace Foundation

/-- `?` on a result: both parts succeed. -/
theorem except_bind_eq_ok_iff {ε α β : Type} {m : Except ε α} {f : α → Except ε β} {value : β} :
    m >>= f = .ok value ↔ ∃ first, m = .ok first ∧ f first = .ok value := by
  cases m with
  | error error => simp [bind, Except.bind]
  | ok first => simp [bind, Except.bind]

/-- A computation on a state `σ` that may fail with an `ε`. -/
abbrev Fallible (ε σ : Type) := ExceptT ε (StateM σ)

namespace Fallible

variable {ε σ τ α β : Type}

/-- The result of a computation and the state it leaves. -/
def outcome (m : Fallible ε σ α) (state : σ) : Except ε α × σ := m.run.run state

/-- The state a computation leaves. -/
def after (m : Fallible ε σ α) (state : σ) : σ := (m.outcome state).2

/-- The result of a computation. -/
def result (m : Fallible ε σ α) (state : σ) : Except ε α := (m.outcome state).1

/-- `option.ok_or(error)?` -/
def okOr (option : Option α) (error : ε) : Fallible ε σ α :=
  match option with
  | some value => pure value
  | none => throw error

/-- `result?` -/
def ofExcept : Except ε α → Fallible ε σ α
  | .ok value => pure value
  | .error error => throw error

/-- A computation on a part of the state. -/
def onPart (part : σ → τ) (put : τ → σ → σ) (m : Fallible ε τ α) : Fallible ε σ α := do
  let state ← get
  set (put (m.after (part state)) state)
  ofExcept (m.result (part state))

theorem outcome_eq (m : Fallible ε σ α) (state : σ) :
    m.outcome state = (m.result state, m.after state) := rfl

@[simp] theorem outcome_pure (value : α) (state : σ) :
    (pure value : Fallible ε σ α).outcome state = (.ok value, state) := rfl

@[simp] theorem outcome_throw (error : ε) (state : σ) :
    (throw error : Fallible ε σ α).outcome state = (.error error, state) := rfl

@[simp] theorem outcome_get (state : σ) :
    (get : Fallible ε σ σ).outcome state = (.ok state, state) := rfl

@[simp] theorem outcome_set (next state : σ) :
    (set next : Fallible ε σ PUnit).outcome state = (.ok ⟨⟩, next) := rfl

@[simp] theorem outcome_modify (f : σ → σ) (state : σ) :
    (modify f : Fallible ε σ PUnit).outcome state = (.ok ⟨⟩, f state) := rfl

theorem outcome_bind (m : Fallible ε σ α) (f : α → Fallible ε σ β) (state : σ) :
    (m >>= f).outcome state =
      match m.outcome state with
      | (.ok value, next) => (f value).outcome next
      | (.error error, next) => (.error error, next) := by
  show (m.run.run state >>= fun answer : Except ε α × σ =>
    (ExceptT.bindCont f answer.1).run answer.2) = _
  unfold outcome
  rcases m.run.run state with ⟨value | error, next⟩ <;> rfl

/-- A computation that succeeds hands over to the next one. -/
theorem outcome_bind_ok {m : Fallible ε σ α} {state next : σ} {value : α}
    (hm : m.outcome state = (.ok value, next)) (f : α → Fallible ε σ β) :
    (m >>= f).outcome state = (f value).outcome next := by
  rw [outcome_bind, hm]

@[simp] theorem outcome_okOr_some (value : α) (error : ε) (state : σ) :
    (okOr (some value) error).outcome state = (.ok value, state) := rfl

@[simp] theorem outcome_okOr_none (error : ε) (state : σ) :
    (okOr (none : Option α) error).outcome state = (.error error, state) := rfl

@[simp] theorem outcome_ofExcept (answer : Except ε α) (state : σ) :
    (ofExcept answer : Fallible ε σ α).outcome state = (answer, state) := by
  cases answer <;> rfl

/-- A computation on a part changes the part and passes its result on. -/
@[simp] theorem outcome_onPart (part : σ → τ) (put : τ → σ → σ) (m : Fallible ε τ α)
    (state : σ) :
    (onPart part put m).outcome state =
      (m.result (part state), put (m.after (part state)) state) := by
  simp only [onPart, outcome_bind, outcome_get, outcome_set, outcome_ofExcept]

@[simp] theorem after_pure (value : α) (state : σ) :
    (pure value : Fallible ε σ α).after state = state := rfl

@[simp] theorem after_get_bind (f : σ → Fallible ε σ α) (state : σ) :
    ((get : Fallible ε σ σ) >>= f).after state = (f state).after state := rfl

@[simp] theorem after_okOr_bind (value : α) (error : ε) (f : α → Fallible ε σ β) (state : σ) :
    (okOr (some value) error >>= f).after state = (f value).after state := rfl

@[simp] theorem after_ofExcept_bind (value : α) (f : α → Fallible ε σ β) (state : σ) :
    (ofExcept (.ok value) >>= f).after state = (f value).after state := rfl

/-- What only computes a result leaves the state as it finds it. -/
theorem after_bind_of_stays {m : Fallible ε σ α} {f : α → Fallible ε σ β}
    (hf : ∀ value next, (f value).after next = next) (state : σ) :
    (m >>= f).after state = m.after state := by
  unfold after
  rw [outcome_bind]
  rcases m.outcome state with ⟨error | value, next⟩
  · rfl
  · exact hf value next

/-- A sequence succeeds when all of it does. -/
theorem bind_eq_ok_iff {m : Fallible ε σ α} {f : α → Fallible ε σ β} {state final : σ}
    {value : β} :
    (m >>= f).outcome state = (.ok value, final) ↔
      ∃ first next, m.outcome state = (.ok first, next) ∧
        (f first).outcome next = (.ok value, final) := by
  rw [outcome_bind]
  rcases hm : m.outcome state with ⟨error | first, next⟩
  · simp
  · constructor
    · intro hf
      exact ⟨first, next, rfl, hf⟩
    · rintro ⟨first', next', hfirst, hf⟩
      obtain ⟨hvalue, rfl⟩ := Prod.mk.inj hfirst
      obtain rfl := Except.ok.inj hvalue
      exact hf

/-- A computation moves within a frame, whether it fails or not. -/
def Within (frame : Frame σ) (m : Fallible ε σ α) : Prop :=
  ∀ state, frame.rel state (m.after state)

namespace Within

variable {frame : Frame σ}

theorem pure (value : α) : Within frame (Pure.pure value : Fallible ε σ α) := frame.refl

theorem throw (error : ε) : Within frame (throw error : Fallible ε σ α) := frame.refl

theorem get : Within frame (get : Fallible ε σ σ) := frame.refl

theorem okOr (option : Option α) (error : ε) :
    Within frame (okOr option error : Fallible ε σ α) := by
  cases option with
  | none => exact throw error
  | some value => exact pure value

theorem ofExcept (answer : Except ε α) : Within frame (ofExcept answer : Fallible ε σ α) := by
  cases answer with
  | error error => exact throw error
  | ok value => exact pure value

theorem modify {f : σ → σ} (hf : ∀ state, frame.rel state (f state)) :
    Within frame (modify f : Fallible ε σ PUnit) := hf

/-- What follows a call that succeeded may use its result. -/
theorem ofExcept_bind {answer : Except ε α} {f : α → Fallible ε σ β}
    (hf : ∀ value, answer = .ok value → Within frame (f value)) :
    Within frame (Fallible.ofExcept answer >>= f) := by
  cases answer with
  | error error => exact throw error
  | ok value => exact hf value rfl

/-- What follows a look at the state may use that it is the state. -/
theorem get_bind {f : σ → Fallible ε σ β}
    (hf : ∀ state, frame.rel state ((f state).after state)) :
    Within frame ((MonadState.get : Fallible ε σ σ) >>= f) := hf

theorem mono {m : Fallible ε σ α} {wider : Frame σ} (hm : Within frame m)
    (hwider : ∀ before after, frame.rel before after → wider.rel before after) :
    Within wider m := fun state => hwider state _ (hm state)

/-- What follows a call may use that the call stayed in the frame. -/
theorem rel_bind {m : Fallible ε σ α} {f : α → Fallible ε σ β} {state : σ}
    (hm : frame.rel state (m.after state))
    (hf : ∀ value next, frame.rel state next → frame.rel next ((f value).after next)) :
    frame.rel state ((m >>= f).after state) := by
  show frame.rel state ((m >>= f).outcome state).2
  rw [outcome_bind]
  have hfirst : frame.rel state (m.outcome state).2 := hm
  cases houtcome : m.outcome state with
  | mk answer next =>
      rw [houtcome] at hfirst
      cases answer with
      | error error => exact hfirst
      | ok value => exact frame.trans hfirst (hf value next hfirst)

theorem bind {m : Fallible ε σ α} {f : α → Fallible ε σ β} (hm : Within frame m)
    (hf : ∀ value, Within frame (f value)) : Within frame (m >>= f) :=
  fun state => rel_bind (hm state) fun value next _ => hf value next

theorem ite {condition : Prop} [Decidable condition] {m n : Fallible ε σ α}
    (hm : condition → Within frame m) (hn : ¬condition → Within frame n) :
    Within frame (if condition then m else n) := by
  split
  · exact hm ‹_›
  · exact hn ‹_›

/-- A loop moves within a frame when its body does for the items at hand. -/
theorem forM_mem {body : α → Fallible ε σ PUnit} {items : List α}
    (hbody : ∀ item ∈ items, Within frame (body item)) : Within frame (items.forM body) := by
  induction items with
  | nil => exact pure _
  | cons item items ih =>
      obtain ⟨hfirst, hrest⟩ := List.forall_mem_cons.mp hbody
      exact bind hfirst fun _ => ih hrest

/-- A loop moves within a frame when its body does. -/
theorem forM {body : α → Fallible ε σ PUnit} (hbody : ∀ item, Within frame (body item))
    (items : List α) : Within frame (items.forM body) :=
  forM_mem fun item _ => hbody item

/-- A computation on a part moves within a frame that the frame of the part implies. -/
theorem onPart {part : σ → τ} {put : τ → σ → σ} {m : Fallible ε τ α} {inner : Frame τ}
    (hm : Within inner m)
    (hput : ∀ state next, inner.rel (part state) next → frame.rel state (put next state)) :
    Within frame (onPart part put m) := by
  intro state
  show frame.rel state ((Fallible.onPart part put m).outcome state).2
  rw [outcome_onPart]
  exact hput state _ (hm (part state))

end Within

/-- What a computation returns, when it succeeds, has a property. -/
def Returns (P : α → Prop) (m : Fallible ε σ α) : Prop :=
  ∀ state value, m.result state = .ok value → P value

namespace Returns

variable {P : α → Prop} {Q : β → Prop}

theorem pure {value : α} (hvalue : P value) :
    Returns P (Pure.pure value : Fallible ε σ α) := by
  intro state returned hreturned
  obtain rfl := Except.ok.inj hreturned
  exact hvalue

theorem throw (error : ε) : Returns P (throw error : Fallible ε σ α) := by
  intro state returned hreturned
  contradiction

/-- What a sequence returns is what its end returns. -/
theorem bind_of {m : Fallible ε σ α} {f : α → Fallible ε σ β} (hm : Returns P m)
    (hf : ∀ value, P value → Returns Q (f value)) : Returns Q (m >>= f) := by
  intro state returned hreturned
  have houtcome : (m >>= f).outcome state = (.ok returned, (m >>= f).after state) := by
    rw [outcome_eq, hreturned]
  obtain ⟨value, next, hfirst, hrest⟩ := bind_eq_ok_iff.mp houtcome
  apply hf value (hm state value (congrArg Prod.fst hfirst)) next
  exact congrArg Prod.fst hrest

theorem bind {m : Fallible ε σ α} {f : α → Fallible ε σ β} (hf : ∀ value, Returns Q (f value)) :
    Returns Q (m >>= f) :=
  bind_of (fun _ _ _ => trivial) fun value (_ : True) => hf value

theorem okOr {option : Option α} (error : ε) (hP : ∀ value, option = some value → P value) :
    Returns P (okOr option error : Fallible ε σ α) := by
  cases option with
  | none => exact throw error
  | some value => exact pure (hP value rfl)

theorem ofExcept {answer : Except ε α} (hP : ∀ value, answer = .ok value → P value) :
    Returns P (ofExcept answer : Fallible ε σ α) := by
  cases answer with
  | error error => exact throw error
  | ok value => exact pure (hP value rfl)

theorem ite {condition : Prop} [Decidable condition] {m n : Fallible ε σ α}
    (hm : Returns P m) (hn : Returns P n) : Returns P (if condition then m else n) := by
  split
  · exact hm
  · exact hn

/-- A computation on a part returns what it returns. -/
theorem onPart {part : σ → τ} {put : τ → σ → σ} {m : Fallible ε τ α} (hm : Returns P m) :
    Returns P (Fallible.onPart part put m) := by
  intro state value hvalue
  have hresult : (Fallible.onPart part put m).result state = m.result (part state) := by
    show (Fallible.outcome _ state).1 = _
    rw [outcome_onPart]
  exact hm (part state) value (hresult.symm.trans hvalue)

end Returns
end Fallible
end Foundation
