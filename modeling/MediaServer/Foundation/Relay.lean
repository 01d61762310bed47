import Mathlib.Data.List.Forall2
import MediaServer.Foundation.Fifo

/-!
# Relays

A relay is a stage of a pipeline that is polled from outside.  It polls the stage behind it
once, queues what becomes of the element it gets, and hands out the head of its queue.  So
every poll takes one element out of every stage that has one.

Two facts about relays in a row are proved here.  Elements that every stage passes on as
they are neither get lost nor overtake each other (`Carries`), and a row of relays behind
which nothing more comes is empty after finitely many polls (`eventually_drained`, used for
one stage after the other from the inside).  What a stage changes or loses on the way is
followed with `List.SublistForall₂`.
-/

namespace Foundation
namespace Fifo

variable {α : Type*}

/-- Hand out the head, if there is one. -/
def popFront (queue : Fifo α) : Option α × Fifo α :=
  match queue.pop with
  | none => (none, queue)
  | some (element, rest) => (some element, rest)

/-- Queue what was produced and hand out the head. -/
def relay (queue : Fifo α) (produced : List α) : Option α × Fifo α :=
  (queue.pushAll produced).popFront

variable (queue : Fifo α) (produced : List α)

theorem popFront_eq :
    queue.popFront =
      (queue.waiting.head?, ⟨queue.taken ++ queue.waiting.head?.toList, queue.waiting.tail⟩) := by
  obtain ⟨taken, waiting⟩ := queue
  cases waiting with
  | nil => simp [popFront, pop]
  | cons head tail => simp [popFront, pop]

theorem relay_fst : (queue.relay produced).1 = (queue.waiting ++ produced).head? := by
  rw [relay, popFront_eq, waiting_pushAll]

theorem taken_relay :
    (queue.relay produced).2.taken = queue.taken ++ (queue.relay produced).1.toList := by
  simp only [relay, popFront_eq, taken_pushAll]

theorem waiting_relay :
    (queue.relay produced).2.waiting = (queue.waiting ++ produced).tail := by
  simp only [relay, popFront_eq, waiting_pushAll]

theorem history_relay : (queue.relay produced).2.history = queue.history ++ produced := by
  have hsplit : ∀ sent : List α, sent.head?.toList ++ sent.tail = sent := by
    intro sent
    cases sent <;> rfl
  rw [history, taken_relay, waiting_relay, relay_fst, history, List.append_assoc, hsplit,
    List.append_assoc]

/-- A relay has nothing to hand out when it gets nothing and nothing waits. -/
theorem relay_eq_none_iff :
    (queue.relay produced).1 = none ↔ queue.waiting = [] ∧ produced = [] := by
  rw [relay_fst, List.head?_eq_none_iff, List.append_eq_nil_iff]

/-! ## Two relays in a row -/

/-- Of the elements that are kept, the outer queue was sent what the inner one handed out. -/
def Carries (keep : α → Bool) (outer inner : Fifo α) : Prop :=
  outer.history.filter keep = inner.taken.filter keep

section Carries

variable {keep : α → Bool} {outer inner : Fifo α}

/-- A poll that passes on what is kept of the element that came. -/
theorem Carries.relay (hcarries : Carries keep outer inner) {came produced : List α}
    (hproduced : produced.filter keep = (inner.relay came).1.toList.filter keep) :
    Carries keep (outer.relay produced).2 (inner.relay came).2 := by
  rw [Carries, history_relay, taken_relay, List.filter_append, List.filter_append, hcarries,
    hproduced]

/-- What is kept of fewer elements is kept of all. -/
theorem filter_filter_of_imp {fewer : α → Bool}
    (hfewer : ∀ element, fewer element = true → keep element = true) (elements : List α) :
    (elements.filter keep).filter fewer = elements.filter fewer := by
  rw [List.filter_filter]
  apply List.filter_congr
  intro element _
  cases hkept : fewer element with
  | false => rfl
  | true => rw [hfewer element hkept]; rfl

/-- Fewer elements are kept. -/
theorem Carries.mono {fewer : α → Bool} (hcarries : Carries keep outer inner)
    (hfewer : ∀ element, fewer element = true → keep element = true) :
    Carries fewer outer inner := by
  rw [Carries, ← filter_filter_of_imp hfewer, hcarries, filter_filter_of_imp hfewer]

/-- What the inner queue was sent is what the outer one was sent, and what waits. -/
theorem Carries.history_filter (hcarries : Carries keep outer inner) :
    inner.history.filter keep = outer.history.filter keep ++ inner.waiting.filter keep := by
  rw [hcarries, history, List.filter_append]

end Carries

/-! ## Stages that change what they pass on

A stage that changes elements and loses some of them sends a list that is related, element by
element and in order, to some of what it got. -/

section Changed

variable {β : Type*} {R : α → β → Prop}

theorem sublistForall₂_imp {S : α → β → Prop} {first : List α} {second : List β}
    (hrelated : List.SublistForall₂ R first second) (himp : ∀ a, ∀ b ∈ second, R a b → S a b) :
    List.SublistForall₂ S first second := by
  induction hrelated with
  | nil => exact .nil
  | cons hR _ ih =>
      refine .cons (himp _ _ List.mem_cons_self hR) (ih ?_)
      exact fun a b hmem => himp a b (List.mem_cons_of_mem _ hmem)
  | cons_right _ ih =>
      refine .cons_right (ih ?_)
      exact fun a b hmem => himp a b (List.mem_cons_of_mem _ hmem)

theorem sublistForall₂_append {first others : List α} {second further : List β}
    (hfirst : List.SublistForall₂ R first second)
    (hsecond : List.SublistForall₂ R others further) :
    List.SublistForall₂ R (first ++ others) (second ++ further) := by
  obtain ⟨chosen, hrelated, hchosen⟩ := List.sublistForall₂_iff.mp hfirst
  obtain ⟨rest, hrest, hfurther⟩ := List.sublistForall₂_iff.mp hsecond
  exact List.sublistForall₂_iff.mpr
    ⟨chosen ++ rest, List.rel_append hrelated hrest, hchosen.append hfurther⟩

end Changed

/-! ## Draining -/

/-- A queue that is polled again and again, and to which nothing comes from some moment on, is
empty from some moment on. -/
theorem eventually_drained (queues : ℕ → Fifo α) (produced : ℕ → List α)
    (hpoll : ∀ n, queues (n + 1) = ((queues n).relay (produced n)).2) {quiet : ℕ}
    (hquiet : ∀ n, quiet ≤ n → produced n = []) :
    ∃ drained, quiet ≤ drained ∧ ∀ n, drained ≤ n → (queues n).waiting = [] := by
  have hdrop : ∀ k, (queues (quiet + k)).waiting = (queues quiet).waiting.drop k := by
    intro k
    induction k with
    | zero => simp
    | succ k ih =>
        rw [← Nat.add_assoc, hpoll, waiting_relay, hquiet _ (Nat.le_add_right _ _),
          List.append_nil, ih, List.tail_drop]
  refine ⟨quiet + (queues quiet).waiting.length, Nat.le_add_right _ _, ?_⟩
  intro n hn
  obtain ⟨k, rfl⟩ := Nat.exists_eq_add_of_le (Nat.le_trans (Nat.le_add_right _ _) hn)
  rw [hdrop, List.drop_eq_nil_iff]
  omega

end Fifo
end Foundation
