/-
  SerialNumbers.Proofs.Contention.Worker

  A worker in the middle of a batch.  All that a batch does with the store is
  the tries of its calls; between them a worker only keeps count of what it has
  heard.  Main statement: a batch that is made without interruption is a worker
  who hears the outcome of one try after another
  (`Worker.alone_of_addCalls`), so that the tries of several workers can be put
  into any order.
-/
import SerialNumbers.Contention.Batch
import SerialNumbers.Proofs.Store.Action

namespace SerialNumbers.Contention

structure Worker where
  /-- How many calls have still to be settled. -/
  left : Nat
  /-- How often the present call was tried again. -/
  tries : Nat
  batch : Batch
  /-- What the worker has stopped with. -/
  failure : Option Failure

namespace Worker

def start (calls : Nat) : Worker := ⟨calls, 0, .empty, none⟩

/-- The worker has a call to make. -/
def isBusy (w : Worker) : Bool :=
  0 < w.left && w.failure.isNone

/-- What a worker keeps of the outcome of a try.  A call is given up when it was tried as often
    as it may be, and the whole batch when another try would not help. -/
def hear (attempts : Int) (w : Worker) : Except Failure Issued → Worker
  | .ok issued =>
    { w with
      left := w.left - 1
      tries := 0
      batch := { w.batch with numbers := w.batch.numbers ++ [(issued.number, issued.counter)]
                              retries := w.batch.retries + w.tries } }
  | .error e =>
    if e.isRetryable then
      if w.tries < (attempts - 1).toNat then { w with tries := w.tries + 1 }
      else
        { w with
          left := w.left - 1
          tries := 0
          batch := { w.batch with retries := w.batch.retries + (attempts - 1)
                                  failures := w.batch.failures + 1 } }
    else { w with failure := some e }

/-! ## Working alone -/

/-- A worker comes from one state to another by trying calls as long as it has some, and by
    taking notes. -/
inductive Alone (call : StoreM Issued) (attempts : Int) :
    Worker → Store → Worker → Store → Prop where
  | done (w : Worker) (s : Store) : Alone call attempts w s w s
  | attempt {w w' : Worker} {s s' : Store} (hbusy : w.isBusy = true)
    (rest : Alone call attempts (w.hear attempts (call s).1) (call s).2 w' s') :
    Alone call attempts w s w' s'
  | note {w w' : Worker} {s s' : Store} (n : Note)
    (rest : Alone call attempts w { s with notes := n :: s.notes } w' s') :
    Alone call attempts w s w' s'

section

variable {call : StoreM Issued} {attempts : Int} {w w₁ w' : Worker} {s s₁ s' : Store}

theorem Alone.trans (h : Alone call attempts w s w₁ s₁) (h' : Alone call attempts w₁ s₁ w' s') :
    Alone call attempts w s w' s' := by
  induction h with
  | done => exact h'
  | attempt hbusy _ ih => exact .attempt hbusy (ih h')
  | note n _ ih => exact .note n (ih h')

/-- One call, up to its last try. -/
theorem alone_of_tryCall (call : StoreM Issued) (calls : Nat) {more tries : Nat}
    (hmore : more + tries = (attempts - 1).toNat) (b : Batch) (s : Store) : ∃ outcome last s',
    Batch.tryCall call more tries s = (.ok (outcome, last), s') ∧
      (∀ e, outcome = .error e → e.isRetryable = true → last = (attempts - 1).toNat) ∧
      Alone call attempts ⟨calls + 1, tries, b, none⟩ s
        (hear attempts ⟨calls + 1, last, b, none⟩ outcome) s' := by
  induction more generalizing tries s with
  | zero =>
    rw [Nat.zero_add] at hmore
    exact ⟨(call s).1, tries, (call s).2, rfl, fun _ _ _ => hmore, .attempt rfl (.done _ _)⟩
  | succ more ih =>
    have hone : Alone call attempts ⟨calls + 1, tries, b, none⟩ s
        (hear attempts ⟨calls + 1, tries, b, none⟩ (call s).1) (call s).2 :=
      .attempt rfl (.done _ _)
    have houtcome : StoreM.outcome call s = (.ok (call s).1, (call s).2) := rfl
    unfold Batch.tryCall
    rw [StoreM.bind_apply, houtcome]
    dsimp only
    cases hcall : (call s).1 with
    | ok issued =>
      rw [hcall] at hone
      exact ⟨_, _, _, rfl, nofun, hone⟩
    | error e =>
      rw [hcall] at hone
      dsimp only
      by_cases hretry : e.isRetryable = true
      · -- There is a try left, so the worker only counts this one.
        have hleft : tries < (attempts - 1).toNat := by omega
        have hrest : more + (tries + 1) = (attempts - 1).toNat := by omega
        have hheard : hear attempts ⟨calls + 1, tries, b, none⟩ (.error e) =
            ⟨calls + 1, tries + 1, b, none⟩ := by
          unfold hear
          dsimp only
          rw [if_pos hretry, if_pos hleft]
        rw [hheard] at hone
        obtain ⟨outcome, last, s', htry, hlast, hrest⟩ := ih hrest (call s).2
        rw [if_pos hretry]
        exact ⟨outcome, last, s', htry, hlast, hone.trans hrest⟩
      · rw [if_neg hretry]
        refine ⟨_, _, _, rfl, ?_, hone⟩
        rintro e' he' hretry'
        obtain rfl := Except.error.inj he'
        exact absurd hretry' hretry

/-- One call of a batch. -/
theorem alone_of_addCall (call : StoreM Issued) (attempts : Int) (calls : Nat) (b : Batch)
    (s : Store) :
    match Batch.addCall call attempts b s with
    | (.ok b', s') => Alone call attempts ⟨calls + 1, 0, b, none⟩ s ⟨calls, 0, b', none⟩ s'
    | (.error e, s') =>
      ∃ w', Alone call attempts ⟨calls + 1, 0, b, none⟩ s w' s' ∧ w'.failure = some e := by
  obtain ⟨outcome, last, s₁, htry, hlast, halone⟩ :=
    alone_of_tryCall call calls (Nat.add_zero (attempts - 1).toNat) b s
  unfold Batch.addCall
  rw [StoreM.bind_apply, htry]
  dsimp only
  cases outcome with
  | ok issued => exact halone
  | error e =>
    unfold hear at halone
    dsimp only at halone
    by_cases hretry : e.isRetryable = true
    · rw [if_pos hretry, if_neg (by rw [hlast e rfl hretry]; exact Nat.lt_irrefl _)] at halone
      simp only [hretry, if_true, StoreM.bind_apply, Store.note_apply, StoreM.pure_apply]
      exact halone.trans (.note _ (.done _ _))
    · rw [if_neg hretry] at halone
      simp only [hretry]
      exact ⟨_, halone, rfl⟩

/-- A batch that is made without interruption is a worker who works alone: it ends with the
    batch and no call left, or stops with the failure of the batch. -/
theorem alone_of_addCalls (call : StoreM Issued) (attempts : Int) (calls : Nat) (b : Batch)
    (s : Store) :
    match Batch.addCalls call attempts calls b s with
    | (.ok b', s') => Alone call attempts ⟨calls, 0, b, none⟩ s ⟨0, 0, b', none⟩ s'
    | (.error e, s') =>
      ∃ w', Alone call attempts ⟨calls, 0, b, none⟩ s w' s' ∧ w'.failure = some e := by
  induction calls generalizing b s with
  | zero => exact .done _ _
  | succ calls ih =>
    have hone := alone_of_addCall call attempts calls b s
    unfold Batch.addCalls
    rw [StoreM.bind_apply]
    rcases hcall : Batch.addCall call attempts b s with ⟨e | b₁, s₁⟩
    · rw [hcall] at hone
      exact hone
    · rw [hcall] at hone
      dsimp only at hone ⊢
      have hrest := ih b₁ s₁
      rcases hcalls : Batch.addCalls call attempts calls b₁ s₁ with ⟨e | b', s'⟩
      · rw [hcalls] at hrest
        obtain ⟨w', hrest, hfailure⟩ := hrest
        exact ⟨w', hone.trans hrest, hfailure⟩
      · rw [hcalls] at hrest
        exact hone.trans hrest

end

end Worker

end SerialNumbers.Contention
