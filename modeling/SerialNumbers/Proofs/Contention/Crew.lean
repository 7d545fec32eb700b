/-
  SerialNumbers.Proofs.Contention.Crew

  Workers at one sequence.  A crew is a world whose clients are workers: each
  makes its calls one after another, tries again what failed for the time being,
  and keeps its batch; the steps of all tries come in any order.  Every worker's
  batch holds the numbers of its own commits, and every call that is no longer
  left is a number or was given up (`Crew.Sound`).
-/
import SerialNumbers.Proofs.Concurrency.Numbers
import SerialNumbers.Proofs.Concurrency.ExactlyOnce
import SerialNumbers.Proofs.Contention.Worker

namespace SerialNumbers

open Time

/-! ## Outcomes -/

namespace Phase

/-- The edit that a client is about. -/
def task? : Phase → Option Task
  | called (.edit t) | waiting (.edit t) _ | holding (.edit t) _ | opened t _ _ | ready t _ _ _ _
  | writing t _ _ => some t
  | idle | called (.delete _) | waiting (.delete _) _ | holding (.delete _) _ | leaving _ _ => none

/-- It is still open how the call of a client comes out. -/
def isOpen : Phase → Bool
  | called _ | waiting _ _ | holding _ _ | opened .. | ready .. => true
  | idle | writing .. | leaving .. => false

end Phase

/-- What a client is told of its call when a number was issued. -/
def Answer.told? (client : Nat) : Answer → Option (Nat × Except Failure Issued)
  | number issued => some (client, .ok issued)
  | _ => none

namespace World

/-- The client whose call a step settles, and what comes of the call.  The client goes on when it
    has given its lock back. -/
def settles? (w : World) : Act → Option (Nat × Except Failure Issued)
  | .call client i e =>
    match e.prepare i w.store.clock with
    | .ok _ => none
    | .error failure => some (client, .error failure)
  | .giveUp client =>
    match w.phase client with
    | .waiting job _ =>
      some (client, .error (.storage (.lockTimeout job.key.1 job.key.2 w.store.timeout)))
    | _ => none
  | .read client =>
    match w.phase client with
    | .holding (.edit t) _ =>
      match w.store.row? t.key with
      | some _ => none
      | none => some (client, .error (.sequenceNotFound t.key.1 t.key.2))
    | _ => none
  | .work client =>
    match w.phase client with
    | .opened t _ row =>
      match t.work w.store.clock w.store.entries row with
      | .ok _ => none
      | .error failure => some (client, .error failure)
    | _ => none
  | .commit client =>
    match w.phase client with
    | .ready _ _ _ row done =>
      match w.store.replaceRow row done.row with
      | .ok _ => done.answer.told? client
      | .error failure => some (client, .error failure)
    | _ => none
  | _ => none

/-- How the call of a client can fail once it was begun. -/
inductive Fails (w : World) (client : Nat) : Failure → Prop where
  | giveUp {job : Job} {lock : Nat} (hwaiting : w.phase client = .waiting job lock) :
    Fails w client (.storage (.lockTimeout job.key.1 job.key.2 w.store.timeout))
  | miss {t : Task} {lock : Nat} (hholding : w.phase client = .holding (.edit t) lock)
    (hrow : w.store.row? t.key = none) : Fails w client (.sequenceNotFound t.key.1 t.key.2)
  | work {t : Task} {lock : Nat} {row : Sequence} {failure : Failure}
    (hopened : w.phase client = .opened t lock row)
    (hwork : t.work w.store.clock w.store.entries row = .error failure) : Fails w client failure
  | refuse {t : Task} {lock : Nat} {clock : Moment} {row : Sequence} {done : Edited}
    {failure : Failure} (hready : w.phase client = .ready t lock clock row done)
    (hreplace : w.store.replaceRow row done.row = .error failure) : Fails w client failure

end World

/-- The step goes on with a call that was begun, or is one of the clock. -/
def Act.goesOn : Act → Bool
  | call .. | callDelete .. | erase .. | insert .. => false
  | _ => true

theorem Act.isEdit_of_goesOn {a : Act} (h : a.goesOn = true) : a.isEdit = true := by
  cases a <;> first | rfl | cases h

namespace Contention

/-! ## Crews -/

/-- What every worker of a crew is to do. -/
structure Shift where
  issuer : Issuer
  /-- What the workers hold of the sequence. -/
  handle : Sequence
  /-- How often a call is tried. -/
  attempts : Int

/-- The call that a worker makes over and over. -/
def Shift.call (p : Shift) : Edit :=
  .generate p.handle .empty Batch.causer none

/-- A world whose clients are workers. -/
structure Crew where
  world : World
  worker : Nat → Worker

/-- A step of a crew: a worker tries its call, or some client goes on. -/
inductive Move where
  | attempt (worker : Nat)
  | act (a : Act)

namespace Crew

/-- The calls of a worker, if it has a share. -/
def share (shares : List Int) (worker : Nat) : Nat :=
  (shares.getD worker 0).toNat

/-- Workers who have not begun. -/
def start (s : Store) (shares : List Int) : Crew :=
  ⟨.start s, fun j => .start (share shares j)⟩

/-- The workers after one of them has heard what came of its call. -/
def tell (attempts : Int) (c : Crew) : Option (Nat × Except Failure Issued) → Nat → Worker
  | none => c.worker
  | some (j, outcome) => fun k => if k = j then (c.worker k).hear attempts outcome else c.worker k

/-- A step of the world. -/
def go (attempts : Int) (c : Crew) (a : Act) : Option Crew :=
  (c.world.act a).map fun w => ⟨w, c.tell attempts (c.world.settles? a)⟩

def move (p : Shift) (c : Crew) : Move → Option Crew
  | .attempt j =>
    if (c.worker j).isBusy then c.go p.attempts (.call j p.issuer p.call) else none
  | .act a => if a.goesOn then c.go p.attempts a else none

/-- Moves one after another. -/
def run (p : Shift) (c : Crew) (moves : List Move) : Option Crew :=
  moves.foldlM (move p) c

section

variable {p : Shift} {c c' : Crew}

/-- All that a move can be. -/
inductive Step (p : Shift) (c : Crew) (m : Move) : Crew → Prop where
  | begin {j : Nat} {work : Work} (hbusy : (c.worker j).isBusy = true)
    (hidle : c.world.phase j = .idle)
    (hprepare : p.call.prepare p.issuer c.world.store.clock = .ok work) :
    Step p c m ⟨c.world.put j (.called (.edit (.start p.issuer p.call c.world.store.clock work
      hprepare))) c.world.store, c.worker⟩
  | reject {j : Nat} {failure : Failure} (hbusy : (c.worker j).isBusy = true)
    (hidle : c.world.phase j = .idle)
    (hprepare : p.call.prepare p.issuer c.world.store.clock = .error failure) :
    Step p c m ⟨c.world, c.tell p.attempts (some (j, .error failure))⟩
  | goOn {j : Nat} {after : Phase} {s : Store} (hopen : (c.world.phase j).isOpen = true)
    (hafter : after.isOpen = true) (htask : after.task? = (c.world.phase j).task?)
    (hclock : s.clock = c.world.store.clock) : Step p c m ⟨c.world.put j after s, c.worker⟩
  | fail {j : Nat} {after : Phase} {failure : Failure}
    (hopen : (c.world.phase j).isOpen = true) (hafter : after.isOpen = false)
    (htask : after.task? = none) (hfails : c.world.Fails j failure) :
    Step p c m ⟨c.world.put j after c.world.store, c.tell p.attempts (some (j, .error failure))⟩
  | commit {j lock : Nat} {t : Task} {clock : Moment} {row : Sequence} {done : Edited} {s : Store}
    (hready : c.world.phase j = .ready t lock clock row done)
    (hreplace : c.world.store.replaceRow row done.row = .ok s) :
    Step p c m ⟨c.world.commit ⟨j, t, clock, row, done⟩ (.writing t lock done.entries) s,
      c.tell p.attempts (done.answer.told? j)⟩
  | close {j : Nat} {after : Phase} {s : Store} (hclosed : (c.world.phase j).isOpen = false)
    (hafter : after.isOpen = false)
    (htask : after.task? = none ∨ after.task? = (c.world.phase j).task?)
    (hclock : s.clock = c.world.store.clock) : Step p c m ⟨c.world.put j after s, c.worker⟩
  | tick {clock : Moment} (hmove : m = .act (.tick clock)) :
    Step p c m ⟨{ c.world with store := { c.world.store with clock } }, c.worker⟩

theorem go_eq_some {attempts : Int} {a : Act} (h : c.go attempts a = some c') :
    ∃ w, c.world.act a = some w ∧ c' = ⟨w, c.tell attempts (c.world.settles? a)⟩ := by
  obtain ⟨w, hw, rfl⟩ := Option.map_eq_some_iff.mp h
  exact ⟨w, hw, rfl⟩

/-- Every move of a crew is a step of an edit in its world. -/
theorem act_of_move {m : Move} (h : c.move p m = some c') :
    ∃ a, a.isEdit = true ∧ c.world.act a = some c'.world := by
  cases m with
  | attempt j =>
    unfold move at h
    dsimp only at h
    split at h
    · obtain ⟨w, hw, rfl⟩ := go_eq_some h
      exact ⟨_, rfl, hw⟩
    · cases h
  | act a =>
    unfold move at h
    dsimp only at h
    split at h
    · rename_i hgoes
      obtain ⟨w, hw, rfl⟩ := go_eq_some h
      exact ⟨a, Act.isEdit_of_goesOn hgoes, hw⟩
    · cases h

/-- A worker who tries a call begins it, or is told at once that it cannot be prepared. -/
theorem step_of_attempt {j : Nat} (hbusy : (c.worker j).isBusy = true)
    (h : c.go p.attempts (.call j p.issuer p.call) = some c') : Step p c (.attempt j) c' := by
  obtain ⟨w, hw, rfl⟩ := go_eq_some h
  simp only [World.act] at hw
  split at hw
  · rename_i hidle
    split at hw
    · rename_i work hprepare
      cases hw
      simp only [World.settles?, hprepare]
      exact .begin hbusy hidle hprepare
    · rename_i failure hprepare
      cases hw
      simp only [World.settles?, hprepare]
      exact .reject hbusy hidle hprepare
  · cases hw

theorem step_of_goesOn {a : Act} (ha : a.goesOn = true) (h : c.go p.attempts a = some c') :
    Step p c (.act a) c' := by
  obtain ⟨w, hw, rfl⟩ := go_eq_some h
  cases a with
  | call j i e => cases ha
  | callDelete j key => cases ha
  | erase j => cases ha
  | insert row => cases ha
  | tick clock =>
    cases hw
    exact .tick rfl
  | lookUp j =>
    simp only [World.act] at hw
    split at hw
    · rename_i job hcalled
      cases hw
      refine .goOn (by rw [hcalled]; rfl) rfl ?_ (Store.lockOf_clock _ _)
      rw [hcalled]
      cases job <;> rfl
    · cases hw
  | acquire j =>
    simp only [World.act] at hw
    split at hw
    · rename_i job lock hwaiting
      split at hw
      · cases hw
      · cases hw
        refine .goOn (by rw [hwaiting]; rfl) rfl ?_ rfl
        rw [hwaiting]
        cases job <;> rfl
    · cases hw
  | giveUp j =>
    simp only [World.act] at hw
    split at hw
    · rename_i job lock hwaiting
      cases hw
      simp only [World.settles?, hwaiting]
      exact .fail (by rw [hwaiting]; rfl) rfl rfl (.giveUp hwaiting)
    · cases hw
  | read j =>
    simp only [World.act] at hw
    split at hw
    · rename_i t lock hholding
      split at hw
      · rename_i row hrow
        cases hw
        simp only [World.settles?, hholding, hrow]
        exact .goOn (by rw [hholding]; rfl) rfl (by rw [hholding]; rfl) rfl
      · rename_i hrow
        cases hw
        simp only [World.settles?, hholding, hrow]
        exact .fail (by rw [hholding]; rfl) rfl rfl (.miss hholding hrow)
    · cases hw
  | work j =>
    simp only [World.act] at hw
    split at hw
    · rename_i t lock row hopened
      split at hw
      · rename_i done hwork
        cases hw
        simp only [World.settles?, hopened, hwork]
        exact .goOn (by rw [hopened]; rfl) rfl (by rw [hopened]; rfl) rfl
      · rename_i failure hwork
        cases hw
        simp only [World.settles?, hopened, hwork]
        exact .fail (by rw [hopened]; rfl) rfl rfl (.work hopened hwork)
    · cases hw
  | commit j =>
    simp only [World.act] at hw
    split at hw
    · rename_i t lock clock row done hready
      split at hw
      · rename_i s hreplace
        cases hw
        simp only [World.settles?, hready, hreplace]
        exact .commit hready hreplace
      · rename_i failure hreplace
        cases hw
        simp only [World.settles?, hready, hreplace]
        exact .fail (by rw [hready]; rfl) rfl rfl (.refuse hready hreplace)
    · cases hw
  | write j =>
    simp only [World.act] at hw
    split at hw
    · rename_i t lock entry rest hwriting
      cases hw
      exact .close (by rw [hwriting]; rfl) rfl (.inr (by rw [hwriting]; rfl)) rfl
    · cases hw
  | release j =>
    simp only [World.act] at hw
    split at hw
    · rename_i t lock hwriting
      cases hw
      exact .close (by rw [hwriting]; rfl) rfl (.inl rfl) rfl
    · rename_i key lock hleaving
      cases hw
      exact .close (by rw [hleaving]; rfl) rfl (.inl rfl) rfl
    · cases hw

theorem step_of_move {m : Move} (h : c.move p m = some c') : Step p c m c' := by
  cases m with
  | attempt j =>
    unfold move at h
    dsimp only at h
    split at h
    · rename_i hbusy
      exact step_of_attempt hbusy h
    · cases h
  | act a =>
    unfold move at h
    dsimp only at h
    split at h
    · rename_i hgoes
      exact step_of_goesOn hgoes h
    · cases h

/-- What every move of a run keeps holds after it. -/
theorem run_induction {P : Crew → Prop} {moves : List Move}
    (hmove : ∀ {c m c'}, m ∈ moves → P c → c.move p m = some c' → P c') (h : P c)
    (hrun : c.run p moves = some c') : P c' := by
  induction moves generalizing c with
  | nil =>
    cases hrun
    exact h
  | cons m rest ih =>
    unfold run at hrun
    rw [List.foldlM_cons] at hrun
    obtain ⟨c₁, hfirst, hrest⟩ := Option.bind_eq_some_iff.mp hrun
    exact ih (fun hm => hmove (.tail _ hm)) (hmove (.head _) h hfirst) hrest

end

end Crew

/-! ## Bookkeeping -/

/-- Every call of a share is left, has given a number, or was given up. -/
def Worker.Counted (share : Nat) (w : Worker) : Prop :=
  ∃ lost : Nat, w.batch.failures = lost ∧ w.left + w.batch.numbers.length + lost = share

namespace Worker

variable {w : Worker} {share : Nat} {attempts : Int}

theorem numbers_hear_error (e : Failure) :
    (w.hear attempts (.error e)).batch.numbers = w.batch.numbers := by
  unfold hear
  dsimp only
  split
  · split <;> rfl
  · rfl

theorem Counted.hear (h : w.Counted share) (hbusy : w.isBusy = true)
    (outcome : Except Failure Issued) : (w.hear attempts outcome).Counted share := by
  obtain ⟨lost, hlost, hshare⟩ := h
  have hleft : 0 < w.left := of_decide_eq_true (Bool.and_eq_true_iff.mp hbusy).1
  unfold Worker.hear
  cases outcome with
  | ok issued =>
    refine ⟨lost, hlost, ?_⟩
    dsimp only
    rw [List.length_append, List.length_singleton]
    omega
  | error e =>
    dsimp only
    split
    · split
      · exact ⟨lost, hlost, hshare⟩
      · refine ⟨lost + 1, ?_, ?_⟩
        · dsimp only
          rw [hlost]
          rfl
        · dsimp only
          omega
    · exact ⟨lost, hlost, hshare⟩

end Worker

/-- The task is a try of the call of a shift, which began at a time of some kind. -/
def Shift.Assigned (p : Shift) (T : Moment → Prop) (t : Task) : Prop :=
  t.issuer = p.issuer ∧ ∃ stamp, T stamp ∧
    t.edit = .generate p.handle .empty Batch.causer (some stamp)

namespace Shift.Assigned

variable {p : Shift} {T : Moment → Prop} {t : Task}

theorem key (h : p.Assigned T t) : t.key = p.handle.key := by
  obtain ⟨-, stamp, -, hedit⟩ := h
  unfold Task.key
  rw [hedit]
  rfl

/-- What the task comes to is a number. -/
theorem issues (h : p.Assigned T t) {clock : Moment} {log : List LogEntry} {row : Sequence}
    {done : Edited} (hwork : t.work clock log row = .ok done) :
    ∃ c stamp reason number, Inside.Issues p.issuer c stamp row reason number done := by
  obtain ⟨hissuer, stamp, -, hedit⟩ := h
  have hmakes := t.edit.makes (t.prepared clock) hwork
  rw [hissuer] at hmakes
  exact hmakes.issues (by rw [hedit]; rfl)

end Shift.Assigned

namespace Crew

/-- What is known of a crew at any time. -/
structure Sound (p : Shift) (s₀ : Store) (T : Moment → Prop) (share : Nat → Nat) (c : Crew) :
    Prop where
  serial : c.world.Serial s₀
  clock : T c.world.store.clock
  tasks : ∀ j t, (c.world.phase j).task? = some t → p.Assigned T t
  busy : ∀ j, (c.world.phase j).isOpen = true → (c.worker j).isBusy = true
  assigned : ∀ d ∈ c.world.commits, p.Assigned T d.task
  /-- A batch has the numbers of the worker's own commits. -/
  numbers : ∀ j, (c.worker j).batch.numbers =
    (c.world.commits.filter (·.client == j)).filterMap (·.done.answer.issued?)
  counted : ∀ j, (c.worker j).Counted (share j)

section

variable {p : Shift} {s₀ : Store} {T : Moment → Prop} {share : Nat → Nat} {c c' : Crew}

theorem sound_start (p : Shift) {s₀ : Store} (hclock : T s₀.clock) (shares : List Int) :
    Sound p s₀ T (Crew.share shares) (start s₀ shares) where
  serial := World.serial_start s₀
  clock := hclock
  tasks := fun j t ht => by cases ht
  busy := fun j hopen => by cases hopen
  assigned := List.forall_mem_nil _
  numbers := fun _ => rfl
  counted := fun _ => ⟨0, rfl, rfl⟩

theorem tell_self (attempts : Int) (c : Crew) (j : Nat) (outcome : Except Failure Issued) :
    c.tell attempts (some (j, outcome)) j = (c.worker j).hear attempts outcome := if_pos rfl

theorem tell_ne (attempts : Int) (c : Crew) {j k : Nat} (outcome : Except Failure Issued)
    (h : k ≠ j) : c.tell attempts (some (j, outcome)) k = c.worker k := if_neg h

theorem Sound.tell_counted (h : c.Sound p s₀ T share) {j : Nat}
    (hbusy : (c.worker j).isBusy = true) (outcome : Except Failure Issued) (k : Nat) :
    (c.tell p.attempts (some (j, outcome)) k).Counted (share k) := by
  by_cases hk : k = j
  · subst hk
    rw [tell_self]
    exact (h.counted k).hear hbusy outcome
  · rw [tell_ne _ _ _ hk]
    exact h.counted k

theorem numbers_tell_error (c : Crew) (j k : Nat) (e : Failure) :
    (c.tell p.attempts (some (j, .error e)) k).batch.numbers = (c.worker k).batch.numbers := by
  by_cases hk : k = j
  · subst hk
    rw [tell_self, Worker.numbers_hear_error]
  · rw [tell_ne _ _ _ hk]

theorem numbers_tell_ok (c : Crew) (j k : Nat) (issued : Issued) :
    (c.tell p.attempts (some (j, .ok issued)) k).batch.numbers =
      (c.worker k).batch.numbers ++ if k = j then [(issued.number, issued.counter)] else [] := by
  by_cases hk : k = j
  · subst hk
    rw [tell_self, if_pos rfl]
    rfl
  · rw [tell_ne _ _ _ hk, if_neg hk, List.append_nil]

/-- A commit adds its number to those of its client. -/
theorem issued_concat {d : Commit} {issued : Issued} (hanswer : d.done.answer = .number issued)
    (commits : List Commit) (k : Nat) :
    ((commits ++ [d]).filter (·.client == k)).filterMap (·.done.answer.issued?) =
      (commits.filter (·.client == k)).filterMap (·.done.answer.issued?) ++
        if k = d.client then [(issued.number, issued.counter)] else [] := by
  rw [List.filter_append, List.filterMap_append, List.filter_singleton]
  congr 1
  by_cases hk : k = d.client
  · rw [if_pos hk, hk, beq_self_eq_true, cond_true, List.filterMap_cons, hanswer]
    rfl
  · rw [if_neg hk, beq_false_of_ne (Ne.symm hk), cond_false, List.filterMap_nil]

section

variable {w : World} {j : Nat} {after : Phase} {s : Store}

theorem tasks_put {P : Task → Prop} (h : ∀ k t, (w.phase k).task? = some t → P t)
    (hafter : ∀ t, after.task? = some t → P t) (k : Nat) (t : Task)
    (ht : ((w.put j after s).phase k).task? = some t) : P t := by
  by_cases hk : k = j
  · subst hk
    rw [World.phase_put_self] at ht
    exact hafter t ht
  · rw [World.phase_put_ne _ _ _ hk] at ht
    exact h k t ht

theorem busy_put {worker worker' : Nat → Worker}
    (h : ∀ k, (w.phase k).isOpen = true → (worker k).isBusy = true)
    (hothers : ∀ k, k ≠ j → worker' k = worker k)
    (hafter : after.isOpen = true → (worker' j).isBusy = true) (k : Nat)
    (hopen : ((w.put j after s).phase k).isOpen = true) : (worker' k).isBusy = true := by
  by_cases hk : k = j
  · subst hk
    rw [World.phase_put_self] at hopen
    exact hafter hopen
  · rw [World.phase_put_ne _ _ _ hk] at hopen
    rw [hothers k hk]
    exact h k hopen

end

/-- The worker who commits has a number to tell. -/
theorem Sound.told (h : c.Sound p s₀ T share) {j lock : Nat} {t : Task} {clock : Moment}
    {row : Sequence} {done : Edited} (hready : c.world.phase j = .ready t lock clock row done) :
    ∃ issued, done.answer = .number issued := by
  have hagrees := h.serial.agrees j
  have hassigned : p.Assigned T t := h.tasks j t (by rw [hready]; rfl)
  rw [hready] at hagrees
  obtain ⟨_, _, _, _, hissues⟩ := hassigned.issues hagrees.2
  exact ⟨_, hissues.answer⟩

/-- Every move keeps the books right. -/
theorem Sound.step (h : c.Sound p s₀ T share) {m : Move} (hserial : c'.world.Serial s₀)
    (htick : ∀ clock, m = .act (.tick clock) → T clock) (hstep : Step p c m c') :
    c'.Sound p s₀ T share := by
  cases hstep with
  | @begin j work hbusy hidle hprepare =>
    refine ⟨hserial, h.clock, tasks_put h.tasks ?_, busy_put h.busy (fun _ _ => rfl) fun _ => hbusy,
      h.assigned, h.numbers, h.counted⟩
    rintro t ⟨⟩
    exact ⟨rfl, _, h.clock, rfl⟩
  | @reject j failure hbusy hidle hprepare =>
    refine ⟨hserial, h.clock, h.tasks, ?_, h.assigned, ?_, h.tell_counted hbusy _⟩
    · intro k hopen
      have hk : k ≠ j := by
        rintro rfl
        rw [hidle] at hopen
        cases hopen
      show (c.tell p.attempts (some (j, .error failure)) k).isBusy = true
      rw [tell_ne _ _ _ hk]
      exact h.busy k hopen
    · exact fun k => (numbers_tell_error c j k failure).trans (h.numbers k)
  | @goOn j after s hopen hafter htask hclock =>
    refine ⟨hserial, hclock ▸ h.clock, tasks_put h.tasks fun t ht => h.tasks j t ?_,
      busy_put h.busy (fun _ _ => rfl) fun _ => h.busy j hopen, h.assigned, h.numbers, h.counted⟩
    rw [← htask]
    exact ht
  | @fail j after failure hopen hafter htask hfails =>
    refine ⟨hserial, h.clock, tasks_put h.tasks ?_,
      busy_put h.busy (fun k hk => tell_ne _ _ _ hk) ?_, h.assigned, ?_,
      h.tell_counted (h.busy j hopen) _⟩
    · rw [htask]
      intro t ht
      cases ht
    · rw [hafter]
      intro hopen'
      cases hopen'
    · exact fun k => (numbers_tell_error c j k failure).trans (h.numbers k)
  | @commit j lock t clock row done s hready hreplace =>
    obtain ⟨issued, hanswer⟩ := h.told hready
    have hopen : (c.world.phase j).isOpen = true := by
      rw [hready]
      rfl
    have hassigned : p.Assigned T t := h.tasks j t (by rw [hready]; rfl)
    have hclock : s.clock = c.world.store.clock := by
      obtain ⟨_, -, -, rfl⟩ := Store.replaceRow_eq_ok.mp hreplace
      rfl
    simp only [hanswer, Answer.told?] at hserial ⊢
    refine ⟨hserial, hclock ▸ h.clock, tasks_put (s := s) h.tasks ?_,
      busy_put (s := s) h.busy (fun k hk => tell_ne _ _ _ hk) nofun, ?_, ?_,
      h.tell_counted (h.busy j hopen) _⟩
    · rintro t' ⟨⟩
      exact hassigned
    · exact List.forall_mem_append.mpr ⟨h.assigned, List.forall_mem_singleton.mpr hassigned⟩
    · intro k
      refine (numbers_tell_ok c j k issued).trans ?_
      rw [h.numbers k]
      exact (issued_concat (d := ⟨j, t, clock, row, done⟩) hanswer c.world.commits k).symm
  | @close j after s hclosed hafter htask hclock =>
    refine ⟨hserial, hclock ▸ h.clock, tasks_put h.tasks ?_, busy_put h.busy (fun _ _ => rfl) ?_,
      h.assigned, h.numbers, h.counted⟩
    · rcases htask with htask | htask
      · rw [htask]
        intro t ht
        cases ht
      · rw [htask]
        exact h.tasks j
    · rw [hafter]
      intro hopen'
      cases hopen'
  | @tick clock hmove =>
    exact ⟨hserial, htick clock hmove, h.tasks, h.busy, h.assigned, h.numbers, h.counted⟩

theorem Sound.move (hs₀ : s₀.Reachable) (h : c.Sound p s₀ T share) {m : Move}
    (htick : ∀ clock, m = .act (.tick clock) → T clock) (hmove : c.move p m = some c') :
    c'.Sound p s₀ T share := by
  obtain ⟨a, hedit, hact⟩ := act_of_move hmove
  exact h.step (h.serial.step hs₀ (World.editStep_of_act hact hedit)) htick (step_of_move hmove)

/-- Whatever moves a crew makes, its books are right. -/
theorem Sound.run (hs₀ : s₀.Reachable) (h : c.Sound p s₀ T share) {moves : List Move}
    (hticks : ∀ clock, .act (.tick clock) ∈ moves → T clock) (hrun : c.run p moves = some c') :
    c'.Sound p s₀ T share := by
  refine run_induction (fun hm h hmove => h.move hs₀ ?_ hmove) h hrun
  rintro clock rfl
  exact hticks clock hm

end

end Crew

end Contention

end SerialNumbers
