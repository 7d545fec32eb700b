/-
  SerialNumbers.Proofs.Concurrency.World

  A store with any number of clients.  What a client does to a row is cut into
  the steps that are atomic: it starts and takes the time, looks up the lock of
  the key, waits for it until it has it or gives up, reads the row, works out
  the change, replaces the row if that is still at the version that was read,
  writes the entries one by one, and gives the lock back.  The steps of all
  clients come in any order.
-/
import SerialNumbers.Proofs.Store.Work

namespace SerialNumbers

open Time

namespace Edit

/-- The edit with the time at which it starts, if it takes that and is given no other. -/
def stamped (begun : Moment) : Edit → Edit
  | generate row c causer now => generate row c causer (some (now.getD begun))
  | reset row reason causer now => reset row reason causer (some (now.getD begun))
  | override row value reason causer now =>
    override row value reason causer (some (now.getD begun))
  | resetRow key reason causer now => resetRow key reason causer (some (now.getD begun))
  | overrideRow key value reason causer now =>
    overrideRow key value reason causer (some (now.getD begun))
  | increment key now => increment key now
  | update key expected changes => update key expected changes

/-- It makes no difference any more when a stamped edit is prepared. -/
theorem prepare_stamped (i : Issuer) (begun later : Moment) (e : Edit) :
    (e.stamped begun).prepare i later = e.prepare i begun := by
  cases e <;> rfl

end Edit

/-- An edit that was started: it has its times and is prepared. -/
structure Task where
  issuer : Issuer
  edit : Edit
  work : Work
  prepared : ∀ later, edit.prepare issuer later = .ok work

namespace Task

def key (t : Task) : Key := t.edit.key

/-- The task of an edit that starts at a time. -/
def start (i : Issuer) (e : Edit) (begun : Moment) (work : Work)
    (h : e.prepare i begun = .ok work) : Task where
  issuer := i
  edit := e.stamped begun
  work := work
  prepared := fun later => (e.prepare_stamped i begun later).trans h

end Task

/-- What a client is about. -/
inductive Job where
  | edit (t : Task)
  | delete (key : Key)

def Job.key : Job → Key
  | edit t => t.key
  | delete key => key

/-- How far a client has come. -/
inductive Phase where
  | idle
  | called (job : Job)
  | waiting (job : Job) (lock : Nat)
  | holding (job : Job) (lock : Nat)
  | opened (t : Task) (lock : Nat) (row : Sequence)
  | ready (t : Task) (lock : Nat) (clock : Moment) (row : Sequence) (done : Edited)
  | writing (t : Task) (lock : Nat) (rest : List LogEntry)
  | leaving (key : Key) (lock : Nat)

namespace Phase

/-- The key that a client is at and the lock that it holds. -/
def inside? : Phase → Option (Key × Nat)
  | holding job lock => some (job.key, lock)
  | opened t lock _ | ready t lock _ _ _ | writing t lock _ => some (t.key, lock)
  | leaving key lock => some (key, lock)
  | idle | called _ | waiting _ _ => none

/-- The key that a client writes entries at and those that it has still to write. -/
def rest? : Phase → Option (Key × List LogEntry)
  | writing t _ rest => some (t.key, rest)
  | _ => none

/-- The lock that a client has looked up for a key. -/
def lock? : Phase → Option (Key × Nat)
  | waiting job lock => some (job.key, lock)
  | p => p.inside?

end Phase

/-- An edit that was committed: who did it, when it was worked out, and on which row. -/
structure Commit where
  client : Nat
  task : Task
  clock : Moment
  opened : Sequence
  done : Edited

def Commit.key (c : Commit) : Key := c.task.key

/-- A store, its clients, and what was committed so far. -/
structure World where
  store : Store
  phase : Nat → Phase
  commits : List Commit

/-- The edits that were committed at a key, in the order of their commits. -/
def World.commitsAt (w : World) (key : Key) : List Commit :=
  w.commits.filter (·.key == key)

/-- A step of a client or of the clock. -/
inductive Act where
  | call (client : Nat) (i : Issuer) (e : Edit)
  | callDelete (client : Nat) (key : Key)
  | lookUp (client : Nat)
  | acquire (client : Nat)
  | giveUp (client : Nat)
  | read (client : Nat)
  | work (client : Nat)
  | commit (client : Nat)
  | write (client : Nat)
  | erase (client : Nat)
  | release (client : Nat)
  | insert (row : Sequence)
  | tick (clock : Moment)

namespace World

/-- A store whose clients have not begun. -/
def start (s : Store) : World := ⟨s, fun _ => .idle, []⟩

/-- The world in which a client has come further. -/
def put (w : World) (client : Nat) (p : Phase) (s : Store) : World :=
  { w with store := s, phase := fun c => if c = client then p else w.phase c }

/-- The world in which a client has committed. -/
def commit (w : World) (c : Commit) (p : Phase) (s : Store) : World :=
  { w.put c.client p s with commits := w.commits ++ [c] }

/-- A step, if it can be taken. -/
def act (w : World) : Act → Option World
  | .call client i e =>
    match w.phase client with
    | .idle =>
      -- The time is taken here, before the lock is waited for.
      match h : e.prepare i w.store.clock with
      | .ok work =>
        some (w.put client (.called (.edit (.start i e w.store.clock work h))) w.store)
      | .error _ => some w
    | _ => none
  | .callDelete client key =>
    match w.phase client with
    | .idle => some (w.put client (.called (.delete key)) w.store)
    | _ => none
  | .lookUp client =>
    match w.phase client with
    | .called job =>
      some (w.put client (.waiting job (w.store.lockOf job.key).1) (w.store.lockOf job.key).2)
    | _ => none
  | .acquire client =>
    match w.phase client with
    | .waiting job lock =>
      -- The client waits as long as the lock is held.
      if w.store.isHeld lock then none
      else some (w.put client (.holding job lock) (w.store.hold lock))
    | _ => none
  | .giveUp client =>
    match w.phase client with
    | .waiting _ _ => some (w.put client .idle w.store)
    | _ => none
  | .read client =>
    match w.phase client with
    | .holding (.edit t) lock =>
      match w.store.row? t.key with
      | some row => some (w.put client (.opened t lock row) w.store)
      | none => some (w.put client (.leaving t.key lock) w.store)
    | _ => none
  | .work client =>
    match w.phase client with
    | .opened t lock row =>
      -- The log is looked at here, while other clients may be writing to it.
      match t.work w.store.clock w.store.entries row with
      | .ok done => some (w.put client (.ready t lock w.store.clock row done) w.store)
      | .error _ => some (w.put client (.leaving t.key lock) w.store)
    | _ => none
  | .commit client =>
    match w.phase client with
    | .ready t lock clock row done =>
      -- Only the version is compared with that of the row that was read.
      match w.store.replaceRow row done.row with
      | .ok s => some (w.commit ⟨client, t, clock, row, done⟩ (.writing t lock done.entries) s)
      | .error _ => some (w.put client (.leaving t.key lock) w.store)
    | _ => none
  | .write client =>
    match w.phase client with
    | .writing t lock (entry :: rest) =>
      some (w.put client (.writing t lock rest) (w.store.append entry).2)
    | _ => none
  | .erase client =>
    match w.phase client with
    | .holding (.delete key) lock =>
      some (w.put client (.leaving key lock) (w.store.removeRow key))
    | _ => none
  | .release client =>
    match w.phase client with
    | .writing _ lock [] | .leaving _ lock => some (w.put client .idle (w.store.release lock))
    | _ => none
  | .insert row =>
    match w.store.insertRow row with
    | .ok (_, s) => some { w with store := s }
    | .error _ => some w
  | .tick clock => some { w with store := { w.store with clock } }

/-- Steps one after another. -/
def run (w : World) (acts : List Act) : Option World :=
  acts.foldlM act w

end World

/-- The step is one of an edit, or of the clock. -/
def Act.isEdit : Act → Bool
  | callDelete .. | erase .. | insert .. => false
  | _ => true

namespace World

@[simp] theorem put_store (w : World) (client : Nat) (p : Phase) (s : Store) :
    (w.put client p s).store = s := rfl

@[simp] theorem put_commits (w : World) (client : Nat) (p : Phase) (s : Store) :
    (w.put client p s).commits = w.commits := rfl

theorem commitsAt_commit (w : World) (c : Commit) (p : Phase) (s : Store) (key : Key) :
    (w.commit c p s).commitsAt key =
      w.commitsAt key ++ if c.key == key then [c] else [] := by
  show (w.commits ++ [c]).filter _ = _
  rw [List.filter_append, List.filter_cons]
  rfl

@[simp] theorem phase_put_self (w : World) (client : Nat) (p : Phase) (s : Store) :
    (w.put client p s).phase client = p := if_pos rfl

theorem phase_put_ne (w : World) {client c : Nat} (p : Phase) (s : Store) (h : c ≠ client) :
    (w.put client p s).phase c = w.phase c := if_neg h

/-- All that a step of an edit, or of the clock, can be. -/
inductive EditStep (w : World) : World → Prop where
  /-- What cannot be prepared fails before anything is done. -/
  | stay : EditStep w w
  | call {client : Nat} {i : Issuer} {e : Edit} {work : Work} (hidle : w.phase client = .idle)
    (hprepare : e.prepare i w.store.clock = .ok work) :
    EditStep w
      (w.put client (.called (.edit (.start i e w.store.clock work hprepare))) w.store)
  | lookUp {client : Nat} {job : Job} (hcalled : w.phase client = .called job) :
    EditStep w
      (w.put client (.waiting job (w.store.lockOf job.key).1) (w.store.lockOf job.key).2)
  | acquire {client lock : Nat} {job : Job} (hwaiting : w.phase client = .waiting job lock)
    (hfree : w.store.isHeld lock = false) :
    EditStep w (w.put client (.holding job lock) (w.store.hold lock))
  | giveUp {client lock : Nat} {job : Job} (hwaiting : w.phase client = .waiting job lock) :
    EditStep w (w.put client .idle w.store)
  | read {client lock : Nat} {t : Task} {row : Sequence}
    (hholding : w.phase client = .holding (.edit t) lock) (hrow : w.store.row? t.key = some row) :
    EditStep w (w.put client (.opened t lock row) w.store)
  | miss {client lock : Nat} {t : Task} (hholding : w.phase client = .holding (.edit t) lock)
    (hrow : w.store.row? t.key = none) :
    EditStep w (w.put client (.leaving t.key lock) w.store)
  | work {client lock : Nat} {t : Task} {row : Sequence} {done : Edited}
    (hopened : w.phase client = .opened t lock row)
    (hwork : t.work w.store.clock w.store.entries row = .ok done) :
    EditStep w (w.put client (.ready t lock w.store.clock row done) w.store)
  | fail {client lock : Nat} {t : Task} {row : Sequence} {failure : Failure}
    (hopened : w.phase client = .opened t lock row)
    (hwork : t.work w.store.clock w.store.entries row = .error failure) :
    EditStep w (w.put client (.leaving t.key lock) w.store)
  | commit {client lock : Nat} {t : Task} {clock : Moment} {row : Sequence} {done : Edited}
    {s : Store} (hready : w.phase client = .ready t lock clock row done)
    (hreplace : w.store.replaceRow row done.row = .ok s) :
    EditStep w (w.commit ⟨client, t, clock, row, done⟩ (.writing t lock done.entries) s)
  | refuse {client lock : Nat} {t : Task} {clock : Moment} {row : Sequence} {done : Edited}
    {failure : Failure} (hready : w.phase client = .ready t lock clock row done)
    (hreplace : w.store.replaceRow row done.row = .error failure) :
    EditStep w (w.put client (.leaving t.key lock) w.store)
  | write {client lock : Nat} {t : Task} {entry : LogEntry} {rest : List LogEntry}
    (hwriting : w.phase client = .writing t lock (entry :: rest)) :
    EditStep w (w.put client (.writing t lock rest) (w.store.append entry).2)
  | finish {client lock : Nat} {t : Task} (hwriting : w.phase client = .writing t lock []) :
    EditStep w (w.put client .idle (w.store.release lock))
  | leave {client lock : Nat} {key : Key} (hleaving : w.phase client = .leaving key lock) :
    EditStep w (w.put client .idle (w.store.release lock))
  | tick (clock : Moment) : EditStep w { w with store := { w.store with clock } }

theorem editStep_of_act {w w' : World} {a : Act} (h : w.act a = some w') (ha : a.isEdit = true) :
    EditStep w w' := by
  cases a with
  | call client i e =>
    simp only [act] at h
    split at h
    · rename_i hidle
      split at h
      · rename_i work hprepare
        cases h
        exact .call hidle hprepare
      · cases h
        exact .stay
    · cases h
  | callDelete client key => cases ha
  | lookUp client =>
    simp only [act] at h
    split at h
    · rename_i job hcalled
      cases h
      exact .lookUp hcalled
    · cases h
  | acquire client =>
    simp only [act] at h
    split at h
    · rename_i job lock hwaiting
      split at h
      · cases h
      · rename_i hfree
        cases h
        exact .acquire hwaiting (by simpa using hfree)
    · cases h
  | giveUp client =>
    simp only [act] at h
    split at h
    · rename_i job lock hwaiting
      cases h
      exact .giveUp hwaiting
    · cases h
  | read client =>
    simp only [act] at h
    split at h
    · rename_i t lock hholding
      split at h
      · rename_i row hrow
        cases h
        exact .read hholding hrow
      · rename_i hrow
        cases h
        exact .miss hholding hrow
    · cases h
  | work client =>
    simp only [act] at h
    split at h
    · rename_i t lock row hopened
      split at h
      · rename_i done hwork
        cases h
        exact .work hopened hwork
      · rename_i failure hwork
        cases h
        exact .fail hopened hwork
    · cases h
  | commit client =>
    simp only [act] at h
    split at h
    · rename_i t lock clock row done hready
      split at h
      · rename_i s hreplace
        cases h
        exact .commit hready hreplace
      · rename_i failure hreplace
        cases h
        exact .refuse hready hreplace
    · cases h
  | write client =>
    simp only [act] at h
    split at h
    · rename_i t lock entry rest hwriting
      cases h
      exact .write hwriting
    · cases h
  | erase client => cases ha
  | release client =>
    simp only [act] at h
    split at h
    · rename_i t lock hwriting
      cases h
      exact .finish hwriting
    · rename_i key lock hleaving
      cases h
      exact .leave hleaving
    · cases h
  | insert row => cases ha
  | tick clock =>
    cases h
    exact .tick clock

/-- What every step of an edit keeps holds after any number of them. -/
theorem run_induction {P : World → Prop} (hstep : ∀ {w w'}, P w → EditStep w w' → P w')
    {w w' : World} {acts : List Act} (h : P w) (hrun : w.run acts = some w')
    (hacts : ∀ a ∈ acts, a.isEdit = true) : P w' := by
  induction acts generalizing w with
  | nil =>
    cases hrun
    exact h
  | cons a rest ih =>
    unfold run at hrun
    rw [List.foldlM_cons] at hrun
    obtain ⟨w₁, hact, hrest⟩ := Option.bind_eq_some_iff.mp hrun
    exact ih (hstep h (editStep_of_act hact (hacts a List.mem_cons_self))) hrest
      fun b hb => hacts b (List.mem_cons_of_mem a hb)

/-! ## Taking out and putting in -/

/-- The key whose row and lock a step takes out. -/
def erases? (w : World) : Act → Option Key
  | .erase client =>
    match w.phase client with
    | .holding (.delete key) _ => some key
    | _ => none
  | _ => none

/-- The keys that steps take out, one after another. -/
def erased (w : World) : List Act → List Key
  | [] => []
  | a :: rest =>
    match w.act a with
    | some w' => (w.erases? a).toList ++ w'.erased rest
    | none => []

/-- All that a step can be, and the key that it takes out. -/
inductive Step (w : World) : Option Key → World → Prop where
  | edit {w' : World} (step : EditStep w w') : Step w none w'
  | callDelete {client : Nat} (key : Key) (hidle : w.phase client = .idle) :
    Step w none (w.put client (.called (.delete key)) w.store)
  | erase {client lock : Nat} {key : Key}
    (hholding : w.phase client = .holding (.delete key) lock) :
    Step w (some key) (w.put client (.leaving key lock) (w.store.removeRow key))
  | insert {row stored : Sequence} {s : Store}
    (hinsert : w.store.insertRow row = .ok (stored, s)) : Step w none { w with store := s }

theorem step_of_act {w w' : World} {a : Act} (h : w.act a = some w') :
    Step w (w.erases? a) w' := by
  cases a with
  | callDelete client key =>
    simp only [act] at h
    split at h
    · rename_i hidle
      cases h
      exact .callDelete key hidle
    · cases h
  | erase client =>
    simp only [act] at h
    split at h
    · rename_i key lock hholding
      cases h
      have hkey : w.erases? (.erase client) = some key := by
        simp only [erases?, hholding]
      rw [hkey]
      exact .erase hholding
    · cases h
  | insert row =>
    simp only [act] at h
    split at h
    · rename_i stored s hinsert
      cases h
      exact .insert hinsert
    · cases h
      exact .edit .stay
  | _ => exact .edit (editStep_of_act h rfl)

/-- What every step keeps, told what was taken out so far, holds after any number of them. -/
theorem run_erased {P : List Key → World → Prop}
    (hstep : ∀ {gone w key w'}, P gone w → Step w key w' → P (gone ++ key.toList) w')
    {gone : List Key} {w w' : World} {acts : List Act} (h : P gone w)
    (hrun : w.run acts = some w') : P (gone ++ w.erased acts) w' := by
  induction acts generalizing gone w with
  | nil =>
    cases hrun
    rw [erased, List.append_nil]
    exact h
  | cons a rest ih =>
    unfold run at hrun
    rw [List.foldlM_cons] at hrun
    obtain ⟨w₁, hact, hrest⟩ := Option.bind_eq_some_iff.mp hrun
    have herased : w.erased (a :: rest) = (w.erases? a).toList ++ w₁.erased rest := by
      rw [erased, hact]
    rw [herased, ← List.append_assoc]
    exact ih (hstep h (step_of_act hact)) hrest

end World

end SerialNumbers
