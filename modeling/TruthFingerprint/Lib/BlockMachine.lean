import Mathlib

/-!
# Replicas of a block machine

A replica executes a block by staging it, which answers with the block's result, and committing
it. Before the commit it may stage the block again, and after it it may restart from what it
saved. When staging, committing and restarting are functions of a committed *core*
(`Deterministic`), and the cores along the blocks survive being saved, the answers of a replica and
what it shows along the blocks do not depend on how often it staged again or restarted
(`runTurns_eq`), so replicas that start from one core agree.
-/

namespace BlockMachine

universe u

variable {N B O A V C E : Type u}

structure Machine (N B O A E : Type u) where
  stage : N → B → N × Except E O
  commit : N → N × Except E A
  restart : N → Except E N

/-- What a replica does around one block: how many more times it stages the block, and how many
times it restarts after the commit. -/
structure Turn where
  restages : Nat
  restarts : Nat

/-- The answers of every staging of a block, and what the replica shows after its commit and after
each restart. -/
structure Seen (O V : Type u) where
  answers : List O
  views : List V

namespace Machine

/-- Stage a block once and then `k` more times. -/
def stageTimes (M : Machine N B O A E) (n : N) (b : B) : Nat → Except E (N × List O)
  | 0 => do
    let o ← (M.stage n b).2
    pure ((M.stage n b).1, [o])
  | k + 1 => do
    let (n', os) ← M.stageTimes n b k
    let o ← (M.stage n' b).2
    pure ((M.stage n' b).1, o :: os)

/-- Restart `k` times. -/
def restartTimes (M : Machine N B O A E) (view : N → V) (n : N) : Nat → Except E (N × List V)
  | 0 => pure (n, [])
  | k + 1 => do
    let (n', vs) ← M.restartTimes view n k
    let n'' ← M.restart n'
    pure (n'', view n'' :: vs)

/-- One block with what the replica does around it. -/
def runTurn (M : Machine N B O A E) (view : N → V) (n : N) (b : B) (t : Turn) :
    Except E (N × Seen O V) := do
  let (n', answers) ← M.stageTimes n b t.restages
  let _ ← (M.commit n').2
  let (n'', views) ← M.restartTimes view (M.commit n').1 t.restarts
  pure (n'', { answers, views := views ++ [view (M.commit n').1] })

def runTurns (M : Machine N B O A E) (view : N → V) :
    N → List (B × Turn) → Except E (List (Seen O V))
  | _, [] => pure []
  | n, (b, t) :: rest => do
    let (n', seen) ← M.runTurn view n b t
    let seens ← M.runTurns view n' rest
    pure (seen :: seens)

end Machine

/-- Staging, committing and restarting depend on the core alone: `answer` and `ack` are what a
staging and the commit after it return, `next` is the core that the commit leaves, and `see` is
what a core shows. A `Durable` core is saved by its commit. -/
structure Deterministic (M : Machine N B O A E) (core : N → C) (view : N → V) where
  answer : C → B → Except E O
  ack : C → B → Except E A
  next : C → B → C
  see : C → V
  Durable : C → Prop
  Staged : N → B → Prop
  Saved : N → Prop
  view_eq : ∀ n, view n = see (core n)
  stage_answer : ∀ n b, (M.stage n b).2 = answer (core n) b
  stage_core : ∀ n b, core (M.stage n b).1 = core n
  stage_staged : ∀ {n b o}, answer (core n) b = .ok o → Staged (M.stage n b).1 b
  commit_ack : ∀ {n b}, Staged n b → (M.commit n).2 = ack (core n) b
  commit_core : ∀ {n b a}, Staged n b → ack (core n) b = .ok a →
    core (M.commit n).1 = next (core n) b
  commit_saved : ∀ {n b a}, Staged n b → ack (core n) b = .ok a → Durable (next (core n) b) →
    Saved (M.commit n).1
  restart_saved : ∀ {n}, Saved n → ∃ n', M.restart n = .ok n' ∧ core n' = core n ∧ Saved n'

/-- What a turn shows, given the answer of the block and the view after it. -/
def Turn.show (t : Turn) (r : O × V) : Seen O V where
  answers := List.replicate (t.restages + 1) r.1
  views := List.replicate (t.restarts + 1) r.2

namespace Deterministic

variable {M : Machine N B O A E} {core : N → C} {view : N → V} (D : Deterministic M core view)
include D

/-- Every staging and every commit along the blocks succeeds, and leaves a durable core. -/
def Succeeds : C → List B → Prop
  | _, [] => True
  | c, b :: bs => (∃ o, D.answer c b = .ok o) ∧ (∃ a, D.ack c b = .ok a) ∧
      D.Durable (D.next c b) ∧ Succeeds (D.next c b) bs

theorem succeeds_cons : D.Succeeds c (b :: bs) ↔ (∃ o, D.answer c b = .ok o) ∧
    (∃ a, D.ack c b = .ok a) ∧ D.Durable (D.next c b) ∧ D.Succeeds (D.next c b) bs := Iff.rfl

theorem stageTimes_eq (h : D.answer (core n) b = .ok o) (k : Nat) :
    ∃ n', M.stageTimes n b k = .ok (n', List.replicate (k + 1) o) ∧ core n' = core n ∧
      D.Staged n' b := by
  induction k with
  | zero =>
    refine ⟨(M.stage n b).1, ?_, D.stage_core n b, D.stage_staged h⟩
    simp [Machine.stageTimes, D.stage_answer, h, bind, Except.bind, pure, Except.pure]
  | succ k ih =>
    obtain ⟨n', hn', hcore, -⟩ := ih
    rw [← hcore] at h
    refine ⟨(M.stage n' b).1, ?_, (D.stage_core n' b).trans hcore, D.stage_staged h⟩
    simp [Machine.stageTimes, hn', D.stage_answer, h, bind, Except.bind, pure, Except.pure,
      List.replicate_succ]

theorem restartTimes_eq (h : D.Saved n) (k : Nat) :
    ∃ n', M.restartTimes view n k = .ok (n', List.replicate k (D.see (core n))) ∧
      core n' = core n ∧ D.Saved n' := by
  induction k with
  | zero => exact ⟨n, rfl, rfl, h⟩
  | succ k ih =>
    obtain ⟨n', hn', hcore, hsaved⟩ := ih
    obtain ⟨n'', hn'', hcore', hsaved'⟩ := D.restart_saved hsaved
    refine ⟨n'', ?_, hcore'.trans hcore, hsaved'⟩
    simp [Machine.restartTimes, hn', hn'', D.view_eq, hcore', hcore, bind, Except.bind, pure,
      Except.pure, List.replicate_succ]

/-- A turn succeeds when its block's staging and commit do, and shows their results. -/
theorem runTurn_eq (t : Turn) (ho : D.answer (core n) b = .ok o) (ha : D.ack (core n) b = .ok a)
    (hd : D.Durable (D.next (core n) b)) :
    ∃ n', M.runTurn view n b t = .ok (n', t.show (o, D.see (D.next (core n) b))) ∧
      core n' = D.next (core n) b := by
  obtain ⟨n', hn', hcore, hstaged⟩ := D.stageTimes_eq ho t.restages
  rw [← hcore] at ha hd
  obtain ⟨n'', hn'', hcore', -⟩ := D.restartTimes_eq (D.commit_saved hstaged ha hd) t.restarts
  have hnext := D.commit_core hstaged ha
  rw [hcore] at hnext
  rw [hnext] at hcore' hn''
  refine ⟨n'', ?_, hcore'⟩
  simp [Machine.runTurn, hn', D.commit_ack hstaged, ha, hn'', D.view_eq, hnext, Turn.show, bind,
    Except.bind, pure, Except.pure, List.replicate_succ']

/-- Along blocks that succeed, every replica with the core gets through, and each block has one
answer and one view, whatever the replica does around it. -/
theorem runTurns_eq {c : C} {blocks : List B} (h : D.Succeeds c blocks) :
    ∃ results : List (O × V), results.length = blocks.length ∧
      ∀ (n : N) (ts : List Turn), core n = c → ts.length = blocks.length →
        M.runTurns view n (blocks.zip ts) = .ok (List.zipWith Turn.show ts results) := by
  induction blocks generalizing c with
  | nil =>
    refine ⟨[], rfl, fun n ts _ hlen => ?_⟩
    obtain rfl := List.length_eq_zero_iff.mp hlen
    rfl
  | cons b blocks ih =>
    obtain ⟨⟨o, ho⟩, ⟨a, ha⟩, hd, h⟩ := h
    obtain ⟨results, hlength, hresults⟩ := ih h
    refine ⟨(o, D.see (D.next c b)) :: results, by simp [hlength], fun n ts hn hlen => ?_⟩
    cases ts with
    | nil => simp at hlen
    | cons t ts =>
      subst hn
      obtain ⟨n', hn', hcore⟩ := D.runTurn_eq t ho ha hd
      have hrest := hresults n' ts hcore (by simpa using hlen)
      simp [Machine.runTurns, hn', hrest, bind, Except.bind, pure, Except.pure]

end Deterministic

end BlockMachine
