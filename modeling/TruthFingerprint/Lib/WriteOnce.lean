import Mathlib

/-!
# Clients of a write-once store

A write-once store never changes a value that it holds (`Extends`). Clients run interleaved; a
client may stop anywhere. When every move of a client only extends the store, so does every run
(`store_extends`), and what a client has established about it stays true while the others move
(`client_invariant`).

A *publisher* runs a fixed list of operations: it creates entries and verifies that entries hold the
value that it expects. What it has verified is in the store, every entry that a run adds was created
by a publisher, and a publisher whose operations agree with the store succeeds
(`not_failed_of_agrees`, `exists_finished`).
-/

namespace WriteOnce

variable {K V ι P : Type*}

abbrev Store (K V : Type*) := K → Option V

/-- Every entry stays as it is. -/
def Extends (s s' : Store K V) : Prop := ∀ k v, s k = some v → s' k = some v

namespace Extends

variable {s s' s'' : Store K V}

theorem refl (s : Store K V) : Extends s s := fun _ _ h => h

theorem trans (h : Extends s s') (h' : Extends s' s'') : Extends s s'' :=
  fun k v hv => h' k v (h k v hv)

end Extends

/-- Store a value under a key that has none. -/
def create [DecidableEq K] (s : Store K V) (k : K) (v : V) : Store K V :=
  fun k' => (s k').or (if k' = k then some v else none)

section create

variable [DecidableEq K] {s : Store K V} {k : K} {v : V}

theorem extends_create (s : Store K V) (k : K) (v : V) : Extends s (create s k v) := by
  intro k' v' h
  rw [create, h, Option.some_or]

@[simp] theorem create_self (h : s k = none) : create s k v k = some v := by
  simp [create, h]

theorem create_of_ne {k' : K} (h : k' ≠ k) : create s k v k' = s k' := by
  rw [create, if_neg h, Option.or_none]

/-- An entry that the store has after a creation is an old one or the new one. -/
theorem create_cases {k' : K} {v' : V} (h : create s k v k' = some v') :
    s k' = some v' ∨ (k' = k ∧ v' = v) := by
  rw [create] at h
  cases hk' : s k' with
  | some w =>
    rw [hk', Option.some_or] at h
    exact .inl h
  | none =>
    rw [hk', Option.none_or] at h
    split_ifs at h with heq
    exact .inr ⟨heq, (Option.some.inj h).symm⟩

end create

/-! ## Interleaved clients -/

structure World (K V ι P : Type*) where
  store : Store K V
  clients : ι → P

/-- One client moves, and the others stay. -/
def Step [DecidableEq ι] (move : ι → Store K V × P → Store K V × P → Prop)
    (w w' : World K V ι P) : Prop :=
  ∃ i store p, move i (w.store, w.clients i) (store, p) ∧
    w' = ⟨store, Function.update w.clients i p⟩

abbrev Run [DecidableEq ι] (move : ι → Store K V × P → Store K V × P → Prop) :
    World K V ι P → World K V ι P → Prop :=
  Relation.ReflTransGen (Step move)

section Run

variable [DecidableEq ι] {move : ι → Store K V × P → Store K V × P → Prop}
  {w w' : World K V ι P}

theorem store_extends (hmove : ∀ i c c', move i c c' → Extends c.1 c'.1) (h : Run move w w') :
    Extends w.store w'.store := by
  induction h with
  | refl => exact Extends.refl _
  | tail _ hstep ih =>
    obtain ⟨i, store, p, hi, rfl⟩ := hstep
    exact ih.trans (hmove i _ _ hi)

/-- What holds of a client and its store, is kept by the client's own moves and stays true when the
store is extended, holds along every run. -/
theorem client_invariant (good : Store K V → P → Prop) {i : ι}
    (hmove : ∀ j c c', move j c c' → Extends c.1 c'.1)
    (hstable : ∀ s s' p, Extends s s' → good s p → good s' p)
    (hgood : ∀ c c', move i c c' → good c.1 c.2 → good c'.1 c'.2)
    (hinit : good w.store (w.clients i)) (h : Run move w w') :
    good w'.store (w'.clients i) := by
  induction h with
  | refl => exact hinit
  | @tail w₁ _ _ hstep ih =>
    obtain ⟨j, store, p, hj, rfl⟩ := hstep
    change good store (Function.update w₁.clients j p i)
    by_cases hi : i = j
    · obtain rfl := hi
      rw [Function.update_self]
      exact hgood _ _ hj ih
    · rw [Function.update_of_ne hi]
      exact hstable _ _ _ (hmove j _ _ hj) ih

/-- A run of one client, seen among the others. -/
theorem run_of_moves {i : ι} {c : Store K V × P}
    (h : Relation.ReflTransGen (move i) (w.store, w.clients i) c) :
    Run move w ⟨c.1, Function.update w.clients i c.2⟩ := by
  induction h with
  | refl =>
    have hself : Function.update w.clients i (w.clients i) = w.clients :=
      Function.update_eq_self i w.clients
    change Run move w ⟨w.store, Function.update w.clients i (w.clients i)⟩
    rw [hself]
  | @tail c c' _ hmove ih =>
    refine ih.tail ⟨i, c'.1, c'.2, ?_, ?_⟩
    · change move i (c.1, Function.update w.clients i c.2 i) c'
      rw [Function.update_self]
      exact hmove
    · rw [Function.update_idem]

end Run

/-! ## Publishers -/

inductive Op (K V : Type*) where
  | create (k : K) (v : V)
  | verify (k : K) (v : V)
deriving DecidableEq

def Op.key : Op K V → K
  | .create k _ => k
  | .verify k _ => k

def Op.value : Op K V → V
  | .create _ v => v
  | .verify _ v => v

/-- What a publisher has done and has still to do, or the operation at which it failed. -/
inductive Progress (K V : Type*) where
  | running (done todo : List (Op K V))
  | failed (done : List (Op K V)) (op : Op K V)

def Progress.done : Progress K V → List (Op K V)
  | .running done _ => done
  | .failed done _ => done

variable [DecidableEq K]

/-- A creation stores a value where there is none, and answers the same where the value is already
there. Where there is another value it is refused, or passes without effect. -/
inductive Move : Store K V × Progress K V → Store K V × Progress K V → Prop
  | created {s done k v todo} (h : s k = none) :
      Move (s, .running done (.create k v :: todo))
        (create s k v, .running (done ++ [.create k v]) todo)
  | existed {s done k v v' todo} (h : s k = some v') :
      Move (s, .running done (.create k v :: todo)) (s, .running (done ++ [.create k v]) todo)
  | refused {s done k v v' todo} (h : s k = some v') (hne : v' ≠ v) :
      Move (s, .running done (.create k v :: todo)) (s, .failed done (.create k v))
  | verified {s done k v todo} (h : s k = some v) :
      Move (s, .running done (.verify k v :: todo)) (s, .running (done ++ [.verify k v]) todo)
  | mismatched {s done k v todo} (h : s k ≠ some v) :
      Move (s, .running done (.verify k v :: todo)) (s, .failed done (.verify k v))

abbrev Publishers (K V ι : Type*) := World K V ι (Progress K V)

/-- Publishers that have done nothing. -/
def start (store : Store K V) (program : ι → List (Op K V)) : Publishers K V ι :=
  ⟨store, fun i => .running [] (program i)⟩

abbrev Publishing [DecidableEq ι] : Publishers K V ι → Publishers K V ι → Prop :=
  Run fun _ => Move

section Publishers

theorem extends_of_move {c c' : Store K V × Progress K V} (h : Move c c') : Extends c.1 c'.1 := by
  cases h with
  | created => exact extends_create _ _ _
  | existed | refused | verified | mismatched => exact Extends.refl _

/-- What a publisher knows: it follows its program, and what it has verified is stored. -/
structure Knows (program : List (Op K V)) (s : Store K V) (p : Progress K V) : Prop where
  follows : p.done <+: program
  remains : ∀ done todo, p = .running done todo → program = done ++ todo
  stored : ∀ k v, .verify k v ∈ p.done → s k = some v
  created : ∀ k v, .create k v ∈ p.done → s k ≠ none

omit [DecidableEq K] in
theorem Knows.extend {program : List (Op K V)} {s s' : Store K V} {p : Progress K V}
    (h : Knows program s p) (hs : Extends s s') : Knows program s' p where
  follows := h.follows
  remains := h.remains
  stored k v hop := hs k v (h.stored k v hop)
  created k v hop := by
    obtain ⟨v', hv'⟩ := Option.ne_none_iff_exists'.mp (h.created k v hop)
    rw [hs k v' hv']
    exact Option.some_ne_none v'

omit [DecidableEq K] in
/-- One more operation, whose effect is in the store. -/
theorem Knows.advance {program done todo : List (Op K V)} {op : Op K V} {s : Store K V}
    (h : Knows program s (.running done (op :: todo)))
    (hverify : ∀ k v, op = .verify k v → s k = some v)
    (hcreate : ∀ k v, op = .create k v → s k ≠ none) :
    Knows program s (.running (done ++ [op]) todo) where
  follows := by
    rw [h.remains done (op :: todo) rfl]
    exact ⟨todo, by simp [Progress.done]⟩
  remains done' todo' heq := by
    obtain ⟨rfl, rfl⟩ := Progress.running.inj heq
    rw [h.remains done (op :: todo) rfl, List.append_assoc, List.singleton_append]
  stored k v hop := by
    rcases List.mem_append.mp hop with hop | hop
    · exact h.stored k v hop
    · exact hverify k v (List.mem_singleton.mp hop).symm
  created k v hop := by
    rcases List.mem_append.mp hop with hop | hop
    · exact h.created k v hop
    · exact hcreate k v (List.mem_singleton.mp hop).symm

omit [DecidableEq K] in
theorem Knows.fail {program done todo : List (Op K V)} {op op' : Op K V} {s : Store K V}
    (h : Knows program s (.running done (op :: todo))) : Knows program s (.failed done op') where
  follows := h.follows
  remains _ _ heq := nomatch heq
  stored := h.stored
  created := h.created

theorem knows_of_move {program : List (Op K V)} {c c' : Store K V × Progress K V} (h : Move c c')
    (hknows : Knows program c.1 c.2) : Knows program c'.1 c'.2 := by
  have hextend := hknows.extend (extends_of_move h)
  cases h with
  | created hnone =>
    refine hextend.advance (fun _ _ heq => nomatch heq) fun k v heq => ?_
    obtain ⟨rfl, rfl⟩ := Op.create.inj heq
    exact (create_self hnone).trans_ne (Option.some_ne_none _)
  | existed hsome =>
    refine hextend.advance (fun _ _ heq => nomatch heq) fun k v heq => ?_
    obtain ⟨rfl, rfl⟩ := Op.create.inj heq
    exact hsome.trans_ne (Option.some_ne_none _)
  | refused => exact hextend.fail
  | verified hsome =>
    refine hextend.advance (fun k v heq => ?_) fun _ _ heq => nomatch heq
    obtain ⟨rfl, rfl⟩ := Op.verify.inj heq
    exact hsome
  | mismatched => exact hextend.fail

/-- What is done stays done. -/
theorem done_of_move {c c' : Store K V × Progress K V} (h : Move c c') :
    ∀ op ∈ c.2.done, op ∈ c'.2.done := by
  cases h with
  | created | existed | verified => exact fun op hop => List.mem_append_left _ hop
  | refused | mismatched => exact fun op hop => hop

variable [DecidableEq ι] {w w' : Publishers K V ι}

omit [DecidableEq K] [DecidableEq ι] in
theorem knows_start (program : List (Op K V)) (s : Store K V) :
    Knows program s (.running [] program) := by
  refine ⟨List.nil_prefix, fun done todo heq => ?_, fun k v hop => ?_, fun k v hop => ?_⟩
  · obtain ⟨rfl, rfl⟩ := Progress.running.inj heq
    rfl
  · cases hop
  · cases hop

theorem knows_of_run {program : List (Op K V)} {i : ι}
    (hknows : Knows program w.store (w.clients i)) (h : Publishing w w') :
    Knows program w'.store (w'.clients i) :=
  client_invariant (Knows program) (fun _ _ _ => extends_of_move)
    (fun _ _ _ hs hknows => hknows.extend hs) (fun _ _ => knows_of_move) hknows h

/-- The publishers of a run know what they have done. -/
theorem knows {store : Store K V} {program : ι → List (Op K V)}
    (h : Publishing (start store program) w) (i : ι) :
    Knows (program i) w.store (w.clients i) :=
  knows_of_run (knows_start (program i) store) h

/-- Every entry of the store was there before, or a publisher has created it. -/
theorem authored (h : Publishing w w') {k : K} {v : V} (hv : w'.store k = some v) :
    w.store k = some v ∨ ∃ i, .create k v ∈ (w'.clients i).done := by
  induction h generalizing k v with
  | refl => exact .inl hv
  | @tail w₁ _ _ hstep ih =>
    obtain ⟨i, store, p, hi, rfl⟩ := hstep
    have hkept (j : ι) (op : Op K V) (hop : op ∈ (w₁.clients j).done) :
        op ∈ (Function.update w₁.clients i p j).done := by
      by_cases hj : j = i
      · obtain rfl := hj
        rw [Function.update_self]
        exact done_of_move hi op hop
      · rwa [Function.update_of_ne hj]
    have hold (hv : w₁.store k = some v) : w.store k = some v ∨
        ∃ j, .create k v ∈ (Function.update w₁.clients i p j).done := by
      rcases ih hv with hinit | ⟨j, hj⟩
      · exact .inl hinit
      · exact .inr ⟨j, hkept j _ hj⟩
    generalize hc : w₁.clients i = c at hi
    cases hi with
    | created =>
      rcases create_cases hv with hv | ⟨rfl, rfl⟩
      · exact hold hv
      · refine .inr ⟨i, ?_⟩
        change _ ∈ (Function.update w₁.clients i _ i).done
        rw [Function.update_self]
        exact List.mem_append_right _ (List.mem_singleton_self _)
    | existed | refused | verified | mismatched => exact hold hv

/-! ### Publishers that succeed -/

/-- Whatever a program verifies it has created before, or the store holds it from the start. -/
def Supported (program : List (Op K V)) (s : Store K V) : Prop :=
  ∀ done k v todo, program = done ++ .verify k v :: todo → .create k v ∈ done ∨ s k = some v

/-- The store holds no other value under a key of the program. -/
def Agrees (program : List (Op K V)) (s : Store K V) : Prop :=
  ∀ op ∈ program, ∀ v, s op.key = some v → v = op.value

/-- The program has one value for each of its keys. -/
def Consistent (program : List (Op K V)) : Prop :=
  ∀ op ∈ program, ∀ op' ∈ program, op.key = op'.key → op.value = op'.value

omit [DecidableEq K] [DecidableEq ι] in
theorem Supported.extend {program : List (Op K V)} {s s' : Store K V} (h : Supported program s)
    (hs : Extends s s') : Supported program s' := by
  intro done k v todo heq
  rcases h done k v todo heq with hcreate | hstored
  · exact .inl hcreate
  · exact .inr (hs k v hstored)

omit [DecidableEq K] [DecidableEq ι] in
theorem supported_nil (s : Store K V) : Supported [] s := by
  intro done k v todo heq
  simp at heq

omit [DecidableEq K] [DecidableEq ι] in
theorem Supported.append {program rest : List (Op K V)} {s : Store K V} (h : Supported program s)
    (hrest : ∀ done k v todo, rest = done ++ .verify k v :: todo →
      .create k v ∈ program ++ done ∨ s k = some v) : Supported (program ++ rest) s := by
  intro done k v todo heq
  rcases List.append_eq_append_iff.mp heq with ⟨more, rfl, hmore⟩ | ⟨more, rfl, hmore⟩
  · exact hrest more k v todo hmore
  · cases more with
    | nil =>
      have hdone := hrest [] k v todo hmore.symm
      rwa [List.append_nil, List.append_nil] at hdone
    | cons op more =>
      obtain ⟨rfl, -⟩ := List.cons.inj hmore
      exact h done k v more rfl

omit [DecidableEq K] [DecidableEq ι] in
/-- Writing an entry and verifying it. -/
theorem Supported.append_write {program : List (Op K V)} {s : Store K V}
    (h : Supported program s) (k : K) (v : V) :
    Supported (program ++ [.create k v, .verify k v]) s := by
  refine h.append fun done k' v' todo heq => ?_
  match done, heq with
  | [op], heq =>
    rw [List.singleton_append, List.cons.injEq, List.cons.injEq] at heq
    obtain ⟨rfl, hverify, -⟩ := heq
    obtain ⟨rfl, rfl⟩ := Op.verify.inj hverify
    exact .inl (List.mem_append_right _ (List.mem_singleton_self _))
  | [], heq => simp at heq
  | _ :: _ :: _, heq => simp at heq

omit [DecidableEq K] [DecidableEq ι] in
/-- Verifying entries that are created before or stored. -/
theorem Supported.append_verify {program : List (Op K V)} {s : Store K V}
    (h : Supported program s) {entries : List (K × V)}
    (hentries : ∀ entry ∈ entries, .create entry.1 entry.2 ∈ program ∨ s entry.1 = some entry.2) :
    Supported (program ++ entries.map fun entry => .verify entry.1 entry.2) s := by
  refine h.append fun done k v todo heq => ?_
  have hmem : Op.verify k v ∈ entries.map fun entry => Op.verify entry.1 entry.2 := by
    rw [heq]
    exact List.mem_append_right _ List.mem_cons_self
  obtain ⟨entry, hentry, hop⟩ := List.mem_map.mp hmem
  obtain ⟨rfl, rfl⟩ := Op.verify.inj hop
  rcases hentries entry hentry with hcreate | hstored
  · exact .inl (List.mem_append_left _ hcreate)
  · exact .inr hstored

omit [DecidableEq K] [DecidableEq ι] in
/-- The key of a supported verification is in the store when its turn comes. -/
theorem Knows.present {program done todo : List (Op K V)} {k : K} {v : V} {s : Store K V}
    (h : Knows program s (.running done (.verify k v :: todo))) (hsupported : Supported program s) :
    s k ≠ none := by
  rcases hsupported done k v todo (h.remains _ _ rfl) with hcreate | hstored
  · exact h.created k v hcreate
  · exact hstored.trans_ne (Option.some_ne_none v)

omit [DecidableEq K] [DecidableEq ι] in
theorem Knows.mem {program done todo : List (Op K V)} {op : Op K V} {s : Store K V}
    (h : Knows program s (.running done (op :: todo))) : op ∈ program := by
  rw [h.remains _ _ rfl]
  exact List.mem_append_right _ List.mem_cons_self

/-- What a supported publisher knows besides: where it failed, there is another value. -/
structure KnowsConflict (program : List (Op K V)) (s : Store K V) (p : Progress K V) : Prop where
  knows : Knows program s p
  supported : Supported program s
  conflict : ∀ done op, p = .failed done op →
    op ∈ program ∧ ∃ v, s op.key = some v ∧ v ≠ op.value

omit [DecidableEq K] [DecidableEq ι] in
theorem KnowsConflict.extend {program : List (Op K V)} {s s' : Store K V} {p : Progress K V}
    (h : KnowsConflict program s p) (hs : Extends s s') : KnowsConflict program s' p := by
  refine ⟨h.knows.extend hs, h.supported.extend hs, fun done op heq => ?_⟩
  obtain ⟨hop, v, hv, hne⟩ := h.conflict done op heq
  exact ⟨hop, v, hs _ v hv, hne⟩

theorem knowsConflict_of_move {program : List (Op K V)} {c c' : Store K V × Progress K V}
    (h : Move c c') (hknows : KnowsConflict program c.1 c.2) : KnowsConflict program c'.1 c'.2 := by
  refine ⟨knows_of_move h hknows.knows, hknows.supported.extend (extends_of_move h), ?_⟩
  intro done op heq
  cases h with
  | created | existed | verified => cases heq
  | refused hsome hne =>
    obtain ⟨rfl, rfl⟩ := Progress.failed.inj heq
    exact ⟨hknows.knows.mem, _, hsome, hne⟩
  | mismatched hother =>
    obtain ⟨rfl, rfl⟩ := Progress.failed.inj heq
    obtain ⟨v, hv⟩ := Option.ne_none_iff_exists'.mp (hknows.knows.present hknows.supported)
    exact ⟨hknows.knows.mem, v, hv, fun hval => hother (hv.trans (congrArg some hval))⟩

/-- A supported publisher that fails has met another value. -/
theorem conflict_of_failed {program : List (Op K V)} {i : ι} {done todo done' : List (Op K V)}
    {op : Op K V} (hrunning : w.clients i = .running done todo)
    (hknows : Knows program w.store (w.clients i)) (hsupported : Supported program w.store)
    (h : Publishing w w') (hfailed : w'.clients i = .failed done' op) :
    op ∈ program ∧ ∃ v, w'.store op.key = some v ∧ v ≠ op.value := by
  have hinit : KnowsConflict program w.store (w.clients i) := by
    refine ⟨hknows, hsupported, fun done' op' heq => ?_⟩
    rw [hrunning] at heq
    cases heq
  have hend : KnowsConflict program w'.store (w'.clients i) :=
    client_invariant (KnowsConflict program) (fun _ _ _ => extends_of_move)
      (fun _ _ _ hs hgood => hgood.extend hs) (fun _ _ => knowsConflict_of_move) hinit h
  exact hend.conflict done' op hfailed

/-- A supported publisher whose program agrees with the store does not fail. -/
theorem not_failed_of_agrees {program : List (Op K V)} {i : ι} {done todo : List (Op K V)}
    (hrunning : w.clients i = .running done todo)
    (hknows : Knows program w.store (w.clients i)) (hsupported : Supported program w.store)
    (h : Publishing w w') (hagrees : Agrees program w'.store) (done' : List (Op K V))
    (op : Op K V) : w'.clients i ≠ .failed done' op := by
  intro hfailed
  obtain ⟨hop, v, hv, hne⟩ := conflict_of_failed hrunning hknows hsupported h hfailed
  exact hne (hagrees op hop v hv)

omit [DecidableEq ι] in
/-- One operation of a program that agrees with the store succeeds. -/
theorem exists_move_of_agrees {program done todo : List (Op K V)} {op : Op K V} {s : Store K V}
    (hknows : Knows program s (.running done (op :: todo))) (hsupported : Supported program s)
    (hagrees : Agrees program s) (hconsistent : Consistent program) :
    ∃ s', Move (s, .running done (op :: todo)) (s', .running (done ++ [op]) todo) ∧
      Agrees program s' := by
  have hop := hknows.mem
  cases op with
  | create k v =>
    cases hk : s k with
    | none =>
      refine ⟨_, .created hk, fun op' hop' v' hv' => ?_⟩
      rcases create_cases hv' with hv' | ⟨hkey, rfl⟩
      · exact hagrees op' hop' v' hv'
      · exact (hconsistent op' hop' _ hop hkey).symm
    | some v' => exact ⟨s, .existed hk, hagrees⟩
  | verify k v =>
    obtain ⟨v', hv'⟩ := Option.ne_none_iff_exists'.mp (hknows.present hsupported)
    have hval : v' = v := hagrees _ hop v' hv'
    exact ⟨s, .verified (hval ▸ hv'), hagrees⟩

omit [DecidableEq ι] in
theorem exists_moves_of_agrees {program todo : List (Op K V)} (hconsistent : Consistent program)
    {s : Store K V} {done : List (Op K V)} (hknows : Knows program s (.running done todo))
    (hsupported : Supported program s) (hagrees : Agrees program s) :
    ∃ s', Relation.ReflTransGen Move (s, .running done todo) (s', .running program []) := by
  induction todo generalizing s done with
  | nil =>
    have hdone := hknows.remains _ _ rfl
    rw [List.append_nil] at hdone
    exact ⟨s, hdone ▸ .refl⟩
  | cons op todo ih =>
    obtain ⟨s₁, hmove, hagrees₁⟩ := exists_move_of_agrees hknows hsupported hagrees hconsistent
    obtain ⟨s', hmoves⟩ := ih (knows_of_move hmove hknows)
      (hsupported.extend (extends_of_move hmove)) hagrees₁
    exact ⟨s', .head hmove hmoves⟩

/-- A publisher whose program agrees with itself and with the store can finish by its own moves. -/
theorem exists_finished {program : List (Op K V)} {i : ι} {done todo : List (Op K V)}
    (hrunning : w.clients i = .running done todo)
    (hknows : Knows program w.store (w.clients i)) (hsupported : Supported program w.store)
    (hagrees : Agrees program w.store) (hconsistent : Consistent program) :
    ∃ w', Publishing w w' ∧ w'.clients i = .running program [] := by
  rw [hrunning] at hknows
  obtain ⟨s', hmoves⟩ := exists_moves_of_agrees hconsistent hknows hsupported hagrees
  rw [← hrunning] at hmoves
  exact ⟨_, run_of_moves hmoves, Function.update_self _ _ _⟩

end Publishers

end WriteOnce
