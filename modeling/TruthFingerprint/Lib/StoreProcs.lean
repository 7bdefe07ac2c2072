import Mathlib
import TruthFingerprint.Lib.WriteOnce

/-!
# Programs over a write-once store

A program reads entries, creates entries, lists keys and may raise. Programs run interleaved, and one
that stops forever is one that takes no more steps. What the others may do is known: they extend the
store and keep its invariant. A program that keeps the invariant whatever the others do (`Keeps`) may
run among others that do the same (`run_keeps`).

What a program does alone is `Achieves`: it never raises, and what it returns holds of the store that
it leaves (`achieves_of_moves`, `exists_moves_of_achieves`).
-/

namespace WriteOnce

/-- A program: every continuation is given what the operation answers. -/
inductive Proc (K V ε α : Type) : Type where
  | pure (a : α)
  | raise (e : ε)
  | read (k : K) (next : Option V → Proc K V ε α)
  | create (k : K) (v : V) (next : Bool → Proc K V ε α)
  | list (p : K → Bool) (next : List K → Proc K V ε α)

namespace Proc

variable {K V ε α β : Type}

def bind (c : Proc K V ε α) (f : α → Proc K V ε β) : Proc K V ε β :=
  match c with
  | .pure a => f a
  | .raise e => .raise e
  | .read k next => .read k fun v => (next v).bind f
  | .create k v next => .create k v fun created => (next created).bind f
  | .list p next => .list p fun ks => (next ks).bind f

instance : Monad (Proc K V ε) where
  pure := .pure
  bind := bind

@[simp] theorem bind_eq (c : Proc K V ε α) (f : α → Proc K V ε β) : c >>= f = c.bind f := rfl

@[simp] theorem pure_eq (a : α) : (Pure.pure a : Proc K V ε α) = .pure a := rfl

/-- A computation without operations -/
def ofExcept : Except ε α → Proc K V ε α
  | .ok a => .pure a
  | .error e => .raise e

end Proc

/-! ## Steps -/

variable {K V ε α β : Type}

/-- The keys of the store with a property, in any order -/
def Lists (s : Store K V) (p : K → Bool) (ks : List K) : Prop :=
  ks.Nodup ∧ ∀ k, k ∈ ks ↔ p k ∧ s k ≠ none

variable [DecidableEq K]

/-- One operation of a program -/
inductive ProcMove : Store K V × Proc K V ε α → Store K V × Proc K V ε α → Prop
  | read (s k next) : ProcMove (s, .read k next) (s, next (s k))
  | created (s k v next) (h : s k = none) :
      ProcMove (s, .create k v next) (create s k v, next true)
  | existed (s k v w next) (h : s k = some w) : ProcMove (s, .create k v next) (s, next false)
  | listed (s p next ks) (h : Lists s p ks) : ProcMove (s, .list p next) (s, next ks)

theorem extends_of_procMove {c c' : Store K V × Proc K V ε α} (h : ProcMove c c') :
    Extends c.1 c'.1 := by
  cases h with
  | created => exact extends_create _ _ _
  | read | existed | listed => exact Extends.refl _

abbrev Programs (K V ε α ι : Type) := World K V ι (Proc K V ε α)

abbrev Running {ι : Type} [DecidableEq ι] : Programs K V ε α ι → Programs K V ε α ι → Prop :=
  Run fun _ => ProcMove

/-! ## Among others -/

section Keeps

variable (inv : Store K V → Prop)

/-- Whatever the others do between its operations, the program keeps the invariant, and what it
returns holds of the store. -/
def Proc.Keeps (post : α → Store K V → Prop) : Proc K V ε α → Store K V → Prop
  | .pure a, s => post a s
  | .raise _, _ => True
  | .read k next, s => ∀ s', Extends s s' → inv s' → (next (s' k)).Keeps post s'
  | .create k v next, s => ∀ s', Extends s s' → inv s' →
      (s' k = none → inv (WriteOnce.create s' k v) ∧ (next true).Keeps post (WriteOnce.create s' k v)) ∧
      ∀ w, s' k = some w → (next false).Keeps post s'
  | .list p next, s => ∀ s' ks, Extends s s' → inv s' → Lists s' p ks → (next ks).Keeps post s'

/-- It stays true when the store is extended. -/
def Stable (post : α → Store K V → Prop) : Prop :=
  ∀ a s s', Extends s s' → post a s → post a s'

variable {inv} {post post' : α → Store K V → Prop} {c : Proc K V ε α} {s s' : Store K V}

theorem Proc.Keeps.extend (hstable : Stable post) (h : c.Keeps inv post s) (hs : Extends s s') :
    c.Keeps inv post s' := by
  cases c with
  | pure a => exact hstable a s s' hs h
  | raise e => trivial
  | read k next => exact fun s'' hs' hinv => h s'' (hs.trans hs') hinv
  | create k v next => exact fun s'' hs' hinv => h s'' (hs.trans hs') hinv
  | list p next => exact fun s'' ks hs' hinv hlists => h s'' ks (hs.trans hs') hinv hlists

/-- What the first part returns is what the second part starts from. -/
theorem Proc.Keeps.bind {f : α → Proc K V ε β} {goal : β → Store K V → Prop}
    (h : c.Keeps inv post s)
    (hf : ∀ a s', Extends s s' → post a s' → (f a).Keeps inv goal s') :
    (c.bind f).Keeps inv goal s := by
  induction c generalizing s with
  | pure a => exact hf a s (Extends.refl s) h
  | raise e => trivial
  | read k next ih =>
    intro s' hs hinv
    apply ih (s' k) (h s' hs hinv)
    exact fun a s'' hs' ha => hf a s'' (hs.trans hs') ha
  | create k v next ih =>
    intro s' hs hinv
    obtain ⟨hnew, hold⟩ := h s' hs hinv
    constructor
    · intro hnone
      obtain ⟨hcreated, hnext⟩ := hnew hnone
      refine ⟨hcreated, ih true hnext ?_⟩
      exact fun a s'' hs' ha => hf a s'' ((hs.trans (extends_create s' k v)).trans hs') ha
    · intro w hw
      apply ih false (hold w hw)
      exact fun a s'' hs' ha => hf a s'' (hs.trans hs') ha
  | list p next ih =>
    intro s' ks hs hinv hlists
    apply ih ks (h s' ks hs hinv hlists)
    exact fun a s'' hs' ha => hf a s'' (hs.trans hs') ha

theorem Proc.Keeps.mono (h : c.Keeps inv post s)
    (hpost : ∀ a s', Extends s s' → post a s' → post' a s') : c.Keeps inv post' s := by
  induction c generalizing s with
  | pure a => exact hpost a s (Extends.refl s) h
  | raise e => trivial
  | read k next ih =>
    intro s' hs hinv
    apply ih (s' k) (h s' hs hinv)
    exact fun a s'' hs' ha => hpost a s'' (hs.trans hs') ha
  | create k v next ih =>
    intro s' hs hinv
    obtain ⟨hnew, hold⟩ := h s' hs hinv
    constructor
    · intro hnone
      obtain ⟨hcreated, hnext⟩ := hnew hnone
      refine ⟨hcreated, ih true hnext ?_⟩
      exact fun a s'' hs' ha => hpost a s'' ((hs.trans (extends_create s' k v)).trans hs') ha
    · intro w hw
      apply ih false (hold w hw)
      exact fun a s'' hs' ha => hpost a s'' (hs.trans hs') ha
  | list p next ih =>
    intro s' ks hs hinv hlists
    apply ih ks (h s' ks hs hinv hlists)
    exact fun a s'' hs' ha => hpost a s'' (hs.trans hs') ha

theorem Proc.keeps_ofExcept {e : Except ε α} (h : ∀ a, e = .ok a → post a s) :
    (Proc.ofExcept e : Proc K V ε α).Keeps inv post s := by
  cases e with
  | ok a => exact h a rfl
  | error e => trivial

/-- What follows a computation without operations may use its result. -/
theorem Proc.keeps_ofExcept_bind {e : Except ε α} {f : α → Proc K V ε β}
    {goal : β → Store K V → Prop} (h : ∀ a, e = .ok a → (f a).Keeps inv goal s) :
    ((Proc.ofExcept e : Proc K V ε α).bind f).Keeps inv goal s := by
  cases e with
  | ok a => exact h a rfl
  | error e => trivial

/-- A loop keeps the invariant when its body does. -/
theorem Proc.keeps_forM {f : β → Proc K V ε Unit} {done : Unit → Store K V → Prop} {xs : List β}
    (hdone : ∀ s', Extends s s' → done () s')
    (h : ∀ x ∈ xs, ∀ s', Extends s s' → (f x).Keeps inv done s') :
    (xs.forM f).Keeps inv done s := by
  induction xs generalizing s with
  | nil => exact hdone s (Extends.refl s)
  | cons x xs ih =>
    refine (h x List.mem_cons_self s (Extends.refl s)).bind fun _ s' hs _ => ih ?_ ?_
    · exact fun s'' hs' => hdone s'' (hs.trans hs')
    · exact fun y hy s'' hs' => h y (List.mem_cons_of_mem x hy) s'' (hs.trans hs')

/-- One operation keeps the invariant, and what is left keeps it. -/
theorem keeps_of_procMove {c c' : Store K V × Proc K V ε α} (hmove : ProcMove c c')
    (hinv : inv c.1) (h : c.2.Keeps inv post c.1) : inv c'.1 ∧ c'.2.Keeps inv post c'.1 := by
  cases hmove with
  | read => exact ⟨hinv, h _ (Extends.refl _) hinv⟩
  | created s k v next hnone => exact (h _ (Extends.refl _) hinv).1 hnone
  | existed s k v w next hw => exact ⟨hinv, (h _ (Extends.refl _) hinv).2 w hw⟩
  | listed s p next ks hlists => exact ⟨hinv, h _ ks (Extends.refl _) hinv hlists⟩

variable {ι : Type} [DecidableEq ι] {goal : ι → α → Store K V → Prop}
  {w w' : Programs K V ε α ι}

/-- **Programs that keep the invariant may run together.** -/
theorem run_keeps (hstable : ∀ i, Stable (goal i)) (hrun : Running w w') (hinv : inv w.store)
    (h : ∀ i, (w.clients i).Keeps inv (goal i) w.store) :
    inv w'.store ∧ ∀ i, (w'.clients i).Keeps inv (goal i) w'.store := by
  induction hrun with
  | refl => exact ⟨hinv, h⟩
  | @tail w₁ _ _ hstep ih =>
    obtain ⟨hinv, h⟩ := ih
    obtain ⟨i, store, c, hmove, rfl⟩ := hstep
    obtain ⟨hinv', hc⟩ := keeps_of_procMove hmove hinv (h i)
    refine ⟨hinv', fun j => ?_⟩
    change (Function.update w₁.clients i c j).Keeps inv (goal j) store
    by_cases hj : j = i
    · obtain rfl := hj
      rw [Function.update_self]
      exact hc
    · rw [Function.update_of_ne hj]
      exact (h j).extend (hstable j) (extends_of_procMove hmove)

end Keeps

/-! ## Alone -/

section Achieves

variable {post post' : α → Store K V → Prop} {c : Proc K V ε α} {s s' : Store K V}

/-- Without the others, the program does not raise, and what it returns holds of the store. -/
def Proc.Achieves (post : α → Store K V → Prop) : Proc K V ε α → Store K V → Prop
  | .pure a, s => post a s
  | .raise _, _ => False
  | .read k next, s => (next (s k)).Achieves post s
  | .create k v next, s => (s k = none → (next true).Achieves post (WriteOnce.create s k v)) ∧
      ∀ w, s k = some w → (next false).Achieves post s
  | .list p next, s => ∀ ks, Lists s p ks → (next ks).Achieves post s

theorem Proc.Achieves.bind {f : α → Proc K V ε β} {goal : β → Store K V → Prop}
    (h : c.Achieves post s) (hf : ∀ a s', Extends s s' → post a s' → (f a).Achieves goal s') :
    (c.bind f).Achieves goal s := by
  induction c generalizing s with
  | pure a => exact hf a s (Extends.refl s) h
  | raise e => exact h.elim
  | read k next ih => exact ih (s k) h hf
  | create k v next ih =>
    constructor
    · intro hnone
      apply ih true (h.1 hnone)
      exact fun a s' hs ha => hf a s' ((extends_create s k v).trans hs) ha
    · exact fun w hw => ih false (h.2 w hw) hf
  | list p next ih => exact fun ks hlists => ih ks (h ks hlists) hf

theorem Proc.Achieves.mono (h : c.Achieves post s)
    (hpost : ∀ a s', Extends s s' → post a s' → post' a s') : c.Achieves post' s := by
  induction c generalizing s with
  | pure a => exact hpost a s (Extends.refl s) h
  | raise e => exact h.elim
  | read k next ih => exact ih (s k) h hpost
  | create k v next ih =>
    constructor
    · intro hnone
      apply ih true (h.1 hnone)
      exact fun a s' hs ha => hpost a s' ((extends_create s k v).trans hs) ha
    · exact fun w hw => ih false (h.2 w hw) hpost
  | list p next ih => exact fun ks hlists => ih ks (h ks hlists) hpost

/-- What a program that keeps the invariant achieves, it achieves with the invariant. -/
theorem Proc.Achieves.and_keeps {inv : Store K V → Prop} (h : c.Achieves post s)
    (hkeeps : c.Keeps inv post' s) (hinv : inv s) :
    c.Achieves (fun a s' => post a s' ∧ post' a s' ∧ inv s') s := by
  induction c generalizing s with
  | pure a => exact ⟨h, hkeeps, hinv⟩
  | raise e => exact h.elim
  | read k next ih => exact ih (s k) h (hkeeps s (Extends.refl s) hinv) hinv
  | create k v next ih =>
    obtain ⟨hnew, hold⟩ := hkeeps s (Extends.refl s) hinv
    constructor
    · intro hnone
      obtain ⟨hcreated, hnext⟩ := hnew hnone
      exact ih true (h.1 hnone) hnext hcreated
    · exact fun w hw => ih false (h.2 w hw) (hold w hw) hinv
  | list p next ih =>
    exact fun ks hlists => ih ks (h ks hlists) (hkeeps s ks (Extends.refl s) hinv hlists) hinv

theorem Proc.achieves_ofExcept {e : Except ε α} {a : α} (h : e = .ok a) (ha : post a s) :
    (Proc.ofExcept e : Proc K V ε α).Achieves post s := by
  subst h
  exact ha

theorem Proc.achieves_ofExcept_bind {e : Except ε α} {a : α} {f : α → Proc K V ε β}
    {goal : β → Store K V → Prop} (h : e = .ok a) (hf : (f a).Achieves goal s) :
    ((Proc.ofExcept e : Proc K V ε α).bind f).Achieves goal s := by
  subst h
  exact hf

/-- A loop achieves for every item what its body achieves for it, if that lasts. -/
theorem Proc.achieves_forM {inv : Store K V → Prop} {f : β → Proc K V ε Unit}
    {done : β → Store K V → Prop} {xs : List β} (hinv : inv s)
    (hstable : ∀ x ∈ xs, ∀ s s', Extends s s' → done x s → done x s')
    (h : ∀ x ∈ xs, ∀ s', Extends s s' → inv s' →
      (f x).Achieves (fun _ s'' => done x s'' ∧ inv s'') s') :
    (xs.forM f).Achieves (fun _ s' => ∀ x ∈ xs, done x s') s := by
  induction xs generalizing s with
  | nil => exact fun x hx => absurd hx List.not_mem_nil
  | cons x xs ih =>
    obtain ⟨hx, hxs⟩ := List.forall_mem_cons.mp hstable
    refine (h x List.mem_cons_self s (Extends.refl s) hinv).bind fun _ s' hs hdone => ?_
    refine (ih hdone.2 hxs fun y hy s'' hs' => ?_).mono fun _ s'' hs' hall => ?_
    · exact h y (List.mem_cons_of_mem x hy) s'' (hs.trans hs')
    · exact List.forall_mem_cons.mpr ⟨hx s' s'' hs' hdone.1, hall⟩

/-- A program that achieves something goes on to achieve it. -/
theorem achieves_of_moves {c c' : Store K V × Proc K V ε α}
    (hmoves : Relation.ReflTransGen ProcMove c c') (h : c.2.Achieves post c.1) :
    c'.2.Achieves post c'.1 := by
  induction hmoves with
  | refl => exact h
  | tail _ hmove ih =>
    cases hmove with
    | read => exact ih
    | created s k v next hnone => exact ih.1 hnone
    | existed s k v w next hw => exact ih.2 w hw
    | listed s p next ks hlists => exact ih ks hlists

omit [DecidableEq K] in
theorem exists_lists (hfinite : {k | s k ≠ none}.Finite) (p : K → Bool) : ∃ ks, Lists s p ks := by
  have hkeys : {k | p k ∧ s k ≠ none}.Finite := hfinite.subset fun k hk => hk.2
  refine ⟨hkeys.toFinset.toList, Finset.nodup_toList _, fun k => ?_⟩
  rw [Finset.mem_toList, Set.Finite.mem_toFinset]
  rfl

theorem finite_create (hfinite : {k | s k ≠ none}.Finite) (k : K) (v : V) :
    {k' | create s k v k' ≠ none}.Finite := by
  refine (hfinite.insert k).subset fun k' hk' => ?_
  obtain ⟨v', hv'⟩ := Option.ne_none_iff_exists'.mp hk'
  rcases create_cases hv' with hold | ⟨rfl, -⟩
  · exact Set.mem_insert_of_mem k (hold.trans_ne (Option.some_ne_none v'))
  · exact Set.mem_insert k' _

/-- On a store with finitely many entries it returns. -/
theorem exists_moves_of_achieves (hfinite : {k | s k ≠ none}.Finite) (h : c.Achieves post s) :
    ∃ a s', Relation.ReflTransGen ProcMove (s, c) (s', .pure a) ∧ Extends s s' ∧ post a s' := by
  induction c generalizing s with
  | pure a => exact ⟨a, s, .refl, Extends.refl s, h⟩
  | raise e => exact h.elim
  | read k next ih =>
    obtain ⟨a, s', hmoves, hs, ha⟩ := ih (s k) hfinite h
    exact ⟨a, s', .head (.read s k next) hmoves, hs, ha⟩
  | create k v next ih =>
    cases hk : s k with
    | none =>
      obtain ⟨a, s', hmoves, hs, ha⟩ := ih true (finite_create hfinite k v) (h.1 hk)
      exact ⟨a, s', .head (.created s k v next hk) hmoves, (extends_create s k v).trans hs, ha⟩
    | some w =>
      obtain ⟨a, s', hmoves, hs, ha⟩ := ih false hfinite (h.2 w hk)
      exact ⟨a, s', .head (.existed s k v w next hk) hmoves, hs, ha⟩
  | list p next ih =>
    obtain ⟨ks, hlists⟩ := exists_lists hfinite p
    obtain ⟨a, s', hmoves, hs, ha⟩ := ih ks hfinite (h ks hlists)
    exact ⟨a, s', .head (.listed s p next ks hlists) hmoves, hs, ha⟩

variable {ι : Type} [DecidableEq ι] {w w' : Programs K V ε α ι}

theorem finite_of_run (hrun : Running w w') (hfinite : {k | w.store k ≠ none}.Finite) :
    {k | w'.store k ≠ none}.Finite := by
  induction hrun with
  | refl => exact hfinite
  | tail _ hstep ih =>
    obtain ⟨i, store, c, hmove, rfl⟩ := hstep
    generalize hc : (_, _) = before at hmove
    cases hmove with
    | created s k v next hnone =>
      obtain rfl := (Prod.mk.inj hc).1
      exact finite_create ih k v
    | read | existed | listed =>
      obtain rfl := (Prod.mk.inj hc).1
      exact ih

end Achieves

end WriteOnce
