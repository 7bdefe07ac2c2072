import Mathlib

/-!
# Replicas that broadcast their own key

Every replica owns one key. It notes a message of its own in its view, and then sends it to all
others; a message in flight is noted by its receiver when it is delivered. What one replica sends to
another arrives in the order in which it was sent, and nothing else is assumed of the order of
steps. When keys have one owner each and nothing is in flight, all views are the same: for every key
the last message that its owner has sent (`Invariant.settled`).
-/

namespace FifoBroadcast

variable {ι K M : Type*}

structure Net (ι K M : Type*) where
  views : ι → K → Option M
  /-- Noted by its sender, but not sent. -/
  pending : ι → Option M
  /-- In flight from one replica to another, the oldest message first. -/
  queue : ι → ι → List M
  sent : ι → List M

def start : Net ι K M := ⟨fun _ _ => none, fun _ => none, fun _ _ => [], fun _ => []⟩

variable [DecidableEq ι] [DecidableEq K]

namespace Net

/-- A replica notes a message. -/
def note (n : Net ι K M) (key : M → K) (j : ι) (m : M) : ι → K → Option M :=
  Function.update n.views j (Function.update (n.views j) (key m) (some m))

def enqueue (n : Net ι K M) (i : ι) (m : M) : ι → ι → List M :=
  fun i' j => if i' = i ∧ j ≠ i then n.queue i' j ++ [m] else n.queue i' j

def dequeue (n : Net ι K M) (i j : ι) (rest : List M) : ι → ι → List M :=
  Function.update n.queue i (Function.update (n.queue i) j rest)

variable (n : Net ι K M) (key : M → K) {i i' j j' : ι} {m : M} {k : K} {rest : List M}

theorem note_self : n.note key j m j (key m) = some m := by
  rw [note, Function.update_self, Function.update_self]

theorem note_of_key_ne (h : k ≠ key m) : n.note key j m j' k = n.views j' k := by
  rw [note]
  by_cases hj : j' = j
  · rw [hj, Function.update_self, Function.update_of_ne h]
  · rw [Function.update_of_ne hj]

theorem note_of_ne (h : j' ≠ j) : n.note key j m j' k = n.views j' k := by
  rw [note, Function.update_of_ne h]

omit [DecidableEq K] in
theorem dequeue_self : n.dequeue i j rest i j = rest := by
  rw [dequeue, Function.update_self, Function.update_self]

omit [DecidableEq K] in
theorem dequeue_of_ne (h : i' ≠ i ∨ j' ≠ j) : n.dequeue i j rest i' j' = n.queue i' j' := by
  rw [dequeue]
  by_cases hi : i' = i
  · obtain rfl := hi
    rw [Function.update_self, Function.update_of_ne (h.resolve_left fun hne => hne rfl)]
  · rw [Function.update_of_ne hi]

end Net

/-- The steps of replicas whose messages have keys, and each of which owns a key. -/
inductive Step (key : M → K) (owned : ι → K) : Net ι K M → Net ι K M → Prop
  | note {n : Net ι K M} {i : ι} {m : M} (hidle : n.pending i = none) (hkey : key m = owned i) :
    Step key owned n
      { n with views := n.note key i m, pending := Function.update n.pending i (some m) }
  | send {n : Net ι K M} {i : ι} {m : M} (hpending : n.pending i = some m) :
    Step key owned n
      { n with
        pending := Function.update n.pending i none
        queue := n.enqueue i m
        sent := Function.update n.sent i (n.sent i ++ [m]) }
  | deliver {n : Net ι K M} {i j : ι} {m : M} {rest : List M} (hqueue : n.queue i j = m :: rest) :
    Step key owned n { n with views := n.note key j m, queue := n.dequeue i j rest }

/-- Everything that a replica has noted of its own. -/
def Net.accepted (n : Net ι K M) (i : ι) : List M := n.sent i ++ (n.pending i).toList

/-- What a replica has noted of its own and another one has not. -/
def Net.outstanding (n : Net ι K M) (i j : ι) : List M :=
  if i = j then [] else n.queue i j ++ (n.pending i).toList

/-- A view holds the last message that has arrived. -/
structure Invariant (key : M → K) (owned : ι → K) (n : Net ι K M) : Prop where
  noSelf : ∀ i, n.queue i i = []
  keyed : ∀ i, ∀ m ∈ n.accepted i, key m = owned i
  arrived : ∀ i j, ∃ received, n.accepted i = received ++ n.outstanding i j ∧
    n.views j (owned i) = received.getLast?
  unowned : ∀ j k, (∀ i, owned i ≠ k) → n.views j k = none

section Invariant

variable {key : M → K} {owned : ι → K} {n n' : Net ι K M}

omit [DecidableEq K] in
theorem invariant_start : Invariant key owned (start : Net ι K M) where
  noSelf _ := rfl
  keyed i m hm := by cases hm
  arrived i j := by
    refine ⟨[], ?_, rfl⟩
    rw [Net.outstanding]
    split_ifs <;> rfl
  unowned _ _ _ := rfl

/-- A replica notes a message of its own: it is outstanding for the others. -/
theorem Invariant.note (h : Invariant key owned n) (howned : Function.Injective owned) {i : ι}
    {m : M} (hidle : n.pending i = none) (hkey : key m = owned i) :
    Invariant key owned
      { n with views := n.note key i m, pending := Function.update n.pending i (some m) } := by
  have haccepted : n.accepted i = n.sent i := by
    rw [Net.accepted, hidle, Option.toList_none, List.append_nil]
  refine ⟨h.noSelf, fun i' m' hm' => ?_, fun i' j => ?_, fun j k hk => ?_⟩
  · by_cases hi : i' = i
    · obtain rfl := hi
      simp only [Net.accepted, Function.update_self, Option.toList_some] at hm'
      rcases List.mem_append.mp hm' with hm' | hm'
      · exact h.keyed _ m' (haccepted ▸ hm')
      · rw [List.mem_singleton.mp hm', hkey]
    · simp only [Net.accepted, Function.update_of_ne hi] at hm'
      exact h.keyed i' m' hm'
  · obtain ⟨received, hreceived, hview⟩ := h.arrived i' j
    by_cases hi : i' = i
    · obtain rfl := hi
      rw [haccepted] at hreceived
      by_cases hj : i' = j
      · obtain rfl := hj
        refine ⟨n.sent i' ++ [m], ?_, ?_⟩
        · simp [Net.accepted, Net.outstanding]
        · rw [List.getLast?_concat]
          exact hkey ▸ n.note_self key
      · refine ⟨received, ?_, ?_⟩
        · simp only [Net.outstanding, if_neg hj, hidle, Option.toList_none,
            List.append_nil] at hreceived
          simp [Net.accepted, Net.outstanding, if_neg hj, hreceived]
        · exact (n.note_of_ne key (Ne.symm hj)).trans hview
    · refine ⟨received, ?_, ?_⟩
      · simpa only [Net.accepted, Net.outstanding, Function.update_of_ne hi] using hreceived
      · exact (n.note_of_key_ne key (hkey ▸ howned.ne hi)).trans hview
  · exact (n.note_of_key_ne key (hkey ▸ (hk i).symm)).trans (h.unowned j k hk)

omit [DecidableEq K] in
/-- Sending a message changes neither what is accepted nor what is outstanding. -/
theorem Invariant.send (h : Invariant key owned n) {i : ι} {m : M}
    (hpending : n.pending i = some m) :
    Invariant key owned
      { n with
        pending := Function.update n.pending i none
        queue := n.enqueue i m
        sent := Function.update n.sent i (n.sent i ++ [m]) } := by
  set n' : Net ι K M := { n with
        pending := Function.update n.pending i none
        queue := n.enqueue i m
        sent := Function.update n.sent i (n.sent i ++ [m]) } with hn'
  have haccepted (i' : ι) : n'.accepted i' = n.accepted i' := by
    by_cases hi : i' = i
    · simp [hn', Net.accepted, hi, hpending]
    · simp [hn', Net.accepted, hi]
  have houtstanding (i' j : ι) : n'.outstanding i' j = n.outstanding i' j := by
    by_cases hj : i' = j
    · simp [Net.outstanding, hj]
    · by_cases hi : i' = i
      · obtain rfl := hi
        simp [hn', Net.outstanding, Net.enqueue, hpending, hj, Ne.symm hj]
      · simp [hn', Net.outstanding, Net.enqueue, hi, hj]
  refine ⟨fun i' => ?_, fun i' m' hm' => ?_, fun i' j => ?_, h.unowned⟩
  · have hself : ¬(i' = i ∧ i' ≠ i) := fun hself => hself.2 hself.1
    exact (if_neg hself).trans (h.noSelf i')
  · exact h.keyed i' m' (haccepted i' ▸ hm')
  · obtain ⟨received, hreceived, hview⟩ := h.arrived i' j
    exact ⟨received, by rw [haccepted, houtstanding, hreceived], hview⟩

/-- A message that is delivered is the oldest that its receiver has not noted. -/
theorem Invariant.deliver (h : Invariant key owned n) (howned : Function.Injective owned) {i j : ι}
    {m : M} {rest : List M} (hqueue : n.queue i j = m :: rest) :
    Invariant key owned { n with views := n.note key j m, queue := n.dequeue i j rest } := by
  have hne : i ≠ j := by
    rintro rfl
    rw [h.noSelf i] at hqueue
    cases hqueue
  have hkey : key m = owned i := by
    obtain ⟨received, hreceived, -⟩ := h.arrived i j
    refine h.keyed i m (hreceived ▸ List.mem_append_right _ ?_)
    rw [Net.outstanding, if_neg hne, hqueue]
    exact List.mem_cons_self
  refine ⟨fun i' => ?_, h.keyed, fun i' j' => ?_, fun j' k hk => ?_⟩
  · refine (n.dequeue_of_ne ?_).trans (h.noSelf i')
    by_cases hi : i' = i
    · exact .inr (hi ▸ hne)
    · exact .inl hi
  · obtain ⟨received, hreceived, hview⟩ := h.arrived i' j'
    by_cases hij : i' = i ∧ j' = j
    · obtain ⟨rfl, rfl⟩ := hij
      refine ⟨received ++ [m], ?_, ?_⟩
      · simp only [Net.outstanding, if_neg hne, hqueue] at hreceived
        simpa [Net.accepted, Net.outstanding, if_neg hne, n.dequeue_self] using hreceived
      · rw [List.getLast?_concat]
        exact hkey ▸ n.note_self key
    · have hother : i' ≠ i ∨ j' ≠ j := not_and_or.mp hij
      refine ⟨received, ?_, ?_⟩
      · simpa only [Net.accepted, Net.outstanding, n.dequeue_of_ne hother] using hreceived
      · rcases hother with hi | hj
        · exact (n.note_of_key_ne key (hkey ▸ howned.ne hi)).trans hview
        · exact (n.note_of_ne key hj).trans hview
  · exact (n.note_of_key_ne key (hkey ▸ (hk i).symm)).trans (h.unowned j' k hk)

theorem Invariant.step (h : Invariant key owned n) (howned : Function.Injective owned)
    (hstep : Step key owned n n') : Invariant key owned n' := by
  cases hstep with
  | note hidle hkey => exact h.note howned hidle hkey
  | send hpending => exact h.send hpending
  | deliver hqueue => exact h.deliver howned hqueue

theorem Invariant.run (h : Invariant key owned n) (howned : Function.Injective owned)
    (hrun : Relation.ReflTransGen (Step key owned) n n') : Invariant key owned n' := by
  induction hrun with
  | refl => exact h
  | tail _ hstep ih => exact ih.step howned hstep

omit [DecidableEq K] in
/-- When nothing is on its way to a replica, its view holds the last message of every owner. -/
theorem Invariant.settled (h : Invariant key owned n) {i j : ι} (hpending : n.pending i = none)
    (hqueue : n.queue i j = []) : n.views j (owned i) = (n.sent i).getLast? := by
  obtain ⟨received, hreceived, hview⟩ := h.arrived i j
  have hall : n.sent i = received := by
    simpa [Net.accepted, Net.outstanding, hpending, hqueue] using hreceived
  rw [hview, hall]

end Invariant

end FifoBroadcast
