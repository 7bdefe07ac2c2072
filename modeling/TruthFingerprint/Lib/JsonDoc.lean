import Mathlib
import TruthFingerprint.Lib.Unicode
import TruthFingerprint.Lib.Sorting

/-!
# JSON documents

A document keeps the members of an object in a list. What a language makes of a number is a
parameter. `Doc.sortKeys` is the form that encoders with sorted keys print: it is the same for two
documents that list their members in different orders (`Doc.sortKeys_eq_of_reordered`).
-/

inductive Doc (N : Type) where
  | null
  | bool (b : Bool)
  | num (n : N)
  | str (s : Text)
  | arr (items : List (Doc N))
  | obj (members : List (Text × Doc N))

namespace Doc

variable {N M : Type}

/-- Induction over the items of arrays and the members of objects. -/
theorem induction {P : Doc N → Prop} (null : P .null) (bool : ∀ b, P (.bool b))
    (num : ∀ n, P (.num n)) (str : ∀ s, P (.str s))
    (arr : ∀ items, (∀ d ∈ items, P d) → P (.arr items))
    (obj : ∀ members, (∀ m ∈ members, P m.2) → P (.obj members)) (d : Doc N) : P d := by
  refine @Doc.rec N P (fun items => ∀ d ∈ items, P d) (fun members => ∀ m ∈ members, P m.2)
    (fun m => P m.2) null bool num str arr obj ?_ ?_ ?_ ?_ ?_ d
  · simp
  · exact fun _ _ hd hitems => List.forall_mem_cons.mpr ⟨hd, hitems⟩
  · simp
  · exact fun _ _ hm hmembers => List.forall_mem_cons.mpr ⟨hm, hmembers⟩
  · exact fun _ _ hd => hd

mutual
/-- The document with its numbers and texts replaced. -/
def map (f : N → M) (g : Text → Text) : Doc N → Doc M
  | .null => .null
  | .bool b => .bool b
  | .num n => .num (f n)
  | .str s => .str (g s)
  | .arr items => .arr (mapItems f g items)
  | .obj members => .obj (mapMembers f g members)
termination_by structural d => d

def mapItems (f : N → M) (g : Text → Text) : List (Doc N) → List (Doc M)
  | [] => []
  | d :: ds => map f g d :: mapItems f g ds
termination_by structural ds => ds

def mapMembers (f : N → M) (g : Text → Text) : List (Text × Doc N) → List (Text × Doc M)
  | [] => []
  | m :: ms => mapMember f g m :: mapMembers f g ms
termination_by structural ms => ms

def mapMember (f : N → M) (g : Text → Text) : Text × Doc N → Text × Doc M
  | (name, d) => (g name, map f g d)
termination_by structural m => m
end

theorem mapItems_eq (f : N → M) (g : Text → Text) (ds : List (Doc N)) :
    mapItems f g ds = ds.map (map f g) := by
  induction ds with
  | nil => rfl
  | cons d ds ih => rw [mapItems, ih, List.map_cons]

theorem mapMembers_eq (f : N → M) (g : Text → Text) (ms : List (Text × Doc N)) :
    mapMembers f g ms = ms.map fun m => (g m.1, map f g m.2) := by
  induction ms with
  | nil => rfl
  | cons m ms ih => rw [mapMembers, ih, List.map_cons, mapMember]

@[simp] theorem map_arr (f : N → M) (g : Text → Text) (ds : List (Doc N)) :
    map f g (.arr ds) = .arr (ds.map (map f g)) := by rw [map, mapItems_eq]

@[simp] theorem map_obj (f : N → M) (g : Text → Text) (ms : List (Text × Doc N)) :
    map f g (.obj ms) = .obj (ms.map fun m => (g m.1, map f g m.2)) := by rw [map, mapMembers_eq]

mutual
/-- Every number, and every text and name, is as required. -/
def All (p : N → Prop) (q : Text → Prop) : Doc N → Prop
  | .null | .bool _ => True
  | .num n => p n
  | .str s => q s
  | .arr items => AllItems p q items
  | .obj members => AllMembers p q members
termination_by structural d => d

def AllItems (p : N → Prop) (q : Text → Prop) : List (Doc N) → Prop
  | [] => True
  | d :: ds => All p q d ∧ AllItems p q ds
termination_by structural ds => ds

def AllMembers (p : N → Prop) (q : Text → Prop) : List (Text × Doc N) → Prop
  | [] => True
  | m :: ms => AllMember p q m ∧ AllMembers p q ms
termination_by structural ms => ms

def AllMember (p : N → Prop) (q : Text → Prop) : Text × Doc N → Prop
  | (name, d) => q name ∧ All p q d
termination_by structural m => m
end

@[simp] theorem all_null {p : N → Prop} {q : Text → Prop} : All p q .null := trivial

@[simp] theorem all_bool {p : N → Prop} {q : Text → Prop} {b : Bool} : All p q (.bool b) := trivial

@[simp] theorem all_num {p : N → Prop} {q : Text → Prop} {n : N} : All p q (.num n) ↔ p n := Iff.rfl

@[simp] theorem all_str {p : N → Prop} {q : Text → Prop} {s : Text} : All p q (.str s) ↔ q s :=
  Iff.rfl

@[simp] theorem all_arr {p : N → Prop} {q : Text → Prop} {ds : List (Doc N)} :
    All p q (.arr ds) ↔ ∀ d ∈ ds, All p q d := by
  rw [All]
  induction ds with
  | nil => simp [AllItems]
  | cons d ds ih => simp [AllItems, ih]

@[simp] theorem all_obj {p : N → Prop} {q : Text → Prop} {ms : List (Text × Doc N)} :
    All p q (.obj ms) ↔ ∀ m ∈ ms, q m.1 ∧ All p q m.2 := by
  rw [All]
  induction ms with
  | nil => simp [AllMembers]
  | cons m ms ih =>
    obtain ⟨name, d⟩ := m
    simp [AllMembers, AllMember, ih]

section DecidableAll

variable {p : N → Prop} {q : Text → Prop} [DecidablePred p] [DecidablePred q]

mutual
def decAll : (d : Doc N) → Decidable (All p q d)
  | .null | .bool _ => isTrue trivial
  | .num n => inferInstanceAs (Decidable (p n))
  | .str s => inferInstanceAs (Decidable (q s))
  | .arr items => decAllItems items
  | .obj members => decAllMembers members
termination_by structural d => d

def decAllItems : (ds : List (Doc N)) → Decidable (AllItems p q ds)
  | [] => isTrue trivial
  | d :: ds => @instDecidableAnd _ _ (decAll d) (decAllItems ds)
termination_by structural ds => ds

def decAllMembers : (ms : List (Text × Doc N)) → Decidable (AllMembers p q ms)
  | [] => isTrue trivial
  | m :: ms => @instDecidableAnd _ _ (decAllMember m) (decAllMembers ms)
termination_by structural ms => ms

def decAllMember : (m : Text × Doc N) → Decidable (AllMember p q m)
  | (name, d) => @instDecidableAnd _ _ (inferInstanceAs (Decidable (q name))) (decAll d)
termination_by structural m => m
end

instance : DecidablePred (All p q) := decAll

end DecidableAll

theorem All.imp {p p' : N → Prop} {q q' : Text → Prop} (hp : ∀ n, p n → p' n)
    (hq : ∀ s, q s → q' s) (d : Doc N) (h : d.All p q) : d.All p' q' := by
  induction d using Doc.induction with
  | null => trivial
  | bool b => trivial
  | num n => exact hp n h
  | str s => exact hq s h
  | arr items ih =>
    rw [all_arr] at h ⊢
    exact fun d hd => ih d hd (h d hd)
  | obj members ih =>
    rw [all_obj] at h ⊢
    exact fun m hm => ⟨hq _ (h m hm).1, ih m hm (h m hm).2⟩

theorem map_congr {f f' : N → M} {g g' : Text → Text} (d : Doc N)
    (h : d.All (fun n => f n = f' n) fun s => g s = g' s) : d.map f g = d.map f' g' := by
  induction d using Doc.induction with
  | null => rfl
  | bool b => rfl
  | num n => exact congrArg Doc.num h
  | str s => exact congrArg Doc.str h
  | arr items ih =>
    rw [all_arr] at h
    rw [map_arr, map_arr, List.map_congr_left fun d hd => ih d hd (h d hd)]
  | obj members ih =>
    rw [all_obj] at h
    rw [map_obj, map_obj]
    congr 1
    exact List.map_congr_left fun m hm => by rw [(h m hm).1, ih m hm (h m hm).2]

@[simp] theorem map_id_id (d : Doc N) : d.map id id = d := by
  induction d using Doc.induction with
  | null | bool | num | str => rfl
  | arr items ih => rw [map_arr, List.map_congr_left ih, List.map_id']
  | obj members ih =>
    rw [map_obj, List.map_congr_left (g := id) fun m hm => by rw [ih m hm, id, id],
      List.map_id]

theorem all_map {p : M → Prop} {q : Text → Prop} (f : N → M) (g : Text → Text) (d : Doc N) :
    (d.map f g).All p q ↔ d.All (fun n => p (f n)) fun s => q (g s) := by
  induction d using Doc.induction with
  | null | bool | num | str => rfl
  | arr items ih =>
    simp only [map_arr, all_arr, List.forall_mem_map]
    exact forall₂_congr ih
  | obj members ih =>
    simp only [map_obj, all_obj, List.forall_mem_map]
    exact forall₂_congr fun m hm => and_congr_right fun _ => ih m hm

theorem map_map {L : Type} (f : N → M) (f' : M → L) (g g' : Text → Text) (d : Doc N) :
    (d.map f g).map f' g' = d.map (f' ∘ f) (g' ∘ g) := by
  induction d using Doc.induction with
  | null | bool | num | str => rfl
  | arr items ih =>
    rw [map_arr, map_arr, map_arr, List.map_map]
    congr 1
    exact List.map_congr_left ih
  | obj members ih =>
    rw [map_obj, map_obj, map_obj, List.map_map]
    congr 1
    exact List.map_congr_left fun m hm => by simp only [Function.comp_apply, ih m hm]

/-! ## Objects -/

/-- The member of a name, or null. -/
def get (members : List (Text × Doc N)) (name : Text) : Doc N :=
  (members.lookup name).getD .null

/-- The names of the members are those of the list. -/
def HasExactly (members : List (Text × Doc N)) (names : List Text) : Prop :=
  (∀ name ∈ names, name ∈ members.map Prod.fst) ∧ ∀ name ∈ members.map Prod.fst, name ∈ names

instance (members : List (Text × Doc N)) (names : List Text) :
    Decidable (HasExactly members names) := inferInstanceAs (Decidable (_ ∧ _))

mutual
/-- No object has two members of one name. -/
def UniqueNames : Doc N → Prop
  | .arr items => UniqueNamesItems items
  | .obj members => (members.map Prod.fst).Nodup ∧ UniqueNamesMembers members
  | _ => True
termination_by structural d => d

def UniqueNamesItems : List (Doc N) → Prop
  | [] => True
  | d :: ds => UniqueNames d ∧ UniqueNamesItems ds
termination_by structural ds => ds

def UniqueNamesMembers : List (Text × Doc N) → Prop
  | [] => True
  | m :: ms => UniqueNamesMember m ∧ UniqueNamesMembers ms
termination_by structural ms => ms

def UniqueNamesMember : Text × Doc N → Prop
  | (_, d) => UniqueNames d
termination_by structural m => m
end

mutual
def decUniqueNames : (d : Doc N) → Decidable (UniqueNames d)
  | .null | .bool _ | .num _ | .str _ => isTrue trivial
  | .arr items => decUniqueNamesItems items
  | .obj members =>
    @instDecidableAnd _ _ (inferInstanceAs (Decidable (List.Nodup _)))
      (decUniqueNamesMembers members)
termination_by structural d => d

def decUniqueNamesItems : (ds : List (Doc N)) → Decidable (UniqueNamesItems ds)
  | [] => isTrue trivial
  | d :: ds => @instDecidableAnd _ _ (decUniqueNames d) (decUniqueNamesItems ds)
termination_by structural ds => ds

def decUniqueNamesMembers : (ms : List (Text × Doc N)) → Decidable (UniqueNamesMembers ms)
  | [] => isTrue trivial
  | m :: ms => @instDecidableAnd _ _ (decUniqueNamesMember m) (decUniqueNamesMembers ms)
termination_by structural ms => ms

def decUniqueNamesMember : (m : Text × Doc N) → Decidable (UniqueNamesMember m)
  | (_, d) => decUniqueNames d
termination_by structural m => m
end

instance : DecidablePred (UniqueNames (N := N)) := decUniqueNames

@[simp] theorem uniqueNames_null : UniqueNames (.null : Doc N) := trivial

@[simp] theorem uniqueNames_bool {b : Bool} : UniqueNames (.bool b : Doc N) := trivial

@[simp] theorem uniqueNames_num {n : N} : UniqueNames (.num n) := trivial

@[simp] theorem uniqueNames_str {s : Text} : UniqueNames (.str s : Doc N) := trivial

@[simp] theorem uniqueNames_arr {ds : List (Doc N)} :
    UniqueNames (.arr ds) ↔ ∀ d ∈ ds, UniqueNames d := by
  rw [UniqueNames]
  induction ds with
  | nil => simp [UniqueNamesItems]
  | cons d ds ih => simp [UniqueNamesItems, ih]

@[simp] theorem uniqueNames_obj {ms : List (Text × Doc N)} :
    UniqueNames (.obj ms) ↔ (ms.map Prod.fst).Nodup ∧ ∀ m ∈ ms, UniqueNames m.2 := by
  rw [UniqueNames]
  refine and_congr Iff.rfl ?_
  induction ms with
  | nil => simp [UniqueNamesMembers]
  | cons m ms ih =>
    obtain ⟨name, d⟩ := m
    simp [UniqueNamesMembers, UniqueNamesMember, ih]

/-! ## Sorted names -/

/-- The members in the order of their names. -/
def sortMembers (members : List (Text × Doc N)) : List (Text × Doc N) :=
  members.insertionSort (·.1 ≤ ·.1)

mutual
/-- The document with the members of every object in the order of their names. -/
def sortKeys : Doc N → Doc N
  | .arr items => .arr (sortKeysItems items)
  | .obj members => .obj (sortMembers (sortKeysMembers members))
  | d => d
termination_by structural d => d

def sortKeysItems : List (Doc N) → List (Doc N)
  | [] => []
  | d :: ds => sortKeys d :: sortKeysItems ds
termination_by structural ds => ds

def sortKeysMembers : List (Text × Doc N) → List (Text × Doc N)
  | [] => []
  | m :: ms => sortKeysMember m :: sortKeysMembers ms
termination_by structural ms => ms

def sortKeysMember : Text × Doc N → Text × Doc N
  | (name, d) => (name, sortKeys d)
termination_by structural m => m
end

@[simp] theorem sortKeys_arr (ds : List (Doc N)) :
    sortKeys (.arr ds) = .arr (ds.map sortKeys) := by
  rw [sortKeys]
  congr 1
  induction ds with
  | nil => rfl
  | cons d ds ih => rw [sortKeysItems, ih, List.map_cons]

@[simp] theorem sortKeys_obj (ms : List (Text × Doc N)) :
    sortKeys (.obj ms) = .obj (sortMembers (ms.map fun m => (m.1, sortKeys m.2))) := by
  rw [sortKeys]
  congr 2
  induction ms with
  | nil => rfl
  | cons m ms ih => rw [sortKeysMembers, ih, List.map_cons, sortKeysMember]

theorem get_of_mem {members : List (Text × Doc N)} (hnodup : (members.map Prod.fst).Nodup)
    {m : Text × Doc N} (hm : m ∈ members) : get members m.1 = m.2 := by
  induction members with
  | nil => exact absurd hm List.not_mem_nil
  | cons m' ms ih =>
    obtain ⟨name', d'⟩ := m'
    rw [List.map_cons, List.nodup_cons] at hnodup
    rcases List.mem_cons.mp hm with rfl | hm
    · simp [get, List.lookup]
    · have hne : (m.1 == name') = false := by
        rw [beq_eq_false_iff_ne]
        intro heq
        exact hnodup.1 (List.mem_map.mpr ⟨m, hm, heq⟩)
      have hrest := ih hnodup.2 hm
      rwa [get, List.lookup, hne]

theorem sortMembers_eq_of_perm {xs ys : List (Text × Doc N)} (hnodup : (xs.map Prod.fst).Nodup)
    (h : xs.Perm ys) : sortMembers xs = sortMembers ys :=
  List.insertionSort_eq_of_perm Prod.fst (fun _ _ _ _ => Iff.rfl)
    (fun _ hx _ hy heq => List.inj_on_of_nodup_map hnodup hx hy heq) h

/-- Documents with the same members in different orders. -/
theorem sortKeys_eq_of_reordered {members rows : List (Text × Doc N)}
    (hmembers : (members.map Prod.fst).Nodup) (hrows : (rows.map Prod.fst).Nodup)
    (hnames : HasExactly members (rows.map Prod.fst))
    (hget : ∀ row ∈ rows, sortKeys (get members row.1) = sortKeys row.2) :
    sortKeys (.obj members) = sortKeys (.obj rows) := by
  rw [sortKeys_obj, sortKeys_obj]
  congr 1
  have hmem (m : Text × Doc N) : m ∈ members.map (fun m => (m.1, sortKeys m.2)) ↔
      m ∈ rows.map (fun row => (row.1, sortKeys row.2)) := by
    simp only [List.mem_map]
    constructor
    · rintro ⟨m, hm, rfl⟩
      obtain ⟨row, hrow, hname⟩ := List.mem_map.mp (hnames.2 _ (List.mem_map_of_mem hm))
      have := hget row hrow
      rw [hname, get_of_mem hmembers hm] at this
      exact ⟨row, hrow, by rw [hname, this]⟩
    · rintro ⟨row, hrow, rfl⟩
      obtain ⟨m, hm, hname⟩ := List.mem_map.mp (hnames.1 _ (List.mem_map_of_mem hrow))
      have := hget row hrow
      rw [← hname, get_of_mem hmembers hm] at this
      exact ⟨m, hm, by rw [hname, this]⟩
  have hfst (xs : List (Text × Doc N)) :
      (xs.map fun m => (m.1, sortKeys m.2)).map Prod.fst = xs.map Prod.fst := by
    rw [List.map_map]
    rfl
  have hnodup {xs : List (Text × Doc N)} (h : (xs.map Prod.fst).Nodup) :
      (xs.map fun m => (m.1, sortKeys m.2)).Nodup := .of_map Prod.fst (by rwa [hfst])
  exact sortMembers_eq_of_perm (by rwa [hfst])
    ((List.perm_ext_iff_of_nodup (hnodup hmembers) (hnodup hrows)).mpr hmem)

theorem mem_sortMembers {members : List (Text × Doc N)} {m : Text × Doc N} :
    m ∈ sortMembers members ↔ m ∈ members :=
  List.mem_insertionSort _

theorem get_eq_null {members : List (Text × Doc N)} {name : Text}
    (h : name ∉ members.map Prod.fst) : get members name = .null := by
  have hnone : members.lookup name = none := by
    rw [List.lookup_eq_none_iff]
    intro m hm
    rw [bne_iff_ne]
    rintro rfl
    exact h (List.mem_map_of_mem hm)
  rw [get, hnone]
  rfl

/-- Objects are the same up to the order of members when they have the same names, and at each of
them the same documents. -/
theorem sortKeys_obj_eq_iff {members rows : List (Text × Doc N)}
    (hmembers : (members.map Prod.fst).Nodup) (hrows : (rows.map Prod.fst).Nodup) :
    sortKeys (.obj members) = sortKeys (.obj rows) ↔ HasExactly members (rows.map Prod.fst) ∧
      ∀ row ∈ rows, sortKeys (get members row.1) = sortKeys row.2 := by
  refine ⟨fun h => ?_, fun h => sortKeys_eq_of_reordered hmembers hrows h.1 h.2⟩
  rw [sortKeys_obj, sortKeys_obj, Doc.obj.injEq] at h
  have hmem (m : Text × Doc N) : m ∈ members.map (fun m => (m.1, sortKeys m.2)) ↔
      m ∈ rows.map (fun row => (row.1, sortKeys row.2)) := by
    rw [← mem_sortMembers, h, mem_sortMembers]
  have hto (row : Text × Doc N) (hrow : row ∈ rows) :
      ∃ m ∈ members, m.1 = row.1 ∧ sortKeys m.2 = sortKeys row.2 := by
    obtain ⟨m, hm, heq⟩ := List.mem_map.mp ((hmem _).mpr (List.mem_map_of_mem hrow))
    exact ⟨m, hm, (Prod.mk.inj heq).1, (Prod.mk.inj heq).2⟩
  refine ⟨⟨fun name hname => ?_, fun name hname => ?_⟩, fun row hrow => ?_⟩
  · obtain ⟨row, hrow, rfl⟩ := List.mem_map.mp hname
    obtain ⟨m, hm, heq, -⟩ := hto row hrow
    exact heq ▸ List.mem_map_of_mem hm
  · obtain ⟨m, hm, rfl⟩ := List.mem_map.mp hname
    obtain ⟨row, hrow, heq⟩ := List.mem_map.mp ((hmem _).mp (List.mem_map_of_mem hm))
    exact List.mem_map.mpr ⟨row, hrow, (Prod.mk.inj heq).1⟩
  · obtain ⟨m, hm, hname, hdoc⟩ := hto row hrow
    rw [← hname, get_of_mem hmembers hm, hdoc]

theorem map_get_names {members : List (Text × Doc N)} (hnodup : (members.map Prod.fst).Nodup)
    (f : Doc N → Doc M) :
    (members.map Prod.fst).map (fun name => f (get members name)) =
      members.map fun m => f m.2 := by
  rw [List.map_map]
  exact List.map_congr_left fun m hm => congrArg f (get_of_mem hnodup hm)

/-- Objects that list the same names in one order. -/
theorem sortKeys_obj_eq_iff_map {members rows : List (Text × Doc N)} {names : List Text}
    (hmembers : members.map Prod.fst = names) (hrows : rows.map Prod.fst = names)
    (hnodup : names.Nodup) : sortKeys (.obj members) = sortKeys (.obj rows) ↔
      members.map (fun m => sortKeys m.2) = rows.map fun row => sortKeys row.2 := by
  have hm : (members.map Prod.fst).Nodup := hmembers ▸ hnodup
  have hr : (rows.map Prod.fst).Nodup := hrows ▸ hnodup
  rw [sortKeys_obj_eq_iff hm hr, ← map_get_names hm, ← map_get_names hr, hmembers, hrows,
    List.map_inj_left]
  constructor
  · rintro ⟨-, hget⟩ name hname
    obtain ⟨row, hrow, rfl⟩ := List.mem_map.mp (hrows ▸ hname)
    rw [hget row hrow, get_of_mem hr hrow]
  · intro h
    refine ⟨⟨fun _ hname => hmembers ▸ hname, fun _ hname => hmembers ▸ hname⟩, fun row hrow => ?_⟩
    rw [h row.1 (hrows ▸ List.mem_map_of_mem hrow), get_of_mem hr hrow]

theorem uniqueNames_get {members : List (Text × Doc N)} (h : UniqueNames (.obj members))
    (name : Text) : UniqueNames (get members name) := by
  rw [uniqueNames_obj] at h
  by_cases hname : name ∈ members.map Prod.fst
  · obtain ⟨m, hm, rfl⟩ := List.mem_map.mp hname
    rw [get_of_mem h.1 hm]
    exact h.2 m hm
  · rw [get_eq_null hname]
    trivial

theorem get_filter {members : List (Text × Doc N)} {p : Text → Bool} {name : Text} (h : p name) :
    get (members.filter fun m => p m.1) name = get members name := by
  unfold get
  congr 1
  induction members with
  | nil => rfl
  | cons m ms ih =>
    obtain ⟨name', d⟩ := m
    by_cases hp : p name'
    · rw [List.filter_cons, if_pos hp, List.lookup, List.lookup, ih]
    · have hne : (name == name') = false := by
        rw [beq_eq_false_iff_ne]
        rintro rfl
        exact hp h
      rw [List.filter_cons, if_neg hp, ih, List.lookup, hne]

/-- Leaving out members by their names. -/
theorem sortKeys_filter_eq {members rows : List (Text × Doc N)}
    (hmembers : (members.map Prod.fst).Nodup) (hrows : (rows.map Prod.fst).Nodup)
    (h : sortKeys (.obj members) = sortKeys (.obj rows)) (p : Text → Bool) :
    sortKeys (.obj (members.filter fun m => p m.1)) =
      sortKeys (.obj (rows.filter fun m => p m.1)) := by
  have hfst (ms : List (Text × Doc N)) :
      (ms.filter fun m => p m.1).map Prod.fst = (ms.map Prod.fst).filter p := by
    rw [List.filter_map]
    rfl
  obtain ⟨hexactly, hget⟩ := (sortKeys_obj_eq_iff hmembers hrows).mp h
  refine (sortKeys_obj_eq_iff ?_ ?_).mpr ⟨⟨fun name hname => ?_, fun name hname => ?_⟩, ?_⟩
  · rw [hfst]
    exact hmembers.filter p
  · rw [hfst]
    exact hrows.filter p
  · rw [hfst, List.mem_filter] at hname ⊢
    exact ⟨hexactly.1 name hname.1, hname.2⟩
  · rw [hfst, List.mem_filter] at hname ⊢
    exact ⟨hexactly.2 name hname.1, hname.2⟩
  · intro row hrow
    obtain ⟨hrow, hp⟩ := List.mem_filter.mp hrow
    rw [get_filter hp]
    exact hget row hrow

theorem all_sortKeys {p : N → Prop} {q : Text → Prop} (d : Doc N) :
    d.sortKeys.All p q ↔ d.All p q := by
  induction d using Doc.induction with
  | null | bool | num | str => rfl
  | arr items ih =>
    simp only [sortKeys_arr, all_arr, List.forall_mem_map]
    exact forall₂_congr ih
  | obj members ih =>
    simp only [sortKeys_obj, all_obj, mem_sortMembers, List.forall_mem_map]
    exact forall₂_congr fun m hm => and_congr_right fun _ => ih m hm

theorem map_fst_sortMembers_perm (members : List (Text × Doc N)) :
    ((sortMembers (members.map fun m => (m.1, sortKeys m.2))).map Prod.fst).Perm
      (members.map Prod.fst) := by
  have h := (List.perm_insertionSort (·.1 ≤ ·.1)
    (members.map fun m => (m.1, sortKeys m.2))).map Prod.fst
  rwa [List.map_map] at h

theorem uniqueNames_sortKeys (d : Doc N) : d.sortKeys.UniqueNames ↔ d.UniqueNames := by
  induction d using Doc.induction with
  | null | bool | num | str => rfl
  | arr items ih =>
    simp only [sortKeys_arr, uniqueNames_arr, List.forall_mem_map]
    exact forall₂_congr ih
  | obj members ih =>
    simp only [sortKeys_obj, uniqueNames_obj, mem_sortMembers, List.forall_mem_map,
      (map_fst_sortMembers_perm members).nodup_iff]
    exact and_congr_right fun _ => forall₂_congr ih

theorem pairwise_sortMembers (members : List (Text × Doc N)) :
    (sortMembers members).Pairwise (·.1 ≤ ·.1) :=
  List.pairwise_insertionSort_of_key Prod.fst fun _ _ _ _ => Iff.rfl

/-- Sorted names are sorted already. -/
theorem sortKeys_sortKeys (d : Doc N) : d.sortKeys.sortKeys = d.sortKeys := by
  induction d using Doc.induction with
  | null | bool | num | str => rfl
  | arr items ih =>
    rw [sortKeys_arr, sortKeys_arr, List.map_map]
    congr 1
    exact List.map_congr_left ih
  | obj members ih =>
    rw [sortKeys_obj, sortKeys_obj]
    have hsame : ∀ m ∈ sortMembers (members.map fun m => (m.1, sortKeys m.2)),
        (m.1, sortKeys m.2) = m := by
      intro m hm
      obtain ⟨m', hm', rfl⟩ := List.mem_map.mp (mem_sortMembers.mp hm)
      exact congrArg (m'.1, ·) (ih m' hm')
    rw [List.map_congr_left hsame, List.map_id']
    congr 1
    exact (pairwise_sortMembers _).insertionSort_eq

section Scalars

variable {d : Doc N}

theorem sortKeys_eq_str {s : Text} : sortKeys d = .str s ↔ d = .str s := by
  cases d <;> simp [sortKeys]

theorem sortKeys_eq_num {n : N} : sortKeys d = .num n ↔ d = .num n := by
  cases d <;> simp [sortKeys]

theorem sortKeys_eq_arr {items : List (Doc N)} :
    sortKeys d = .arr items ↔ ∃ items', d = .arr items' ∧ items'.map sortKeys = items := by
  cases d with
  | arr items' => simp [sortKeys_arr]
  | _ => simp [sortKeys]

theorem exists_of_sortKeys_eq_obj {rows : List (Text × Doc N)}
    (h : sortKeys d = sortKeys (.obj rows)) : ∃ members, d = .obj members := by
  rw [sortKeys_obj] at h
  cases d with
  | obj members => exact ⟨members, rfl⟩
  | arr items => exact absurd h (by simp)
  | _ => exact absurd h (by simp [sortKeys])

/-- A list of texts does not depend on the order of members. -/
theorem sortKeys_eq_texts {ts : List Text} :
    sortKeys d = .arr (ts.map .str) ↔ d = .arr (ts.map .str) := by
  rw [sortKeys_eq_arr]
  constructor
  · rintro ⟨items, rfl, h⟩
    congr 1
    induction items generalizing ts with
    | nil => simpa using h
    | cons d ds ih =>
      obtain _ | ⟨t, ts⟩ := ts
      · simp at h
      · rw [List.map_cons, List.map_cons, List.cons.injEq, sortKeys_eq_str] at h
        rw [List.map_cons, h.1, ih h.2]
  · rintro rfl
    exact ⟨_, rfl, by rw [List.map_map]; rfl⟩

end Scalars

theorem sortMembers_map (f : Doc N → Doc M) (ms : List (Text × Doc N)) :
    sortMembers (ms.map fun m => (m.1, f m.2)) = (sortMembers ms).map fun m => (m.1, f m.2) :=
  (List.map_insertionSort (fun a b : Text × Doc N => a.1 ≤ b.1)
    (fun a b : Text × Doc M => a.1 ≤ b.1) (fun m => (m.1, f m.2)) ms fun _ _ _ _ => Iff.rfl).symm

/-- Replacing the numbers of a document keeps its names. -/
theorem sortKeys_map (f : N → M) (d : Doc N) : (d.map f id).sortKeys = d.sortKeys.map f id := by
  induction d using Doc.induction with
  | null | bool | num | str => rfl
  | arr items ih =>
    simp only [map_arr, sortKeys_arr, List.map_map]
    congr 1
    exact List.map_congr_left ih
  | obj members ih =>
    simp only [map_obj, sortKeys_obj, List.map_map, id]
    rw [← sortMembers_map, List.map_map]
    congr 2
    exact List.map_congr_left fun m hm => by simp only [Function.comp_apply, ih m hm]

end Doc
