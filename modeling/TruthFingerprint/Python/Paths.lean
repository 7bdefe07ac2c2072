import Mathlib
import TruthFingerprint.Lib.Unicode

/-!
# Paths

A pure path is a root and the parts below it, as `pathlib` keeps a POSIX path.
-/

namespace TruthFingerprint.Python

structure Path where
  root : Text
  parts : List Text
deriving DecidableEq

namespace Path

def slash : CodePoint := '/'.codePoint

/-- Two slashes are a root of their own, and more are one. -/
def rootOf (t : Text) : Text :=
  match t.takeWhile (· = slash) with
  | [] => []
  | [_, _] => [slash, slash]
  | _ => [slash]

/-- `Path(t)` -/
def ofText (t : Text) : Path where
  root := rootOf t
  parts := (t.splitOnP (· = slash)).filter fun part => part ≠ [] ∧ part ≠ text "."

/-- `str(path)` -/
def toText (path : Path) : Text :=
  if path.root = [] ∧ path.parts = [] then text "."
  else path.root ++ [slash].intercalate path.parts

/-- `path.parent` -/
def parent (path : Path) : Path := { path with parts := path.parts.dropLast }

/-- `path / t` -/
def join (path : Path) (t : Text) : Path :=
  if rootOf t = [] then { path with parts := path.parts ++ (ofText t).parts } else ofText t

example : ((ofText (text "/runs//./v2")).join (text "cells")).toText = text "/runs/v2/cells" := by
  decide

/-- `path.name` -/
def name (path : Path) : Text := path.parts.getLastD []

/-! ## Normal paths -/

/-- What a part may be -/
def IsPart (t : Text) : Prop := t ≠ [] ∧ t ≠ text "." ∧ slash ∉ t

/-- An absolute path of parts -/
structure Normal (path : Path) : Prop where
  root : path.root = [slash]
  parts : ∀ part ∈ path.parts, IsPart part

variable {path : Path} {t : Text}

theorem splitOnP_part (h : slash ∉ t) : t.splitOnP (· = slash) = [t] := by
  apply List.splitOnP_eq_singleton
  exact fun c hc => decide_eq_false fun heq => h (heq ▸ hc)

theorem ofText_part (h : IsPart t) : (ofText t).parts = [t] ∧ rootOf t = [] := by
  obtain ⟨hne, hdot, hslash⟩ := h
  constructor
  · rw [ofText, splitOnP_part hslash, List.filter_cons, if_pos (by simp [hne, hdot]), List.filter_nil]
  · cases t with
    | nil => exact absurd rfl hne
    | cons c t =>
      have hc : c ≠ slash := fun heq => hslash (heq ▸ List.mem_cons_self)
      rw [rootOf, List.takeWhile_cons_of_neg (by simpa using hc)]

theorem join_part (path : Path) (h : IsPart t) :
    path.join t = { path with parts := path.parts ++ [t] } := by
  obtain ⟨hparts, hroot⟩ := ofText_part h
  rw [join, if_pos hroot, hparts]

theorem Normal.join (h : path.Normal) (ht : IsPart t) : (path.join t).Normal := by
  rw [join_part path ht]
  refine ⟨h.root, fun part hpart => ?_⟩
  rcases List.mem_append.mp hpart with hpart | hpart
  · exact h.parts part hpart
  · exact List.mem_singleton.mp hpart ▸ ht

theorem parent_join (path : Path) (h : IsPart t) : (path.join t).parent = path := by
  rw [join_part path h, parent, List.dropLast_concat]

theorem join_injective {path path' : Path} {t t' : Text} (ht : IsPart t) (ht' : IsPart t')
    (h : path.join t = path'.join t') : path = path' ∧ t = t' := by
  have hparent := congrArg parent h
  rw [parent_join path ht, parent_join path' ht'] at hparent
  obtain rfl := hparent
  rw [join_part path ht, join_part path ht', Path.mk.injEq] at h
  exact ⟨rfl, List.singleton_inj.mp (List.append_cancel_left h.2)⟩

/-- What is between the separators has none. -/
theorem not_of_mem_splitOnP {p : CodePoint → Bool} {part : Text} (h : part ∈ t.splitOnP p) :
    ∀ c ∈ part, p c = false := by
  induction t generalizing part with
  | nil =>
    rw [List.splitOnP_nil, List.mem_singleton] at h
    exact h ▸ fun _ hc => absurd hc List.not_mem_nil
  | cons x t ih =>
    rw [List.splitOnP_cons_eq_if_modifyHead] at h
    split at h
    · rcases List.mem_cons.mp h with rfl | h
      · exact fun _ hc => absurd hc List.not_mem_nil
      · exact ih h
    next hx =>
      cases hsplit : t.splitOnP p with
      | nil => exact absurd hsplit (List.splitOnP_ne_nil p t)
      | cons first rest =>
        rw [hsplit] at ih h
        rcases List.mem_cons.mp h with rfl | h
        · exact List.forall_mem_cons.mpr ⟨Bool.not_eq_true _ ▸ hx, ih List.mem_cons_self⟩
        · exact ih (List.mem_cons_of_mem _ h)

/-- A name that is the last part of itself is one part. -/
theorem isPart_of_name (hne : t ≠ []) (h : (ofText t).name = t) : IsPart t := by
  have hmem : t ∈ (ofText t).parts := by
    rw [name] at h
    cases hparts : (ofText t).parts with
    | nil =>
      rw [hparts] at h
      exact absurd h.symm hne
    | cons part parts =>
      rw [hparts, List.getLastD_cons] at h
      rw [← h]
      exact List.getLastD_mem_cons
  obtain ⟨hsplit, hpart⟩ := List.mem_filter.mp hmem
  simp only [decide_eq_true_eq] at hpart
  refine ⟨hpart.1, hpart.2, fun hslash => ?_⟩
  exact absurd rfl (of_decide_eq_false (not_of_mem_splitOnP hsplit slash hslash))

theorem isPart_append (h : slash ∉ t) {suffix : String} (hlength : 2 ≤ suffix.toList.length)
    (hsuffix : slash ∉ text suffix) : IsPart (t ++ text suffix) := by
  have hsize : 2 ≤ (t ++ text suffix).length := by
    rw [List.length_append, text, List.length_map]
    omega
  refine ⟨fun hnil => ?_, fun hdot => ?_, fun hmem => ?_⟩
  · rw [hnil] at hsize
    exact absurd hsize (by decide)
  · rw [hdot] at hsize
    exact absurd hsize (by decide)
  · exact (List.mem_append.mp hmem).elim h hsuffix

/-- The text of a normal path is read as the path. -/
theorem ofText_toText (h : path.Normal) : ofText path.toText = path := by
  obtain ⟨root, parts⟩ := path
  obtain rfl : root = [slash] := h.root
  have hparts : ∀ part ∈ parts, IsPart part := h.parts
  have htext : toText ⟨[slash], parts⟩ = slash :: [slash].intercalate parts := by
    rw [toText, if_neg fun hroot => List.cons_ne_nil _ _ hroot.1]
    rfl
  have hsplit : (([slash].intercalate parts).splitOnP (· = slash)).filter
      (fun part => part ≠ [] ∧ part ≠ text ".") = parts := by
    cases parts with
    | nil => rfl
    | cons part parts =>
      have hinverse := List.splitOn_intercalate slash (fun part hpart => (hparts part hpart).2.2)
        (List.cons_ne_nil part parts)
      rw [List.splitOn_eq_splitOnP] at hinverse
      refine (congrArg _ hinverse).trans (List.filter_eq_self.mpr fun part hpart => ?_)
      exact decide_eq_true ⟨(hparts part hpart).1, (hparts part hpart).2.1⟩
  have hroot : rootOf (slash :: [slash].intercalate parts) = [slash] := by
    have hone : (slash :: [slash].intercalate parts).takeWhile (· = slash) = [slash] := by
      rw [List.takeWhile_cons_of_pos (by simp)]
      cases parts with
      | nil => rfl
      | cons part parts =>
        obtain ⟨hne, -, hslash⟩ := hparts part List.mem_cons_self
        cases part with
        | nil => exact absurd rfl hne
        | cons c part =>
          have hc : c ≠ slash := fun heq => hslash (heq ▸ List.mem_cons_self)
          have hhead : ∃ rest, [slash].intercalate ((c :: part) :: parts) = c :: rest := by
            cases parts with
            | nil => exact ⟨part, by simp⟩
            | cons next parts =>
              exact ⟨_, by rw [List.intercalate_cons_cons, List.cons_append, List.cons_append]⟩
          obtain ⟨rest, hrest⟩ := hhead
          rw [hrest, List.takeWhile_cons_of_neg (by simpa using hc)]
    rw [rootOf, hone]
  rw [htext, ofText, hroot, List.splitOnP_cons_eq_if_modifyHead, if_pos (by simp),
    List.filter_cons, if_neg (by simp), hsplit]

end Path

end TruthFingerprint.Python
