import Mathlib

/-!
# Files that are published by a link

Files are written under a staging name and then linked into a directory of their own, from where
they are read. A name stands for a file, and what is written to the file is seen through every name
of it. A directory holds one file at most, and is removed only while it holds none.
-/

namespace LinkedFiles

variable {N D F B : Type*}

structure Files (N D F B : Type*) where
  staging : N → Option F
  directory : D → Bool
  final : D → Option F
  content : F → List B

namespace Files

variable (fs : Files N D F B) {n m : N} {d e : D} {f g : F} {b : B}

def empty : Files N D F B := ⟨fun _ => none, fun _ => false, fun _ => none, fun _ => []⟩

/-- What is read from a directory -/
def read (d : D) : Option (List B) := (fs.final d).map fs.content

/-! ## Staged files -/

section Create

variable [DecidableEq N] [DecidableEq F]

def create (n : N) (f : F) : Files N D F B :=
  { fs with
    staging := Function.update fs.staging n (some f)
    content := Function.update fs.content f [] }

@[simp] theorem create_directory : (fs.create n f).directory = fs.directory := rfl

@[simp] theorem create_final : (fs.create n f).final = fs.final := rfl

@[simp] theorem create_staging_self : (fs.create n f).staging n = some f :=
  Function.update_self ..

@[simp] theorem create_content_self : (fs.create n f).content f = [] := Function.update_self ..

theorem create_staging_of_ne (h : m ≠ n) : (fs.create n f).staging m = fs.staging m :=
  Function.update_of_ne h ..

theorem create_content_of_ne (h : g ≠ f) : (fs.create n f).content g = fs.content g :=
  Function.update_of_ne h ..

end Create

section Append

variable [DecidableEq F]

def append (f : F) (b : B) : Files N D F B :=
  { fs with content := Function.update fs.content f (fs.content f ++ [b]) }

@[simp] theorem append_staging : (fs.append f b).staging = fs.staging := rfl

@[simp] theorem append_directory : (fs.append f b).directory = fs.directory := rfl

@[simp] theorem append_final : (fs.append f b).final = fs.final := rfl

@[simp] theorem append_content_self : (fs.append f b).content f = fs.content f ++ [b] :=
  Function.update_self ..

theorem append_content_of_ne (h : g ≠ f) : (fs.append f b).content g = fs.content g :=
  Function.update_of_ne h ..

end Append

section Unlink

variable [DecidableEq N]

def unlink (n : N) : Files N D F B := { fs with staging := Function.update fs.staging n none }

@[simp] theorem unlink_directory : (fs.unlink n).directory = fs.directory := rfl

@[simp] theorem unlink_final : (fs.unlink n).final = fs.final := rfl

@[simp] theorem unlink_content : (fs.unlink n).content = fs.content := rfl

@[simp] theorem unlink_staging_self : (fs.unlink n).staging n = none := Function.update_self ..

theorem unlink_staging_of_ne (h : m ≠ n) : (fs.unlink n).staging m = fs.staging m :=
  Function.update_of_ne h ..

end Unlink

/-! ## Directories -/

section Directories

variable [DecidableEq D]

def mkdir (d : D) : Files N D F B := { fs with directory := Function.update fs.directory d true }

def rmdir (d : D) : Files N D F B := { fs with directory := Function.update fs.directory d false }

def link (f : F) (d : D) : Files N D F B :=
  { fs with final := Function.update fs.final d (some f) }

@[simp] theorem mkdir_staging : (fs.mkdir d).staging = fs.staging := rfl

@[simp] theorem mkdir_final : (fs.mkdir d).final = fs.final := rfl

@[simp] theorem mkdir_content : (fs.mkdir d).content = fs.content := rfl

@[simp] theorem mkdir_directory_self : (fs.mkdir d).directory d = true := Function.update_self ..

theorem mkdir_directory_of_ne (h : e ≠ d) : (fs.mkdir d).directory e = fs.directory e :=
  Function.update_of_ne h ..

@[simp] theorem rmdir_staging : (fs.rmdir d).staging = fs.staging := rfl

@[simp] theorem rmdir_final : (fs.rmdir d).final = fs.final := rfl

@[simp] theorem rmdir_content : (fs.rmdir d).content = fs.content := rfl

@[simp] theorem rmdir_directory_self : (fs.rmdir d).directory d = false := Function.update_self ..

theorem rmdir_directory_of_ne (h : e ≠ d) : (fs.rmdir d).directory e = fs.directory e :=
  Function.update_of_ne h ..

@[simp] theorem link_staging : (fs.link f d).staging = fs.staging := rfl

@[simp] theorem link_directory : (fs.link f d).directory = fs.directory := rfl

@[simp] theorem link_content : (fs.link f d).content = fs.content := rfl

@[simp] theorem link_final_self : (fs.link f d).final d = some f := Function.update_self ..

theorem link_final_of_ne (h : e ≠ d) : (fs.link f d).final e = fs.final e :=
  Function.update_of_ne h ..

end Directories

end Files

end LinkedFiles
