import Mathlib

/-!
# JSON documents

Documents over a type of numbers `N`, the numbers that occur in one, and its text, compact or
indented. How a number and a string are written is a parameter of the text (`Json.Style`). Fields
keep their order, and a reader takes the last field with a name (`Json.field`).
-/

universe u

inductive Json (N : Type u) where
  | null
  | bool (b : Bool)
  | int (i : Int)
  | num (n : N)
  | str (s : String)
  | arr (items : List (Json N))
  | obj (fields : List (String × Json N))

namespace Json

variable {N : Type u}

/-! ## Numbers -/

mutual
/-- The numbers of a document. -/
def numbers : Json N → List N
  | .num n => [n]
  | .arr items => numbersOfItems items
  | .obj fields => numbersOfFields fields
  | .null | .bool _ | .int _ | .str _ => []
termination_by structural j => j

def numbersOfItems : List (Json N) → List N
  | [] => []
  | j :: js => numbers j ++ numbersOfItems js
termination_by structural js => js

def numbersOfFields : List (String × Json N) → List N
  | [] => []
  | f :: fs => numbersOfField f ++ numbersOfFields fs
termination_by structural fs => fs

def numbersOfField : String × Json N → List N
  | (_, j) => numbers j
termination_by structural f => f
end

@[simp] theorem numbers_null : (null : Json N).numbers = [] := rfl

@[simp] theorem numbers_int : (int i : Json N).numbers = [] := rfl

@[simp] theorem numbers_num {n : N} : (num n).numbers = [n] := rfl

@[simp] theorem numbers_str : (str s : Json N).numbers = [] := rfl

@[simp] theorem mem_numbers_arr {items : List (Json N)} :
    n ∈ (arr items).numbers ↔ ∃ j ∈ items, n ∈ j.numbers := by
  change n ∈ numbersOfItems items ↔ _
  induction items with
  | nil => simp [numbersOfItems]
  | cons j js ih => simp [numbersOfItems, ih]

@[simp] theorem mem_numbers_obj {fields : List (String × Json N)} :
    n ∈ (obj fields).numbers ↔ ∃ f ∈ fields, n ∈ f.2.numbers := by
  change n ∈ numbersOfFields fields ↔ _
  induction fields with
  | nil => simp [numbersOfFields]
  | cons f fs ih =>
    obtain ⟨name, j⟩ := f
    simp [numbersOfFields, numbersOfField, ih]

/-! ## Text -/

/-- How numbers and strings are written. -/
structure Style (N : Type u) where
  number : N → List Char
  string : String → List Char

section Text

variable (style : Style N)

mutual
/-- The text without any white space. -/
def compact : Json N → List Char
  | .null => "null".toList
  | .bool b => (toString b).toList
  | .int i => (toString i).toList
  | .num n => style.number n
  | .str s => style.string s
  | .arr items => '[' :: compactItems items ++ [']']
  | .obj fields => '\x7b' :: compactFields fields ++ ['\x7d']
termination_by structural j => j

def compactItems : List (Json N) → List Char
  | [] => []
  | j :: js => compact j ++ (if js.isEmpty then [] else ',' :: compactItems js)
termination_by structural js => js

def compactFields : List (String × Json N) → List Char
  | [] => []
  | f :: fs => compactField f ++ (if fs.isEmpty then [] else ',' :: compactFields fs)
termination_by structural fs => fs

def compactField : String × Json N → List Char
  | (name, j) => style.string name ++ ':' :: compact j
termination_by structural f => f
end

/-- A line break and `depth` steps of indentation. -/
def newline (indent : List Char) (depth : Nat) : List Char :=
  '\n' :: (List.replicate depth indent).flatten

mutual
/-- The text with every item and field on a line of its own. -/
def indented (indent : List Char) : Json N → Nat → List Char
  | .null, _ => "null".toList
  | .bool b, _ => (toString b).toList
  | .int i, _ => (toString i).toList
  | .num n, _ => style.number n
  | .str s, _ => style.string s
  | .arr items, depth =>
    if items.isEmpty then "[]".toList
    else '[' :: indentedItems indent items (depth + 1) ++ newline indent depth ++ [']']
  | .obj fields, depth =>
    if fields.isEmpty then ['\x7b', '\x7d']
    else '\x7b' :: indentedFields indent fields (depth + 1) ++ newline indent depth ++ ['\x7d']
termination_by structural j => j

def indentedItems (indent : List Char) : List (Json N) → Nat → List Char
  | [], _ => []
  | j :: js, depth =>
    newline indent depth ++ indented indent j depth ++
      (if js.isEmpty then [] else ',' :: indentedItems indent js depth)
termination_by structural js => js

def indentedFields (indent : List Char) : List (String × Json N) → Nat → List Char
  | [], _ => []
  | f :: fs, depth =>
    newline indent depth ++ indentedField indent f depth ++
      (if fs.isEmpty then [] else ',' :: indentedFields indent fs depth)
termination_by structural fs => fs

def indentedField (indent : List Char) : String × Json N → Nat → List Char
  | (name, j), depth => style.string name ++ ':' :: ' ' :: indented indent j depth
termination_by structural f => f
end

end Text

/-! ## Fields -/

section Fields

variable {fields fields' : List (String × Json N)} {name : String} {j : Json N}

/-- The value that a reader of `fields` finds under a name: the last one. -/
def field (fields : List (String × Json N)) (name : String) : Option (Json N) :=
  (fields.reverse.find? (·.1 = name)).map (·.2)

/-- With names that are all different, a reader finds every field. -/
theorem field_eq_some_iff (h : (fields.map (·.1)).Nodup) :
    field fields name = some j ↔ (name, j) ∈ fields := by
  rw [field, Option.map_eq_some_iff]
  constructor
  · rintro ⟨⟨name', j'⟩, hfind, rfl⟩
    obtain rfl : name' = name := by simpa using List.find?_some hfind
    exact List.mem_reverse.mp (List.mem_of_find?_eq_some hfind)
  · intro hmem
    obtain ⟨f, hf⟩ : ∃ f, fields.reverse.find? (·.1 = name) = some f :=
      Option.isSome_iff_exists.mp <|
        List.find?_isSome.mpr ⟨_, List.mem_reverse.mpr hmem, by simp⟩
    have hname : f.1 = name := by simpa using List.find?_some hf
    have heq := List.inj_on_of_nodup_map h (List.mem_reverse.mp (List.mem_of_find?_eq_some hf)) hmem
      hname
    exact ⟨f, hf, by rw [heq]⟩

/-- What a reader finds does not depend on the order of fields with different names. -/
theorem field_perm (hperm : fields.Perm fields') (h : (fields.map (·.1)).Nodup) :
    field fields name = field fields' name := by
  have h' : (fields'.map (·.1)).Nodup := (hperm.map _).nodup_iff.mp h
  refine Option.ext fun j => ?_
  rw [field_eq_some_iff h, field_eq_some_iff h', hperm.mem_iff]

end Fields

end Json
