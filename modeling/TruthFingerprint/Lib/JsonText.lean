import Mathlib
import TruthFingerprint.Lib.JsonDoc

/-!
# JSON texts

A parser for JSON texts and a printer without white space. The parser leaves numbers as literals
and keeps the members of an object as they are written, so that a language can read both in its own
way. The printer writes a code point as the language escapes it.

The parser reads back what the printer writes (`parse_render`), up to the surrogates that the
escapes of a string join (`reread`).
-/

namespace JsonText

/-! ## Characters -/

def quote : CodePoint := '"'.codePoint
def backslash : CodePoint := '\\'.codePoint
def openBracket : CodePoint := '['.codePoint
def closeBracket : CodePoint := ']'.codePoint
def openBrace : CodePoint := '\x7b'.codePoint
def closeBrace : CodePoint := '\x7d'.codePoint
def comma : CodePoint := ','.codePoint
def colon : CodePoint := ':'.codePoint

def isSpace (c : CodePoint) : Bool :=
  c = ' '.codePoint || c = '\t'.codePoint || c = '\n'.codePoint || c = '\r'.codePoint

def isDigit (c : CodePoint) : Bool := '0'.codePoint ≤ c && c ≤ '9'.codePoint

/-- What a number may contain. -/
def isNumberChar (c : CodePoint) : Bool :=
  isDigit c || c = '-'.codePoint || c = '+'.codePoint || c = '.'.codePoint || c = 'e'.codePoint ||
    c = 'E'.codePoint

def skipSpace (t : Text) : Text := t.dropWhile isSpace

/-! ## Numbers -/

def exponentOk : Text → Bool
  | [] => true
  | e :: t =>
    (e = 'e'.codePoint || e = 'E'.codePoint) &&
      match t with
      | [] => false
      | s :: t' =>
        if s = '+'.codePoint || s = '-'.codePoint then !t'.isEmpty && t'.all isDigit
        else t.all isDigit

def fractionOk : Text → Bool
  | [] => true
  | c :: t =>
    if c = '.'.codePoint then
      !(t.takeWhile isDigit).isEmpty && exponentOk (t.dropWhile isDigit)
    else exponentOk (c :: t)

def unsignedOk (t : Text) : Bool :=
  match t.takeWhile isDigit with
  | [] => false
  | d :: ds => (ds.isEmpty || d ≠ '0'.codePoint) && fractionOk (t.dropWhile isDigit)

/-- A literal of the grammar of numbers. -/
def isNumber : Text → Bool
  | [] => false
  | c :: t => if c = '-'.codePoint then unsignedOk t else unsignedOk (c :: t)

/-! ## Strings -/

def hexValue (c : CodePoint) : Option Nat :=
  if isDigit c then some (c.val - 0x30)
  else if 'a'.codePoint ≤ c && c ≤ 'f'.codePoint then some (c.val - 0x57)
  else if 'A'.codePoint ≤ c && c ≤ 'F'.codePoint then some (c.val - 0x37)
  else none

/-- The code unit of four digits. -/
def codeUnit (a b c d : CodePoint) : Option CodePoint := do
  let a ← hexValue a
  let b ← hexValue b
  let c ← hexValue c
  let d ← hexValue d
  pure (Fin.ofNat _ (a * 0x1000 + b * 0x100 + c * 0x10 + d))

def simpleEscape (c : CodePoint) : Option CodePoint :=
  if c = quote || c = backslash || c = '/'.codePoint then some c
  else if c = 'b'.codePoint then some 8
  else if c = 'f'.codePoint then some 12
  else if c = 'n'.codePoint then some 10
  else if c = 'r'.codePoint then some 13
  else if c = 't'.codePoint then some 9
  else none

/-- A code point of a string, and whether it is written as a code unit. -/
abbrev Scanned := CodePoint × Bool

def prepend (us : List Scanned) (r : List Scanned × Text) : List Scanned × Text := (us ++ r.1, r.2)

/-- The rest of a string after its opening quote, and what follows its closing quote. -/
def lexString : Text → Option (List Scanned × Text)
  | [] => none
  | c :: t =>
    if c = quote then some ([], t)
    else if c = backslash then
      match t with
      | [] => none
      | e :: t =>
        if e = 'u'.codePoint then
          match t with
          | a :: b :: c :: d :: t =>
            match codeUnit a b c d with
            | none => none
            | some u => (lexString t).map (prepend [(u, true)])
          | _ => none
        else
          match simpleEscape e with
          | none => none
          | some u => (lexString t).map (prepend [(u, false)])
    else if c.val < 0x20 then none
    else (lexString t).map (prepend [(c, false)])

def joined (high low : CodePoint) : CodePoint :=
  Fin.ofNat _ (0x10000 + (high.val - 0xd800) * 0x400 + (low.val - 0xdc00))

/-- Two surrogates that are written as code units are one code point. -/
def joinUnits : List Scanned → Text
  | (high, true) :: (low, true) :: us =>
    if high.isHighSurrogate && low.isLowSurrogate then joined high low :: joinUnits us
    else high :: joinUnits ((low, true) :: us)
  | u :: us => u.1 :: joinUnits us
  | [] => []

/-! ## Values -/

/-- The prefix of `t` that may be a number. -/
def lexNumber (t : Text) : Option (Doc Text × Text) :=
  let literal := t.takeWhile isNumberChar
  if isNumber literal then some (.num literal, t.dropWhile isNumberChar) else none

def lexWord (word : Text) (d : Doc Text) (t : Text) : Option (Doc Text × Text) :=
  if word <+: t then some (d, t.drop word.length) else none

mutual
def parseValue : Nat → Text → Option (Doc Text × Text)
  | 0, _ => none
  | fuel + 1, t =>
    match skipSpace t with
    | [] => none
    | c :: t =>
      if c = quote then (lexString t).map fun (us, t) => (.str (joinUnits us), t)
      else if c = openBracket then
        match skipSpace t with
        | [] => none
        | c :: t' =>
          if c = closeBracket then some (.arr [], t')
          else (parseItems fuel t).map fun (items, t) => (.arr items, t)
      else if c = openBrace then
        match skipSpace t with
        | [] => none
        | c :: t' =>
          if c = closeBrace then some (.obj [], t')
          else (parseMembers fuel t).map fun (members, t) => (.obj members, t)
      else if c = 't'.codePoint then lexWord (text "true") (.bool true) (c :: t)
      else if c = 'f'.codePoint then lexWord (text "false") (.bool false) (c :: t)
      else if c = 'n'.codePoint then lexWord (text "null") .null (c :: t)
      else lexNumber (c :: t)
termination_by structural fuel => fuel

/-- The items of an array up to its end. -/
def parseItems : Nat → Text → Option (List (Doc Text) × Text)
  | 0, _ => none
  | fuel + 1, t => do
    let (d, t) ← parseValue fuel t
    match skipSpace t with
    | [] => none
    | c :: t =>
      if c = closeBracket then some ([d], t)
      else if c = comma then
        let (ds, t) ← parseItems fuel t
        some (d :: ds, t)
      else none
termination_by structural fuel => fuel

/-- The members of an object up to its end. -/
def parseMembers : Nat → Text → Option (List (Text × Doc Text) × Text)
  | 0, _ => none
  | fuel + 1, t =>
    match skipSpace t with
    | [] => none
    | q :: t =>
      if q = quote then do
        let (us, t) ← lexString t
        match skipSpace t with
        | [] => none
        | c :: t =>
          if c = colon then do
            let (d, t) ← parseValue fuel t
            match skipSpace t with
            | [] => none
            | c :: t =>
              if c = closeBrace then some ([(joinUnits us, d)], t)
              else if c = comma then
                let (ms, t) ← parseMembers fuel t
                some ((joinUnits us, d) :: ms, t)
              else none
          else none
      else none
termination_by structural fuel => fuel
end

/-- The document that a text spells. -/
def parse (t : Text) : Option (Doc Text) :=
  match parseValue (t.length + 1) t with
  | some (d, rest) => if skipSpace rest = [] then some d else none
  | none => none

/-! ## Printing -/

section Printing

variable (escape : CodePoint → Text)

def renderString (s : Text) : Text := quote :: s.flatMap escape ++ [quote]

mutual
/-- The text of a document without white space. -/
def render : Doc Text → Text
  | .null => text "null"
  | .bool b => if b then text "true" else text "false"
  | .num literal => literal
  | .str s => renderString escape s
  | .arr items => openBracket :: renderItems items ++ [closeBracket]
  | .obj members => openBrace :: renderMembers members ++ [closeBrace]
termination_by structural d => d

def renderItems : List (Doc Text) → Text
  | [] => []
  | d :: ds => render d ++ (if ds.isEmpty then [] else comma :: renderItems ds)
termination_by structural ds => ds

def renderMembers : List (Text × Doc Text) → Text
  | [] => []
  | m :: ms => renderMember m ++ (if ms.isEmpty then [] else comma :: renderMembers ms)
termination_by structural ms => ms

def renderMember : Text × Doc Text → Text
  | (name, d) => renderString escape name ++ colon :: render d
termination_by structural m => m
end

end Printing

/-! ## Reading back what is printed -/

theorem takeWhile_append_of_head {p : CodePoint → Bool} {s t : Text} (hs : ∀ c ∈ s, p c)
    (ht : ∀ c ∈ t.head?, p c = false) :
    (s ++ t).takeWhile p = s ∧ (s ++ t).dropWhile p = t := by
  induction s with
  | nil =>
    cases t with
    | nil => simp
    | cons c t => simp [ht c (by simp)]
  | cons c s ih =>
    obtain ⟨hc, hs⟩ := List.forall_mem_cons.mp hs
    simp [hc, ih hs]

/-- What may follow a value: no more of a number. -/
def Follows (rest : Text) : Prop := ∀ c ∈ rest.head?, isNumberChar c = false

theorem follows_cons (h : isNumberChar c = false) : Follows (c :: rest) := by
  intro c' hc
  obtain rfl : c = c' := by simpa using hc
  exact h

theorem follows_nil : Follows [] := by simp [Follows]

/-- A literal that is a number, made of the characters of numbers. -/
def IsLiteral (literal : Text) : Prop := isNumber literal ∧ ∀ c ∈ literal, isNumberChar c

theorem lexNumber_append (h : IsLiteral literal) (hrest : Follows rest) :
    lexNumber (literal ++ rest) = some (.num literal, rest) := by
  obtain ⟨htake, hdrop⟩ := takeWhile_append_of_head h.2 hrest
  simp [lexNumber, htake, hdrop, h.1]

theorem lexWord_append (word : Text) (d : Doc Text) (rest : Text) :
    lexWord word d (word ++ rest) = some (d, rest) := by
  simp [lexWord]

/-- How the scanner sees the code points of a string that is written with `escape`. -/
structure Escaping (escape : CodePoint → Text) (scanned : CodePoint → List Scanned) : Prop where
  lex : ∀ c t, lexString (escape c ++ t) = (lexString t).map (prepend (scanned c))

section Escaping

variable {escape : CodePoint → Text} {scanned : CodePoint → List Scanned}

theorem lexString_quote (t : Text) : lexString (quote :: t) = some ([], t) := by
  rw [lexString.eq_def]
  exact if_pos rfl

theorem Escaping.lexString_flatMap (h : Escaping escape scanned) (s rest : Text) :
    lexString (s.flatMap escape ++ quote :: rest) = some (s.flatMap scanned, rest) := by
  induction s with
  | nil => rw [List.flatMap_nil, List.nil_append, lexString_quote, List.flatMap_nil]
  | cons c s ih =>
    rw [List.flatMap_cons, List.append_assoc, h.lex, ih, List.flatMap_cons]
    rfl

/-- What the reader makes of a string. -/
def reread (scanned : CodePoint → List Scanned) (s : Text) : Text := joinUnits (s.flatMap scanned)

theorem skipSpace_cons_of_not (hc : isSpace c = false) : skipSpace (c :: t) = c :: t := by
  simp [skipSpace, hc]

theorem IsLiteral.exists_eq_cons (h : IsLiteral literal) :
    ∃ c t, literal = c :: t ∧ isNumberChar c := by
  cases literal with
  | nil => exact absurd h.1 (by simp [isNumber])
  | cons c t => exact ⟨c, t, rfl, h.2 c (by simp)⟩

theorem isNumberChar_iff {c : CodePoint} : isNumberChar c ↔
    (0x30 ≤ c.val ∧ c.val ≤ 0x39) ∨ c.val = 0x2d ∨ c.val = 0x2b ∨ c.val = 0x2e ∨ c.val = 0x65 ∨
      c.val = 0x45 := by
  simp [isNumberChar, isDigit, Fin.ext_iff, Fin.le_def, Char.codePoint, or_assoc]

variable (escape) in
/-- A printed document does not start with white space or the end of an array or object. -/
theorem exists_render_eq_cons (d : Doc Text) (hd : d.All IsLiteral fun _ => True) :
    ∃ c t, render escape d = c :: t ∧ isSpace c = false ∧ c ≠ closeBracket := by
  cases d with
  | null => exact ⟨_, _, rfl, by decide, by decide⟩
  | bool b => cases b <;> exact ⟨_, _, rfl, by decide, by decide⟩
  | num literal =>
    obtain ⟨c, t, rfl, hc⟩ := IsLiteral.exists_eq_cons hd
    rw [isNumberChar_iff] at hc
    refine ⟨c, t, rfl, ?_, ?_⟩
    · simp [isSpace, Fin.ext_iff, Char.codePoint]
      omega
    · simp [closeBracket, Fin.ext_iff, Char.codePoint]
      omega
  | str s => exact ⟨_, _, rfl, by decide, by decide⟩
  | arr items => exact ⟨_, _, rfl, by decide, by decide⟩
  | obj members => exact ⟨_, _, rfl, by decide, by decide⟩

theorem not_length_render_le_zero (hd : d.All IsLiteral fun _ => True) :
    ¬(render escape d).length ≤ 0 := by
  obtain ⟨c, t, h, -⟩ := exists_render_eq_cons escape d hd
  simp [h]

theorem parseValue_num (h : IsLiteral literal) (hrest : Follows rest) :
    parseValue (fuel + 1) (literal ++ rest) = some (.num literal, rest) := by
  obtain ⟨c, t, rfl, hc⟩ := h.exists_eq_cons
  rw [isNumberChar_iff] at hc
  have hspace : isSpace c = false := by
    simp [isSpace, Fin.ext_iff, Char.codePoint]
    omega
  have hlex := lexNumber_append h hrest
  rw [List.cons_append] at hlex ⊢
  have hne (k : CodePoint) (hk : isNumberChar k = false) : c ≠ k := by
    rintro rfl
    rw [← Bool.not_eq_true, isNumberChar_iff] at hk
    exact hk hc
  rw [parseValue, skipSpace_cons_of_not hspace]
  simp only [hne quote (by decide), hne openBracket (by decide), hne openBrace (by decide),
    hne 't'.codePoint (by decide), hne 'f'.codePoint (by decide), hne 'n'.codePoint (by decide),
    if_false, hlex]

/-- What a document of the printer is parsed as, with enough fuel. -/
def ParsesAs (escape : CodePoint → Text) (scanned : CodePoint → List Scanned) (d : Doc Text) :
    Prop :=
  ∀ fuel rest, (render escape d).length ≤ fuel → Follows rest →
    parseValue fuel (render escape d ++ rest) = some (d.map id (reread scanned), rest)

theorem parseItems_renderItems (items : List (Doc Text)) (hne : items ≠ [])
    (hitems : ∀ d ∈ items, d.All IsLiteral (fun _ => True) ∧ ParsesAs escape scanned d) (fuel rest)
    (hfuel : (renderItems escape items).length < fuel) :
    parseItems fuel (renderItems escape items ++ closeBracket :: rest) =
      some (items.map (Doc.map id (reread scanned)), rest) := by
  induction items generalizing fuel with
  | nil => exact absurd rfl hne
  | cons d ds ih =>
    obtain ⟨⟨-, hd⟩, hds⟩ := List.forall_mem_cons.mp hitems
    obtain _ | fuel := fuel
    · exact absurd hfuel (by omega)
    cases ds with
    | nil =>
      simp only [renderItems, List.isEmpty_nil, if_true, List.append_nil] at hfuel ⊢
      rw [parseItems, hd fuel _ (by omega) (follows_cons (by decide))]
      simp only [Option.bind_eq_bind, Option.bind_some,
        skipSpace_cons_of_not (show isSpace closeBracket = false by decide), if_true,
        List.map_cons, List.map_nil]
    | cons d' ds =>
      rw [renderItems, List.isEmpty_cons, if_neg Bool.false_ne_true, List.length_append,
        List.length_cons] at hfuel
      rw [renderItems, List.isEmpty_cons, if_neg Bool.false_ne_true, List.append_assoc,
        List.cons_append, parseItems, hd fuel _ (by omega) (follows_cons (by decide))]
      simp only [Option.bind_eq_bind, Option.bind_some,
        skipSpace_cons_of_not (show isSpace comma = false by decide),
        show comma ≠ closeBracket by decide, if_true, if_false,
        ih (by simp) hds fuel (by omega), List.map_cons]

theorem parseMembers_renderMembers (h : Escaping escape scanned)
    (members : List (Text × Doc Text)) (hne : members ≠ [])
    (hmembers : ∀ m ∈ members, m.2.All IsLiteral (fun _ => True) ∧ ParsesAs escape scanned m.2)
    (fuel rest) (hfuel : (renderMembers escape members).length < fuel) :
    parseMembers fuel (renderMembers escape members ++ closeBrace :: rest) =
      some (members.map fun m => (reread scanned m.1, m.2.map id (reread scanned)), rest) := by
  induction members generalizing fuel with
  | nil => exact absurd rfl hne
  | cons m ms ih =>
    obtain ⟨⟨-, hd⟩, hms⟩ := List.forall_mem_cons.mp hmembers
    obtain ⟨name, d⟩ := m
    replace hd : ParsesAs escape scanned d := hd
    obtain _ | fuel := fuel
    · exact absurd hfuel (by omega)
    have hmember (fuel rest) (hfuel : (renderMembers escape ((name, d) :: ms)).length < fuel + 1)
        (hrest : Follows rest) :
        (lexString (name.flatMap escape ++ quote :: colon :: (render escape d ++ rest)) =
            some (name.flatMap scanned, colon :: (render escape d ++ rest))) ∧
          parseValue fuel (render escape d ++ rest) =
            some (d.map id (reread scanned), rest) := by
      refine ⟨h.lexString_flatMap .., hd fuel rest ?_ hrest⟩
      simp only [renderMembers, renderMember, List.length_append, List.length_cons] at hfuel
      omega
    cases ms with
    | nil =>
      obtain ⟨hname, hvalue⟩ :=
        hmember fuel (closeBrace :: rest) hfuel (follows_cons (by decide))
      simp only [renderMembers, renderMember, renderString, List.isEmpty_nil, if_true,
        List.append_nil, List.append_assoc, List.cons_append, List.nil_append]
      rw [parseMembers, skipSpace_cons_of_not (by decide)]
      simp only [if_true, hname, Option.bind_eq_bind, Option.bind_some, hvalue,
        skipSpace_cons_of_not (show isSpace colon = false by decide),
        skipSpace_cons_of_not (show isSpace closeBrace = false by decide), List.map_cons,
        List.map_nil, reread]
    | cons m' ms =>
      obtain ⟨hname, hvalue⟩ := hmember fuel
        (comma :: (renderMembers escape (m' :: ms) ++ closeBrace :: rest)) hfuel
        (follows_cons (by decide))
      rw [renderMembers, List.isEmpty_cons, if_neg Bool.false_ne_true, List.length_append,
        List.length_cons] at hfuel
      rw [renderMembers, List.isEmpty_cons, if_neg Bool.false_ne_true]
      simp only [renderMember, renderString, List.append_assoc, List.cons_append, List.nil_append]
      rw [parseMembers, skipSpace_cons_of_not (by decide)]
      simp only [if_true, hname, Option.bind_eq_bind, Option.bind_some, hvalue,
        skipSpace_cons_of_not (show isSpace colon = false by decide),
        skipSpace_cons_of_not (show isSpace comma = false by decide),
        show comma ≠ closeBrace by decide, if_false, ih (by simp) hms fuel (by omega),
        List.map_cons, reread]

theorem parseValue_arr (hitems : ∀ d ∈ items, d.All IsLiteral (fun _ => True) ∧
    ParsesAs escape scanned d) : ParsesAs escape scanned (.arr items) := by
  intro fuel rest hfuel _
  obtain _ | fuel := fuel
  · simp [render] at hfuel
  rw [render, List.cons_append, List.cons_append, List.append_assoc, List.singleton_append,
    parseValue, skipSpace_cons_of_not (by decide)]
  simp only [show openBracket ≠ quote by decide, if_true, if_false, Doc.map_arr]
  cases items with
  | nil => rfl
  | cons d ds =>
    obtain ⟨c, t, hcons, hspace, hclose⟩ :=
      exists_render_eq_cons escape d (hitems d (by simp)).1
    have hparse := parseItems_renderItems (d :: ds) (by simp) hitems fuel rest
      (by simpa [render] using hfuel)
    have hhead : renderItems escape (d :: ds) ++ closeBracket :: rest =
        c :: (t ++ ((if ds.isEmpty then [] else comma :: renderItems escape ds) ++
          closeBracket :: rest)) := by
      rw [renderItems, hcons, List.append_assoc, List.cons_append]
    simp only [hhead] at hparse ⊢
    simp only [skipSpace_cons_of_not hspace, hclose, if_false, hparse, Option.map_some]

theorem parseValue_obj (h : Escaping escape scanned) (hmembers : ∀ m ∈ members,
    m.2.All IsLiteral (fun _ => True) ∧ ParsesAs escape scanned m.2) :
    ParsesAs escape scanned (.obj members) := by
  intro fuel rest hfuel _
  obtain _ | fuel := fuel
  · simp [render] at hfuel
  rw [render, List.cons_append, List.cons_append, List.append_assoc, List.singleton_append,
    parseValue, skipSpace_cons_of_not (by decide)]
  simp only [show openBrace ≠ quote by decide, show openBrace ≠ openBracket by decide, if_true,
    if_false, Doc.map_obj]
  cases members with
  | nil => rfl
  | cons m ms =>
    obtain ⟨name, d⟩ := m
    have hparse := parseMembers_renderMembers h ((name, d) :: ms) (by simp) hmembers fuel rest
      (by simpa [render] using hfuel)
    have hhead : renderMembers escape ((name, d) :: ms) ++ closeBrace :: rest =
        quote :: (name.flatMap escape ++ quote :: colon :: (render escape d ++
          ((if ms.isEmpty then [] else comma :: renderMembers escape ms) ++
            closeBrace :: rest))) := by
      simp [renderMembers, renderMember, renderString]
    simp only [hhead] at hparse ⊢
    simp only [skipSpace_cons_of_not (show isSpace quote = false by decide),
      show quote ≠ closeBrace by decide, if_false, hparse, Option.map_some]

/-- Each constructor: the printed text starts with what the parser looks for. -/
theorem parsesAs (h : Escaping escape scanned) (d : Doc Text)
    (hd : d.All IsLiteral fun _ => True) : ParsesAs escape scanned d := by
  induction d using Doc.induction with
  | null =>
    rintro (_ | fuel) rest hfuel -
    · exact absurd hfuel (not_length_render_le_zero hd)
    · exact lexWord_append (text "null") .null rest
  | bool b =>
    rintro (_ | fuel) rest hfuel -
    · exact absurd hfuel (not_length_render_le_zero hd)
    · cases b
      · exact lexWord_append (text "false") (.bool false) rest
      · exact lexWord_append (text "true") (.bool true) rest
  | num literal =>
    rintro (_ | fuel) rest hfuel hrest
    · exact absurd hfuel (not_length_render_le_zero hd)
    · exact parseValue_num hd hrest
  | str s =>
    rintro (_ | fuel) rest hfuel -
    · exact absurd hfuel (not_length_render_le_zero hd)
    · rw [render, renderString, List.cons_append, List.cons_append, List.append_assoc,
        List.singleton_append, parseValue, skipSpace_cons_of_not (by decide)]
      simp only [if_true, h.lexString_flatMap, Option.map_some]
      rfl
  | arr items ih =>
    rw [Doc.all_arr] at hd
    exact parseValue_arr fun d hmem => ⟨hd d hmem, ih d hmem (hd d hmem)⟩
  | obj members ih =>
    rw [Doc.all_obj] at hd
    exact parseValue_obj h fun m hmem => ⟨(hd m hmem).2, ih m hmem (hd m hmem).2⟩

/-- The parser reads back what the printer writes. -/
theorem parse_render (h : Escaping escape scanned) (d : Doc Text)
    (hd : d.All IsLiteral fun _ => True) :
    parse (render escape d) = some (d.map id (reread scanned)) := by
  have hparse := parsesAs h d hd ((render escape d).length + 1) [] (by omega) follows_nil
  rw [List.append_nil] at hparse
  simp [parse, hparse, skipSpace]

end Escaping

/-! ## What is parsed -/

/-- The numbers of a document are literals. -/
abbrev Literals (d : Doc Text) : Prop := d.All IsLiteral fun _ => True

theorem literals_of_lexNumber (h : lexNumber t = some (d, rest)) : Literals d := by
  rw [lexNumber] at h
  split_ifs at h with hnumber
  obtain ⟨rfl, -⟩ := Prod.mk.inj (Option.some.inj h)
  exact ⟨hnumber, fun c hc => List.mem_takeWhile_imp hc⟩

theorem literals_of_lexWord {word : Text} {d' : Doc Text} (hd : Literals d')
    (h : lexWord word d' t = some (d, rest)) : Literals d := by
  rw [lexWord] at h
  split_ifs at h
  obtain ⟨rfl, -⟩ := Prod.mk.inj (Option.some.inj h)
  exact hd

/-- Induction on the fuel: the documents of a parser are built from those of parsers with less. -/
theorem literals_of_parsers (fuel : Nat) :
    (∀ t d rest, parseValue fuel t = some (d, rest) → Literals d) ∧
    (∀ t items rest, parseItems fuel t = some (items, rest) → ∀ d ∈ items, Literals d) ∧
    ∀ t members rest, parseMembers fuel t = some (members, rest) →
      ∀ m ∈ members, Literals m.2 := by
  induction fuel with
  | zero => exact ⟨nofun, nofun, nofun⟩
  | succ fuel ih =>
    obtain ⟨hvalue, hitems, hmembers⟩ := ih
    refine ⟨fun t d rest h => ?_, fun t items rest h => ?_, fun t members rest h => ?_⟩
    · rw [parseValue] at h
      split at h
      · cases h
      split_ifs at h
      · obtain ⟨_, _, heq⟩ := Option.map_eq_some_iff.mp h
        obtain ⟨rfl, -⟩ := Prod.mk.inj heq
        trivial
      · split at h
        · cases h
        split_ifs at h
        · obtain ⟨rfl, -⟩ := Prod.mk.inj (Option.some.inj h)
          exact Doc.all_arr.mpr nofun
        · obtain ⟨_, hparse, heq⟩ := Option.map_eq_some_iff.mp h
          obtain ⟨rfl, -⟩ := Prod.mk.inj heq
          exact Doc.all_arr.mpr (hitems _ _ _ hparse)
      · split at h
        · cases h
        split_ifs at h
        · obtain ⟨rfl, -⟩ := Prod.mk.inj (Option.some.inj h)
          exact Doc.all_obj.mpr nofun
        · obtain ⟨_, hparse, heq⟩ := Option.map_eq_some_iff.mp h
          obtain ⟨rfl, -⟩ := Prod.mk.inj heq
          exact Doc.all_obj.mpr fun m hm => ⟨trivial, hmembers _ _ _ hparse m hm⟩
      · exact literals_of_lexWord Doc.all_bool h
      · exact literals_of_lexWord Doc.all_bool h
      · exact literals_of_lexWord Doc.all_null h
      · exact literals_of_lexNumber h
    · rw [parseItems] at h
      obtain ⟨⟨d, t'⟩, hd, h⟩ := Option.bind_eq_some_iff.mp h
      simp only at h
      split at h
      · cases h
      split_ifs at h
      · obtain ⟨rfl, -⟩ := Prod.mk.inj (Option.some.inj h)
        exact List.forall_mem_singleton.mpr (hvalue _ _ _ hd)
      · obtain ⟨⟨ds, t''⟩, hds, h⟩ := Option.bind_eq_some_iff.mp h
        obtain ⟨rfl, -⟩ := Prod.mk.inj (Option.some.inj h)
        exact List.forall_mem_cons.mpr ⟨hvalue _ _ _ hd, hitems _ _ _ hds⟩
    · rw [parseMembers] at h
      split at h
      · cases h
      split_ifs at h
      obtain ⟨⟨us, t'⟩, -, h⟩ := Option.bind_eq_some_iff.mp h
      simp only at h
      split at h
      · cases h
      split_ifs at h
      obtain ⟨⟨d, t''⟩, hd, h⟩ := Option.bind_eq_some_iff.mp h
      simp only at h
      split at h
      · cases h
      split_ifs at h
      · obtain ⟨rfl, -⟩ := Prod.mk.inj (Option.some.inj h)
        exact List.forall_mem_singleton.mpr (hvalue _ _ _ hd)
      · obtain ⟨⟨ms, rest'⟩, hms, h⟩ := Option.bind_eq_some_iff.mp h
        obtain ⟨rfl, -⟩ := Prod.mk.inj (Option.some.inj h)
        exact List.forall_mem_cons.mpr ⟨hvalue _ _ _ hd, hmembers _ _ _ hms⟩

/-- The parser takes only literals as numbers. -/
theorem literals_of_parse (h : parse t = some d) : Literals d := by
  rw [parse] at h
  split at h
  · split_ifs at h
    obtain rfl := Option.some.inj h
    exact (literals_of_parsers _).1 _ _ _ (by assumption)
  · cases h

/-! ## What is printed -/

section Printed

variable {escape escape' : CodePoint → Text} {p : CodePoint → Prop}

theorem renderString_congr {s : Text} (h : ∀ c ∈ s, escape c = escape' c) :
    renderString escape s = renderString escape' s := by
  rw [renderString, renderString, List.flatMap_congr h]

/-- Printers that escape the texts of a document alike print it alike. -/
theorem render_congr (d : Doc Text)
    (h : d.All (fun _ => True) fun s => ∀ c ∈ s, escape c = escape' c) :
    render escape d = render escape' d := by
  induction d using Doc.induction with
  | null | bool | num => rfl
  | str s => exact renderString_congr h
  | arr items ih =>
    rw [Doc.all_arr] at h
    rw [render, render]
    congr 2
    induction items with
    | nil => rfl
    | cons d ds ihds =>
      rw [renderItems, renderItems, ih d (by simp) (h d (by simp)),
        ihds (fun d hd => ih d (by simp [hd])) fun d hd => h d (by simp [hd])]
  | obj members ih =>
    rw [Doc.all_obj] at h
    rw [render, render]
    congr 2
    induction members with
    | nil => rfl
    | cons m ms ihms =>
      obtain ⟨name, d⟩ := m
      have hm := h (name, d) (by simp)
      rw [renderMembers, renderMembers, renderMember, renderMember, renderString_congr hm.1,
        ih (name, d) (by simp) hm.2,
        ihms (fun m hm => ih m (by simp [hm])) fun m hm => h m (by simp [hm])]

/-- The code points that a printer writes. -/
theorem forall_mem_render (hascii : ∀ c : CodePoint, c.isAscii → p c) (d : Doc Text)
    (h : d.All (fun literal => ∀ c ∈ literal, p c) fun s => ∀ c ∈ s, ∀ c' ∈ escape c, p c') :
    ∀ c ∈ render escape d, p c := by
  have hword (word : String) (hword : Text.IsAscii (text word)) : ∀ c ∈ text word, p c :=
    fun c hc => hascii c (hword c hc)
  have hstring (s : Text) (hs : ∀ c ∈ s, ∀ c' ∈ escape c, p c') :
      ∀ c ∈ renderString escape s, p c := by
    intro c hc
    simp only [renderString, List.cons_append, List.mem_cons, List.mem_append, List.mem_flatMap,
      List.not_mem_nil, or_false] at hc
    rcases hc with rfl | ⟨c', hc', hc⟩ | rfl
    · exact hascii _ rfl
    · exact hs c' hc' c hc
    · exact hascii _ rfl
  have hclosed {a b : CodePoint} {t : Text} (ha : a.isAscii) (hb : b.isAscii) (ht : ∀ c ∈ t, p c) :
      ∀ c ∈ a :: t ++ [b], p c := by
    intro c hc
    simp only [List.cons_append, List.mem_cons, List.mem_append, List.not_mem_nil, or_false] at hc
    rcases hc with rfl | hc | rfl
    · exact hascii _ ha
    · exact ht c hc
    · exact hascii _ hb
  have hrest {q : Bool} {t : Text} (ht : ∀ c ∈ t, p c) : ∀ c ∈ if q then [] else comma :: t, p c := by
    cases q
    · exact List.forall_mem_cons.mpr ⟨hascii _ rfl, ht⟩
    · nofun
  induction d using Doc.induction with
  | null => exact hword "null" (by decide)
  | bool b =>
    cases b
    · exact hword "false" (by decide)
    · exact hword "true" (by decide)
  | num literal => exact h
  | str s => exact hstring s h
  | arr items ih =>
    rw [Doc.all_arr] at h
    rw [render]
    apply hclosed rfl rfl
    induction items with
    | nil => nofun
    | cons d ds ihds =>
      rw [renderItems]
      exact List.forall_mem_append.mpr ⟨ih d (by simp) (h d (by simp)),
        hrest (ihds (fun d hd => ih d (by simp [hd])) fun d hd => h d (by simp [hd]))⟩
  | obj members ih =>
    rw [Doc.all_obj] at h
    rw [render]
    apply hclosed rfl rfl
    induction members with
    | nil => nofun
    | cons m ms ihms =>
      obtain ⟨name, d⟩ := m
      have hm := h (name, d) (by simp)
      have hcolon : ∀ c ∈ colon :: render escape d, p c :=
        List.forall_mem_cons.mpr ⟨hascii _ rfl, ih (name, d) (by simp) hm.2⟩
      rw [renderMembers, renderMember]
      exact List.forall_mem_append.mpr ⟨List.forall_mem_append.mpr ⟨hstring name hm.1, hcolon⟩,
        hrest (ihms (fun m hm => ih m (by simp [hm])) fun m hm => h m (by simp [hm]))⟩

end Printed

end JsonText
