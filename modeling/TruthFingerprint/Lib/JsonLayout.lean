import Mathlib
import TruthFingerprint.Lib.JsonText

/-!
# JSON texts with white space

A printer that puts white space before every item and before every closing bracket, by the depth at
which they stand, and after every colon. The parser reads back what it writes (`parse_renderAt`).
-/

namespace JsonText

/-- The white space before the first item of a list, after the comma before another one, after the
last one, and after a colon -/
structure Layout where
  opening : ℕ → Text
  next : ℕ → Text
  closing : ℕ → Text
  gap : Text
  isSpace_opening : ∀ depth, ∀ c ∈ opening depth, isSpace c
  isSpace_next : ∀ depth, ∀ c ∈ next depth, isSpace c
  isSpace_closing : ∀ depth, ∀ c ∈ closing depth, isSpace c
  isSpace_gap : ∀ c ∈ gap, isSpace c

/-- A new line, indented by the depth -/
def newline (width depth : ℕ) : Text := '\n'.codePoint :: List.replicate (width * depth) ' '.codePoint

theorem isSpace_newline (width depth : ℕ) : ∀ c ∈ newline width depth, isSpace c := by
  intro c hc
  rcases List.mem_cons.mp hc with rfl | hc
  · decide
  · obtain rfl := List.eq_of_mem_replicate hc
    decide

theorem isSpace_blank : ∀ c ∈ [' '.codePoint], isSpace c := by
  intro c hc
  obtain rfl := List.mem_singleton.mp hc
  decide

theorem isSpace_none (c : CodePoint) (hc : c ∈ ([] : Text)) : isSpace c :=
  absurd hc List.not_mem_nil

/-- A line for every item -/
def Layout.indented (width : ℕ) : Layout where
  opening depth := newline width (depth + 1)
  next depth := newline width (depth + 1)
  closing depth := newline width depth
  gap := [' '.codePoint]
  isSpace_opening depth := isSpace_newline width (depth + 1)
  isSpace_next depth := isSpace_newline width (depth + 1)
  isSpace_closing := isSpace_newline width
  isSpace_gap := isSpace_blank

/-- One line, with a space after every comma and colon -/
def Layout.spaced : Layout where
  opening _ := []
  next _ := [' '.codePoint]
  closing _ := []
  gap := [' '.codePoint]
  isSpace_opening _ := isSpace_none
  isSpace_next _ := isSpace_blank
  isSpace_closing _ := isSpace_none
  isSpace_gap := isSpace_blank

section Printing

variable (layout : Layout) (escape : CodePoint → Text)

mutual
/-- The text of a document at a depth -/
def renderAt : ℕ → Doc Text → Text
  | _, .null => text "null"
  | _, .bool b => if b then text "true" else text "false"
  | _, .num literal => literal
  | _, .str s => renderString escape s
  | depth, .arr items =>
    openBracket :: ((if items.isEmpty then [] else layout.opening depth) ++
      (renderItemsAt depth items ++
        ((if items.isEmpty then [] else layout.closing depth) ++ [closeBracket])))
  | depth, .obj members =>
    openBrace :: ((if members.isEmpty then [] else layout.opening depth) ++
      (renderMembersAt depth members ++
        ((if members.isEmpty then [] else layout.closing depth) ++ [closeBrace])))
termination_by structural _ d => d

/-- The items of an array at a depth, which are one deeper -/
def renderItemsAt : ℕ → List (Doc Text) → Text
  | _, [] => []
  | depth, d :: ds =>
    renderAt (depth + 1) d ++
      (if ds.isEmpty then [] else comma :: (layout.next depth ++ renderItemsAt depth ds))
termination_by structural _ ds => ds

def renderMembersAt : ℕ → List (Text × Doc Text) → Text
  | _, [] => []
  | depth, m :: ms =>
    renderMemberAt (depth + 1) m ++
      (if ms.isEmpty then [] else comma :: (layout.next depth ++ renderMembersAt depth ms))
termination_by structural _ ms => ms

def renderMemberAt : ℕ → Text × Doc Text → Text
  | depth, (name, d) => renderString escape name ++ colon :: (layout.gap ++ renderAt depth d)
termination_by structural _ m => m
end

end Printing

/-! ## White space -/

variable {c : CodePoint} {t rest ws : Text} {fuel depth : ℕ} {literal : Text}

theorem skipSpace_append (hws : ∀ c ∈ ws, isSpace c) (t : Text) :
    skipSpace (ws ++ t) = skipSpace t := by
  induction ws with
  | nil => rfl
  | cons c ws ih =>
    obtain ⟨hc, hws⟩ := List.forall_mem_cons.mp hws
    rw [List.cons_append, skipSpace, List.dropWhile_cons, if_pos hc]
    exact ih hws

theorem parseValue_append (hws : ∀ c ∈ ws, isSpace c) (fuel : ℕ) (t : Text) :
    parseValue fuel (ws ++ t) = parseValue fuel t := by
  cases fuel with
  | zero => rfl
  | succ fuel => rw [parseValue, parseValue, skipSpace_append hws]

theorem parseMembers_append (hws : ∀ c ∈ ws, isSpace c) (fuel : ℕ) (t : Text) :
    parseMembers fuel (ws ++ t) = parseMembers fuel t := by
  cases fuel with
  | zero => rfl
  | succ fuel => rw [parseMembers, parseMembers, skipSpace_append hws]

theorem parseItems_append (hws : ∀ c ∈ ws, isSpace c) (fuel : ℕ) (t : Text) :
    parseItems fuel (ws ++ t) = parseItems fuel t := by
  cases fuel with
  | zero => rfl
  | succ fuel => rw [parseItems, parseItems, parseValue_append hws]

theorem isNumberChar_of_isSpace (hc : isSpace c) : isNumberChar c = false := by
  rw [← Bool.not_eq_true, isNumberChar_iff]
  simp only [isSpace, Bool.or_eq_true, decide_eq_true_eq] at hc
  rcases hc with ((rfl | rfl) | rfl) | rfl <;> decide

theorem follows_append (hws : ∀ c ∈ ws, isSpace c) (ht : Follows t) : Follows (ws ++ t) := by
  cases ws with
  | nil => exact ht
  | cons c ws =>
    rw [List.cons_append]
    exact follows_cons (isNumberChar_of_isSpace (hws c List.mem_cons_self))

/-! ## Reading back -/

section Reading

variable {layout : Layout} {escape : CodePoint → Text} {scanned : CodePoint → List Scanned}

variable (layout escape) in
/-- A printed document does not start with white space or the end of an array. -/
theorem exists_renderAt_eq_cons (depth : ℕ) (d : Doc Text) (hd : Literals d) :
    ∃ c t, renderAt layout escape depth d = c :: t ∧ isSpace c = false ∧ c ≠ closeBracket := by
  cases d with
  | null => exact ⟨_, _, rfl, by decide, by decide⟩
  | bool b =>
    cases b
    · exact ⟨_, _, rfl, by decide, by decide⟩
    · exact ⟨_, _, rfl, by decide, by decide⟩
  | num literal => exact exists_render_eq_cons escape (.num literal) hd
  | str s => exact ⟨_, _, rfl, by decide, by decide⟩
  | arr items => exact ⟨_, _, rfl, by decide, by decide⟩
  | obj members => exact ⟨_, _, rfl, by decide, by decide⟩

variable (layout) in
/-- What a printed document is parsed as at every depth, with enough fuel -/
def ParsesAt (escape : CodePoint → Text) (scanned : CodePoint → List Scanned) (d : Doc Text) :
    Prop :=
  ∀ depth fuel rest, (renderAt layout escape depth d).length ≤ fuel → Follows rest →
    parseValue fuel (renderAt layout escape depth d ++ rest) =
      some (d.map id (reread scanned), rest)

/-- The end of a list, after the white space before it -/
theorem skipSpace_closing {close : CodePoint} (hclose : isSpace close = false) (depth : ℕ)
    (rest : Text) : skipSpace (layout.closing depth ++ close :: rest) = close :: rest := by
  rw [skipSpace_append (layout.isSpace_closing depth), skipSpace_cons_of_not hclose]

theorem follows_closing {close : CodePoint} (hclose : isNumberChar close = false) (depth : ℕ)
    (rest : Text) : Follows (layout.closing depth ++ close :: rest) :=
  follows_append (layout.isSpace_closing depth) (follows_cons hclose)

theorem parseItems_renderItemsAt (items : List (Doc Text)) (hne : items ≠ [])
    (hitems : ∀ d ∈ items, ParsesAt layout escape scanned d) (fuel rest)
    (hfuel : (renderItemsAt layout escape depth items).length < fuel) :
    parseItems fuel (renderItemsAt layout escape depth items ++
        (layout.closing depth ++ closeBracket :: rest)) =
      some (items.map (Doc.map id (reread scanned)), rest) := by
  induction items generalizing fuel with
  | nil => exact absurd rfl hne
  | cons d ds ih =>
    obtain ⟨hd, hds⟩ := List.forall_mem_cons.mp hitems
    cases fuel with
    | zero => exact absurd hfuel (Nat.not_lt_zero _)
    | succ fuel =>
      rw [renderItemsAt, List.length_append] at hfuel
      rw [renderItemsAt, List.append_assoc, parseItems]
      cases ds with
      | nil =>
        simp only [List.isEmpty_nil, if_true, List.nil_append]
        rw [hd (depth + 1) fuel _ (by omega) (follows_closing (by decide) depth rest)]
        simp only [Option.bind_eq_bind, Option.bind_some,
          skipSpace_closing (show isSpace closeBracket = false by decide), if_true, List.map_cons,
          List.map_nil]
      | cons d' ds =>
        simp only [List.isEmpty_cons, Bool.false_eq_true, if_false, List.length_cons,
          List.length_append] at hfuel ⊢
        rw [List.cons_append, hd (depth + 1) fuel _ (by omega) (follows_cons (by decide))]
        simp only [Option.bind_eq_bind, Option.bind_some,
          skipSpace_cons_of_not (show isSpace comma = false by decide),
          show comma ≠ closeBracket by decide, if_true, if_false, List.append_assoc,
          parseItems_append (layout.isSpace_next depth),
          ih (List.cons_ne_nil _ _) hds fuel (by omega), List.map_cons]

theorem parseMembers_renderMembersAt (h : Escaping escape scanned)
    (members : List (Text × Doc Text)) (hne : members ≠ [])
    (hmembers : ∀ m ∈ members, ParsesAt layout escape scanned m.2) (fuel rest)
    (hfuel : (renderMembersAt layout escape depth members).length < fuel) :
    parseMembers fuel (renderMembersAt layout escape depth members ++
        (layout.closing depth ++ closeBrace :: rest)) =
      some (members.map fun m => (reread scanned m.1, m.2.map id (reread scanned)), rest) := by
  induction members generalizing fuel with
  | nil => exact absurd rfl hne
  | cons m ms ih =>
    obtain ⟨hd, hms⟩ := List.forall_mem_cons.mp hmembers
    obtain ⟨name, d⟩ := m
    cases fuel with
    | zero => exact absurd hfuel (Nat.not_lt_zero _)
    | succ fuel =>
      have hvalue (after : Text) (hafter : Follows after)
          (hlength : (renderAt layout escape (depth + 1) d).length ≤ fuel) :
          parseValue fuel (layout.gap ++ (renderAt layout escape (depth + 1) d ++ after)) =
            some (d.map id (reread scanned), after) := by
        rw [parseValue_append layout.isSpace_gap]
        exact hd (depth + 1) fuel after hlength hafter
      rw [renderMembersAt, List.length_append, renderMemberAt, List.length_append,
        List.length_cons, List.length_append] at hfuel
      rw [renderMembersAt, renderMemberAt, renderString]
      simp only [List.append_assoc, List.cons_append, List.nil_append]
      rw [parseMembers, skipSpace_cons_of_not (by decide)]
      simp only [if_true, h.lexString_flatMap, Option.bind_eq_bind, Option.bind_some,
        skipSpace_cons_of_not (show isSpace colon = false by decide)]
      cases ms with
      | nil =>
        simp only [List.isEmpty_nil, if_true, List.nil_append]
        rw [hvalue _ (follows_closing (by decide) depth rest) (by omega)]
        simp only [Option.bind_some,
          skipSpace_closing (show isSpace closeBrace = false by decide), if_true, List.map_cons,
          List.map_nil, reread]
      | cons m' ms =>
        simp only [List.isEmpty_cons, Bool.false_eq_true, if_false, List.length_cons,
          List.length_append] at hfuel ⊢
        rw [List.cons_append, hvalue _ (follows_cons (by decide)) (by omega)]
        simp only [Option.bind_some, skipSpace_cons_of_not (show isSpace comma = false by decide),
          show comma ≠ closeBrace by decide, if_true, if_false, List.append_assoc,
          parseMembers_append (layout.isSpace_next depth),
          ih (List.cons_ne_nil _ _) hms fuel (by omega), List.map_cons, reread]

theorem parsesAt_arr {items : List (Doc Text)}
    (hitems : ∀ d ∈ items, Literals d ∧ ParsesAt layout escape scanned d) :
    ParsesAt layout escape scanned (.arr items) := by
  intro depth fuel rest hfuel _
  rw [renderAt, List.length_cons] at hfuel
  cases fuel with
  | zero => exact absurd hfuel (by omega)
  | succ fuel =>
    rw [renderAt, List.cons_append, parseValue, skipSpace_cons_of_not (by decide)]
    simp only [show openBracket ≠ quote by decide, if_true, if_false, Doc.map_arr]
    cases items with
    | nil => rfl
    | cons d ds =>
      obtain ⟨c, t, hcons, hspace, hclose⟩ :=
        exists_renderAt_eq_cons layout escape (depth + 1) d (hitems d List.mem_cons_self).1
      simp only [List.isEmpty_cons, Bool.false_eq_true, if_false, List.length_append,
        List.length_singleton] at hfuel ⊢
      simp only [List.append_assoc, List.singleton_append]
      have hparse := @parseItems_renderItemsAt depth layout escape scanned (d :: ds)
        (List.cons_ne_nil _ _) (fun d hd => (hitems d hd).2) fuel rest (by omega)
      have hskip : ∃ t, skipSpace (layout.opening depth ++
          (renderItemsAt layout escape depth (d :: ds) ++
            (layout.closing depth ++ closeBracket :: rest))) = c :: t := by
        rw [skipSpace_append (layout.isSpace_opening depth), renderItemsAt, hcons,
          List.cons_append, List.cons_append]
        exact ⟨_, skipSpace_cons_of_not hspace⟩
      obtain ⟨t, hskip⟩ := hskip
      rw [hskip]
      simp only [hclose, if_false, parseItems_append (layout.isSpace_opening depth), hparse,
        Option.map_some]

theorem parsesAt_obj (h : Escaping escape scanned) {members : List (Text × Doc Text)}
    (hmembers : ∀ m ∈ members, ParsesAt layout escape scanned m.2) :
    ParsesAt layout escape scanned (.obj members) := by
  intro depth fuel rest hfuel _
  rw [renderAt, List.length_cons] at hfuel
  cases fuel with
  | zero => exact absurd hfuel (by omega)
  | succ fuel =>
    rw [renderAt, List.cons_append, parseValue, skipSpace_cons_of_not (by decide)]
    simp only [show openBrace ≠ quote by decide, show openBrace ≠ openBracket by decide, if_true,
      if_false, Doc.map_obj]
    cases members with
    | nil => rfl
    | cons m ms =>
      obtain ⟨name, d⟩ := m
      simp only [List.isEmpty_cons, Bool.false_eq_true, if_false, List.length_append,
        List.length_singleton] at hfuel ⊢
      simp only [List.append_assoc, List.singleton_append]
      have hparse := @parseMembers_renderMembersAt depth layout escape scanned h ((name, d) :: ms)
        (List.cons_ne_nil _ _) hmembers fuel rest (by omega)
      have hskip : ∃ t, skipSpace (layout.opening depth ++
          (renderMembersAt layout escape depth ((name, d) :: ms) ++
            (layout.closing depth ++ closeBrace :: rest))) = quote :: t := by
        rw [skipSpace_append (layout.isSpace_opening depth), renderMembersAt, renderMemberAt,
          renderString, List.cons_append, List.cons_append, List.cons_append, List.cons_append]
        exact ⟨_, skipSpace_cons_of_not (by decide)⟩
      obtain ⟨t, hskip⟩ := hskip
      rw [hskip]
      simp only [show quote ≠ closeBrace by decide, if_false,
        parseMembers_append (layout.isSpace_opening depth), hparse, Option.map_some]

/-- Each constructor: the printed text starts with what the parser looks for. -/
theorem parsesAt (h : Escaping escape scanned) (d : Doc Text) (hd : Literals d) :
    ParsesAt layout escape scanned d := by
  induction d using Doc.induction with
  | arr items ih =>
    rw [Literals, Doc.all_arr] at hd
    exact parsesAt_arr fun d hmem => ⟨hd d hmem, ih d hmem (hd d hmem)⟩
  | obj members ih =>
    rw [Literals, Doc.all_obj] at hd
    exact parsesAt_obj h fun m hmem => ih m hmem (hd m hmem).2
  | null => exact fun _ => parsesAs h .null hd
  | bool b => exact fun _ => parsesAs h (.bool b) hd
  | num literal => exact fun _ => parsesAs h (.num literal) hd
  | str s => exact fun _ => parsesAs h (.str s) hd

/-- The parser reads back what the printer writes, and the white space after it. -/
theorem parse_renderAt (h : Escaping escape scanned) (d : Doc Text) (hd : Literals d)
    (hws : ∀ c ∈ ws, isSpace c) :
    parse (renderAt layout escape depth d ++ ws) = some (d.map id (reread scanned)) := by
  have hfollows : Follows ws := List.append_nil ws ▸ follows_append hws follows_nil
  have hrest : skipSpace ws = [] := by
    have := skipSpace_append hws []
    rwa [List.append_nil] at this
  rw [parse, parsesAt h d hd depth _ ws (by rw [List.length_append]; omega) hfollows]
  simp only [hrest, if_true]

end Reading

/-! ## What is printed -/

section Printed

variable {layout : Layout} {escape : CodePoint → Text} {p : CodePoint → Prop}

theorem isAscii_of_isSpace (hc : isSpace c) : c.isAscii := by
  simp only [isSpace, Bool.or_eq_true, decide_eq_true_eq] at hc
  rcases hc with ((rfl | rfl) | rfl) | rfl <;> rfl

theorem forall_mem_renderString (hascii : ∀ c : CodePoint, c.isAscii → p c) {s : Text}
    (hs : ∀ c ∈ s, ∀ c' ∈ escape c, p c') : ∀ c ∈ renderString escape s, p c :=
  forall_mem_render hascii (.str s) hs

/-- The code points that a printer writes -/
theorem forall_mem_renderAt (hascii : ∀ c : CodePoint, c.isAscii → p c) (depth : ℕ) (d : Doc Text)
    (h : d.All (fun literal => ∀ c ∈ literal, p c) fun s => ∀ c ∈ s, ∀ c' ∈ escape c, p c') :
    ∀ c ∈ renderAt layout escape depth d, p c := by
  have hspace {ws : Text} (hws : ∀ c ∈ ws, isSpace c) : ∀ c ∈ ws, p c :=
    fun c hc => hascii c (isAscii_of_isSpace (hws c hc))
  have hunless {q : Bool} {t : Text} (ht : ∀ c ∈ t, p c) : ∀ c ∈ if q then [] else t, p c := by
    cases q
    · exact ht
    · exact fun c hc => absurd hc List.not_mem_nil
  have hclosed {a b : CodePoint} {t ws ws' : Text} {q : Bool} (ha : a.isAscii) (hb : b.isAscii)
      (hws : ∀ c ∈ ws, isSpace c) (hws' : ∀ c ∈ ws', isSpace c) (ht : ∀ c ∈ t, p c) :
      ∀ c ∈ a :: ((if q then [] else ws) ++ (t ++ ((if q then [] else ws') ++ [b]))), p c := by
    refine List.forall_mem_cons.mpr ⟨hascii a ha, List.forall_mem_append.mpr
      ⟨hunless (hspace hws), List.forall_mem_append.mpr ⟨ht, List.forall_mem_append.mpr
        ⟨hunless (hspace hws'), ?_⟩⟩⟩⟩
    exact fun c hc => List.mem_singleton.mp hc ▸ hascii b hb
  have hrest {q : Bool} {t ws : Text} (hws : ∀ c ∈ ws, isSpace c) (ht : ∀ c ∈ t, p c) :
      ∀ c ∈ if q then [] else comma :: (ws ++ t), p c :=
    hunless (List.forall_mem_cons.mpr ⟨hascii _ rfl,
      List.forall_mem_append.mpr ⟨hspace hws, ht⟩⟩)
  induction d using Doc.induction generalizing depth with
  | null => exact forall_mem_render hascii .null h
  | bool b => exact forall_mem_render hascii (.bool b) h
  | num literal => exact forall_mem_render hascii (.num literal) h
  | str s => exact forall_mem_render hascii (.str s) h
  | arr items ih =>
    rw [Doc.all_arr] at h
    rw [renderAt]
    apply hclosed rfl rfl (layout.isSpace_opening depth) (layout.isSpace_closing depth)
    induction items with
    | nil => exact fun c hc => absurd hc List.not_mem_nil
    | cons d ds ihds =>
      obtain ⟨hd, hds⟩ := List.forall_mem_cons.mp h
      obtain ⟨ihd, ihrest⟩ := List.forall_mem_cons.mp ih
      rw [renderItemsAt]
      exact List.forall_mem_append.mpr ⟨ihd (depth + 1) hd,
        hrest (layout.isSpace_next depth) (ihds ihrest hds)⟩
  | obj members ih =>
    rw [Doc.all_obj] at h
    rw [renderAt]
    apply hclosed rfl rfl (layout.isSpace_opening depth) (layout.isSpace_closing depth)
    induction members with
    | nil => exact fun c hc => absurd hc List.not_mem_nil
    | cons m ms ihms =>
      obtain ⟨hm, hms⟩ := List.forall_mem_cons.mp h
      obtain ⟨ihm, ihrest⟩ := List.forall_mem_cons.mp ih
      obtain ⟨name, d⟩ := m
      have hvalue : ∀ c ∈ colon :: (layout.gap ++ renderAt layout escape (depth + 1) d), p c :=
        List.forall_mem_cons.mpr ⟨hascii _ rfl,
          List.forall_mem_append.mpr ⟨hspace layout.isSpace_gap, ihm (depth + 1) hm.2⟩⟩
      rw [renderMembersAt, renderMemberAt]
      exact List.forall_mem_append.mpr
        ⟨List.forall_mem_append.mpr ⟨forall_mem_renderString hascii hm.1, hvalue⟩,
          hrest (layout.isSpace_next depth) (ihms ihrest hms)⟩

end Printed

end JsonText
