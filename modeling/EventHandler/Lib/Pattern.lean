import Mathlib.Data.List.Basic
import Mathlib.Data.List.Forall2

/-!
# Patterns over bytes

ECMAScript regular expressions, matched against a whole string of bytes.  What is said of them is how
single characters, `.` and `.*` are read and matched in front of any other expression.

* `bytes` — the bytes of a text.
* `Piece`, `Takes`, `Matches` — a character, a dot, a wildcard, and the strings a row of them describes;
  a dot stands for one byte that is no line terminator, a wildcard for any number of them.
* `render` — the source of such a row, with a backslash before each syntax character.
* `RegexEngine` — reads the alternatives of a source and says which strings each of them describes.
  Its laws are about a piece in front of an expression; any other expression is left open.
* `read_render_append` — a row of pieces in front of an expression.
* `wildcardEngine` — an engine that can be run; it reads pieces and alternatives.
* `append_sep_inj`, `behind_sep`, `sep_after` — the fields of a string joined by a separator, as the
  texts before and behind a wildcard see them.
-/

set_option autoImplicit false

namespace Pattern

/-! ## Bytes -/

def bytes (s : String) : List UInt8 := s.toList.flatMap String.utf8EncodeChar

def ascii (c : Char) : UInt8 := UInt8.ofNat c.toNat

@[simp] theorem bytes_append (s t : String) : bytes (s ++ t) = bytes s ++ bytes t := by
  unfold bytes
  rw [String.toList_append, List.flatMap_append]

theorem bytes_injective {s t : String} (h : bytes s = bytes t) : s = t := by
  have hutf8 : s.toList.utf8Encode = t.toList.utf8Encode := congrArg List.toByteArray h
  rw [String.utf8Encode_toList, String.utf8Encode_toList] at hutf8
  exact String.toByteArray_inj.1 hutf8

theorem bytes_inj {s t : String} : bytes s = bytes t ↔ s = t :=
  ⟨bytes_injective, congrArg bytes⟩

/-- A text of ASCII characters has one byte for each. -/
theorem bytes_of_ascii {s : String} (h : ∀ c ∈ s.toList, c.toNat ≤ 127) :
    bytes s = s.toList.map ascii := by
  unfold bytes
  generalize s.toList = cs at h
  induction cs with
  | nil => rfl
  | cons c cs ih =>
    have hc : String.utf8EncodeChar c = [ascii c] := if_pos (h c List.mem_cons_self)
    rw [List.flatMap_cons, hc, ih fun d hd => h d (List.mem_cons_of_mem c hd)]
    rfl

/-! ## Pieces -/

inductive Piece where
  | char (c : UInt8)
  | dot
  | wildcard
  deriving DecidableEq, Repr

/-- What `.` does not stand for; the other two line terminators of ECMAScript are no single byte. -/
def lineTerminator (c : UInt8) : Bool := c == ascii '\n' || c == ascii '\r'

/-- The characters that do not stand for themselves. -/
def syntaxCharacters : List UInt8 :=
  ['^', '$', '\\', '.', '*', '+', '?', '(', ')', '[', ']', '{', '}', '|'].map ascii

def Piece.Takes : Piece → List UInt8 → Prop
  | .char c, x => x = [c]
  | .dot, x => ∃ c, x = [c] ∧ lineTerminator c = false
  | .wildcard, x => ∀ c ∈ x, lineTerminator c = false

/-- The strings a row of pieces describes. -/
def Matches : List Piece → List UInt8 → Prop
  | [], s => s = []
  | p :: ps, s => ∃ x y, s = x ++ y ∧ p.Takes x ∧ Matches ps y

def text (s : List UInt8) : List Piece := s.map .char

theorem matches_text_append {ps : List Piece} (a s : List UInt8) :
    Matches (text a ++ ps) s ↔ ∃ t, s = a ++ t ∧ Matches ps t := by
  induction a generalizing s with
  | nil => simp [text]
  | cons c a ih =>
    show (∃ x t, s = x ++ t ∧ x = [c] ∧ Matches (text a ++ ps) t) ↔ _
    constructor
    · rintro ⟨_, t, rfl, rfl, ht⟩
      obtain ⟨u, rfl, hu⟩ := (ih t).1 ht
      exact ⟨u, rfl, hu⟩
    · rintro ⟨u, rfl, hu⟩
      exact ⟨[c], a ++ u, rfl, rfl, (ih _).2 ⟨u, rfl, hu⟩⟩

/-- A wildcard at the end takes any text without a line terminator. -/
theorem matches_wildcard_end (s : List UInt8) :
    Matches [.wildcard] s ↔ ∀ c ∈ s, lineTerminator c = false := by
  constructor
  · rintro ⟨x, _, rfl, hx, rfl⟩
    rw [List.append_nil]
    exact hx
  · exact fun h => ⟨s, [], (List.append_nil s).symm, h, rfl⟩

/-- The pieces that a text with dots in it is the source of. -/
def dotted (s : List UInt8) : List Piece := s.map fun c => if c = ascii '.' then .dot else .char c

/-- `y` is `s` with some byte for each dot. -/
def Reads (s y : List UInt8) : Prop :=
  List.Forall₂ (fun c d => if c = ascii '.' then lineTerminator d = false else c = d) s y

theorem matches_dotted (s y : List UInt8) : Matches (dotted s) y ↔ Reads s y := by
  unfold Reads
  induction s generalizing y with
  | nil =>
    rw [List.forall₂_nil_left_iff]
    rfl
  | cons c s ih =>
    rw [List.forall₂_cons_left_iff]
    show (∃ x t, y = x ++ t ∧ (if c = ascii '.' then Piece.dot else .char c).Takes x ∧
      Matches (dotted s) t) ↔ _
    by_cases hc : c = ascii '.'
    · simp only [if_pos hc]
      constructor
      · rintro ⟨_, t, rfl, ⟨d, rfl, hd⟩, ht⟩
        exact ⟨d, t, hd, (ih t).1 ht, rfl⟩
      · rintro ⟨d, t, hd, ht, rfl⟩
        exact ⟨[d], t, rfl, ⟨d, rfl, hd⟩, (ih t).2 ht⟩
    · simp only [if_neg hc]
      constructor
      · rintro ⟨_, t, rfl, rfl, ht⟩
        exact ⟨c, t, rfl, (ih t).1 ht, rfl⟩
      · rintro ⟨d, t, rfl, ht, rfl⟩
        exact ⟨[c], t, rfl, rfl, (ih t).2 ht⟩

/-- A text without dots reads as nothing else. -/
theorem reads_iff {s : List UInt8} (h : ascii '.' ∉ s) (y : List UInt8) : Reads s y ↔ y = s := by
  unfold Reads
  induction s generalizing y with
  | nil => exact List.forall₂_nil_left_iff
  | cons c s ih =>
    rw [List.mem_cons, not_or] at h
    rw [List.forall₂_cons_left_iff]
    simp only [if_neg (Ne.symm h.1)]
    constructor
    · rintro ⟨d, t, rfl, ht, rfl⟩
      rw [(ih h.2 t).1 ht]
    · rintro rfl
      exact ⟨c, s, rfl, (ih h.2 s).2 rfl, rfl⟩

/-! ## Sources -/

def Piece.render : Piece → List UInt8
  | .char c => if c ∈ syntaxCharacters then [ascii '\\', c] else [c]
  | .dot => [ascii '.']
  | .wildcard => [ascii '.', ascii '*']

def render (ps : List Piece) : List UInt8 := ps.flatMap Piece.render

/-- A text that is its own source. -/
def Plain (s : List UInt8) : Prop := ∀ c ∈ s, c ∉ syntaxCharacters

instance plainDecidable (s : List UInt8) : Decidable (Plain s) :=
  inferInstanceAs (Decidable (∀ c ∈ s, _))

/-- A text that acts on the piece in front of it. -/
def quantified : List UInt8 → Bool
  | [] => false
  | c :: _ => decide (c ∈ ['*', '+', '?', '{'].map ascii)

theorem text_append (s t : List UInt8) : text (s ++ t) = text s ++ text t := List.map_append

theorem render_append (ps qs : List Piece) : render (ps ++ qs) = render ps ++ render qs :=
  List.flatMap_append

theorem render_text {s : List UInt8} (h : Plain s) : render (text s) = s := by
  induction s with
  | nil => rfl
  | cons c s ih =>
    have hc : (Piece.char c).render = [c] := if_neg (h c List.mem_cons_self)
    have hs : render (text s) = s := ih fun d hd => h d (List.mem_cons_of_mem c hd)
    show (Piece.char c).render ++ render (text s) = c :: s
    rw [hc, hs]
    rfl

theorem render_text_append {s : List UInt8} (h : Plain s) (t : List UInt8) (ps : List Piece) :
    render (text (s ++ t) ++ ps) = s ++ render (text t ++ ps) := by
  rw [text_append, List.append_assoc, render_append, render_text h]

/-- A text whose only syntax characters are dots is the source of its own pieces. -/
theorem render_dotted {s : List UInt8} (h : ∀ c ∈ s, c ∈ syntaxCharacters → c = ascii '.') :
    render (dotted s) = s := by
  induction s with
  | nil => rfl
  | cons c s ih =>
    have hs : render (dotted s) = s := ih fun d hd => h d (List.mem_cons_of_mem c hd)
    show (if c = ascii '.' then Piece.dot else .char c).render ++ render (dotted s) = c :: s
    rw [hs]
    by_cases hc : c = ascii '.'
    · rw [if_pos hc, hc]
      rfl
    · have hsyn : c ∉ syntaxCharacters := fun hx => hc (h c List.mem_cons_self hx)
      rw [if_neg hc, show (Piece.char c).render = [c] from if_neg hsyn]
      rfl

/-- A source does not act on what stands in front of it. -/
theorem quantified_render {r : List UInt8} (h : quantified r = false) (ps : List Piece) :
    quantified (render ps ++ r) = false := by
  cases ps with
  | nil => exact h
  | cons p ps =>
    cases p with
    | char c =>
      show quantified ((Piece.char c).render ++ render ps ++ r) = false
      by_cases hc : c ∈ syntaxCharacters
      · rw [show (Piece.char c).render = [ascii '\\', c] from if_pos hc]
        rfl
      · rw [show (Piece.char c).render = [c] from if_neg hc]
        refine decide_eq_false fun hm => hc ?_
        simp only [syntaxCharacters, List.map_cons, List.map_nil, List.mem_cons] at hm ⊢
        tauto
    | dot => rfl
    | wildcard => rfl

/-! ## Engines -/

/-- A matcher of whole strings.  `read` gives the alternatives of an expression, or none if the source
    is not an expression; `describes a before after` says that alternative `a` describes `after`, which
    stands behind `before`. -/
structure RegexEngine where
  Alternative : Type
  read : List UInt8 → Option (Alternative × List Alternative)
  describes : Alternative → List UInt8 → List UInt8 → Bool
  /-- The empty source. -/
  read_nil : ∃ a, read [] = some (a, []) ∧ ∀ before s, describes a before s = true ↔ s = []
  /-- A piece in front of what is not an expression. -/
  read_none : ∀ (p : Piece) r, quantified r = false → read r = none → read (p.render ++ r) = none
  /-- A piece in front of an expression belongs to the first alternative. -/
  read_some : ∀ (p : Piece) r a as, quantified r = false → read r = some (a, as) →
    ∃ b, read (p.render ++ r) = some (b, as) ∧ ∀ before s, describes b before s = true ↔
      ∃ x y, s = x ++ y ∧ p.Takes x ∧ describes a (before ++ x) y = true

namespace RegexEngine

variable (E : RegexEngine)

def regexMatch (regular s : List UInt8) : Bool :=
  match E.read regular with
  | some (a, as) => (a :: as).any fun b => E.describes b [] s
  | none => false

theorem regexMatch_of_none {regular : List UInt8} (h : E.read regular = none) (s : List UInt8) :
    E.regexMatch regular s = false := by
  unfold regexMatch
  rw [h]

theorem regexMatch_of_some {regular : List UInt8} {a : E.Alternative} {as : List E.Alternative}
    (h : E.read regular = some (a, as)) (s : List UInt8) :
    E.regexMatch regular s = true ↔
      E.describes a [] s = true ∨ ∃ b ∈ as, E.describes b [] s = true := by
  unfold regexMatch
  rw [h]
  simp

theorem read_render_none {r : List UInt8} (hr : quantified r = false) (h : E.read r = none)
    (ps : List Piece) : E.read (render ps ++ r) = none := by
  induction ps with
  | nil => exact h
  | cons p ps ih =>
    show E.read (p.render ++ render ps ++ r) = none
    rw [List.append_assoc]
    exact E.read_none p _ (quantified_render hr ps) ih

/-- **A row of pieces in front of an expression** belongs to its first alternative. -/
theorem read_render_append {r : List UInt8} {a : E.Alternative} {as : List E.Alternative}
    (hr : quantified r = false) (h : E.read r = some (a, as)) (ps : List Piece) :
    ∃ b, E.read (render ps ++ r) = some (b, as) ∧ ∀ before s, E.describes b before s = true ↔
      ∃ x y, s = x ++ y ∧ Matches ps x ∧ E.describes a (before ++ x) y = true := by
  induction ps with
  | nil =>
    refine ⟨a, h, fun before s => ?_⟩
    constructor
    · exact fun hs => ⟨[], s, rfl, rfl, by rwa [List.append_nil]⟩
    · rintro ⟨x, y, rfl, rfl, hy⟩
      rwa [List.append_nil] at hy
  | cons p ps ih =>
    obtain ⟨b, hread, hb⟩ := ih
    obtain ⟨c, hc, hdesc⟩ := E.read_some p _ b as (quantified_render hr ps) hread
    refine ⟨c, ?_, fun before s => ?_⟩
    · show E.read (p.render ++ render ps ++ r) = _
      rw [List.append_assoc]
      exact hc
    · rw [hdesc]
      constructor
      · rintro ⟨x, y, rfl, hx, hy⟩
        obtain ⟨u, v, rfl, hu, hv⟩ := (hb _ _).1 hy
        refine ⟨x ++ u, v, by rw [List.append_assoc], ⟨x, u, rfl, hx, hu⟩, ?_⟩
        rwa [← List.append_assoc]
      · rintro ⟨_, v, rfl, ⟨x, u, rfl, hx, hu⟩, hv⟩
        refine ⟨x, u ++ v, by rw [List.append_assoc], hx, (hb _ _).2 ⟨u, v, rfl, hu, ?_⟩⟩
        rwa [List.append_assoc]

/-- The source of a row of pieces is an expression with one alternative. -/
theorem read_render (ps : List Piece) : ∃ a, E.read (render ps) = some (a, []) ∧
    ∀ before s, E.describes a before s = true ↔ Matches ps s := by
  obtain ⟨a, hnil, ha⟩ := E.read_nil
  obtain ⟨b, hread, hb⟩ := E.read_render_append rfl hnil ps
  rw [List.append_nil] at hread
  refine ⟨b, hread, fun before s => ?_⟩
  rw [hb]
  constructor
  · rintro ⟨x, y, rfl, hx, hy⟩
    rw [ha] at hy
    rw [hy, List.append_nil]
    exact hx
  · exact fun hs => ⟨s, [], (List.append_nil s).symm, hs, (ha _ _).2 rfl⟩

theorem regexMatch_render (ps : List Piece) (s : List UInt8) :
    E.regexMatch (render ps) s = true ↔ Matches ps s := by
  obtain ⟨a, hread, ha⟩ := E.read_render ps
  rw [E.regexMatch_of_some hread, ha]
  simp

end RegexEngine

/-! ## An engine -/

/-- `x ++ y` with `x` free of line terminators and `y` accepted. -/
def skip (accepts : List UInt8 → Bool) : List UInt8 → Bool
  | [] => accepts []
  | c :: t => accepts (c :: t) || (!lineTerminator c && skip accepts t)

theorem skip_iff (accepts : List UInt8 → Bool) (s : List UInt8) :
    skip accepts s = true ↔
      ∃ x y, s = x ++ y ∧ (∀ c ∈ x, lineTerminator c = false) ∧ accepts y = true := by
  induction s with
  | nil =>
    constructor
    · intro h
      exact ⟨[], [], rfl, by simp, h⟩
    · rintro ⟨x, y, hs, -, hy⟩
      obtain ⟨rfl, rfl⟩ := List.append_eq_nil_iff.1 hs.symm
      exact hy
  | cons c t ih =>
    simp only [skip, Bool.or_eq_true, Bool.and_eq_true, Bool.not_eq_true', ih]
    constructor
    · rintro (h | ⟨hc, x, y, rfl, hx, hy⟩)
      · exact ⟨[], c :: t, rfl, by simp, h⟩
      · exact ⟨c :: x, y, rfl, by simpa [hc] using hx, hy⟩
    · rintro ⟨x, y, hs, hx, hy⟩
      cases x with
      | nil =>
        left
        rw [hs]
        exact hy
      | cons d x =>
        obtain ⟨rfl, rfl⟩ := List.cons.inj hs
        exact .inr ⟨hx c (by simp), x, y, rfl, fun e he => hx e (by simp [he]), hy⟩

/-- `Matches`, decided. -/
def accepts : List Piece → List UInt8 → Bool
  | [], s => s.isEmpty
  | .char _ :: _, [] => false
  | .char c :: ps, d :: s => c == d && accepts ps s
  | .dot :: _, [] => false
  | .dot :: ps, d :: s => !lineTerminator d && accepts ps s
  | .wildcard :: ps, s => skip (accepts ps) s

theorem accepts_cons (p : Piece) (ps : List Piece) (s : List UInt8) :
    accepts (p :: ps) s = true ↔ ∃ x y, s = x ++ y ∧ p.Takes x ∧ accepts ps y = true := by
  cases p with
  | char c =>
    cases s with
    | nil => simp [accepts, Piece.Takes]
    | cons d s =>
      simp only [accepts, Bool.and_eq_true, beq_iff_eq]
      constructor
      · rintro ⟨rfl, hs⟩
        exact ⟨[c], s, rfl, rfl, hs⟩
      · rintro ⟨_, t, ht, rfl, hs⟩
        obtain ⟨rfl, rfl⟩ := List.cons.inj ht
        exact ⟨rfl, hs⟩
  | dot =>
    cases s with
    | nil => simp [accepts, Piece.Takes]
    | cons d s =>
      simp only [accepts, Bool.and_eq_true, Bool.not_eq_true']
      constructor
      · rintro ⟨hd, hs⟩
        exact ⟨[d], s, rfl, ⟨d, rfl, hd⟩, hs⟩
      · rintro ⟨_, t, ht, ⟨c, rfl, hc⟩, hs⟩
        obtain ⟨rfl, rfl⟩ := List.cons.inj ht
        exact ⟨hc, hs⟩
  | wildcard => exact skip_iff _ s

/-- A piece in front of the first alternative. -/
def push (p : Piece) (d : List Piece × List (List Piece)) : List Piece × List (List Piece) :=
  (p :: d.1, d.2)

/-- The alternatives of a source of pieces and bars. -/
def parse : List UInt8 → Option (List Piece × List (List Piece))
  | [] => some ([], [])
  | [c] =>
    if c = ascii '.' then some ([.dot], [])
    else if c = ascii '|' then some ([], [[]])
    else if c ∈ syntaxCharacters then none
    else some ([.char c], [])
  | c :: d :: s =>
    if c = ascii '\\' then
      if d ∈ syntaxCharacters then (parse s).map (push (.char d)) else none
    else if c = ascii '.' then
      if d = ascii '*' then (parse s).map (push .wildcard) else (parse (d :: s)).map (push .dot)
    else if c = ascii '|' then (parse (d :: s)).map fun e => ([], e.1 :: e.2)
    else if c ∈ syntaxCharacters then none
    else (parse (d :: s)).map (push (.char c))

theorem parse_render (p : Piece) {r : List UInt8} (h : quantified r = false) :
    parse (p.render ++ r) = (parse r).map (push p) := by
  cases p with
  | char c =>
    by_cases hc : c ∈ syntaxCharacters
    · rw [show (Piece.char c).render = [ascii '\\', c] from if_pos hc]
      show (if ascii '\\' = ascii '\\' then _ else _) = _
      rw [if_pos rfl, if_pos hc]
      rfl
    · have hne : ∀ d ∈ syntaxCharacters, c ≠ d := fun d hd heq => hc (heq ▸ hd)
      rw [show (Piece.char c).render = [c] from if_neg hc]
      cases r with
      | nil =>
        show (if c = ascii '.' then _ else _) = _
        rw [if_neg (hne _ (by decide)), if_neg (hne _ (by decide)), if_neg hc]
        rfl
      | cons d s =>
        show (if c = ascii '\\' then _ else _) = _
        rw [if_neg (hne _ (by decide)), if_neg (hne _ (by decide)), if_neg (hne _ (by decide)),
          if_neg hc]
  | dot =>
    cases r with
    | nil => rfl
    | cons d s =>
      have hd : d ≠ ascii '*' := by
        rintro rfl
        cases h
      show (if ascii '.' = ascii '\\' then _ else _) = _
      rw [if_neg (by decide), if_pos rfl, if_neg hd]
  | wildcard =>
    show (if ascii '.' = ascii '\\' then _ else _) = _
    rw [if_neg (by decide), if_pos rfl, if_pos rfl]
    rfl

/-- The engine for pieces and bars; other sources are no expressions to it. -/
def wildcardEngine : RegexEngine where
  Alternative := List Piece
  read := parse
  describes a _ s := accepts a s
  read_nil := ⟨[], rfl, fun _ _ => List.isEmpty_iff⟩
  read_none p r hr h := by
    rw [parse_render p hr, h]
    rfl
  read_some p r a as hr h := by
    refine ⟨p :: a, ?_, fun _ s => accepts_cons p a s⟩
    rw [parse_render p hr, h]
    rfl

/-! ## Texts between separators -/

section Fields

variable {α : Type} {sep : α} {a p r y : List α}

/-- A text without a separator in front of one is determined. -/
theorem append_sep_inj (ha : sep ∉ a) (hp : sep ∉ p) :
    a ++ sep :: r = p ++ sep :: y ↔ a = p ∧ r = y := by
  constructor
  · intro h
    rcases List.append_eq_append_iff.1 h with ⟨z, rfl, hz⟩ | ⟨z, rfl, hz⟩
    · cases z with
      | nil => exact ⟨(List.append_nil a).symm, (List.cons.inj hz).2⟩
      | cons c z =>
        obtain ⟨rfl, -⟩ := List.cons.inj hz
        exact absurd (by simp) hp
    · cases z with
      | nil => exact ⟨List.append_nil p, (List.cons.inj hz).2.symm⟩
      | cons c z =>
        obtain ⟨rfl, -⟩ := List.cons.inj hz
        exact absurd (by simp) ha
  · rintro ⟨rfl, rfl⟩
    rfl

/-- A separator is the one behind the first field, or a later one. -/
theorem behind_sep {P : α → Prop} (ha : sep ∉ a) (hP : ∀ c ∈ a, P c) (hs : P sep) :
    (∃ x, a ++ sep :: r = x ++ sep :: y ∧ ∀ c ∈ x, P c) ↔
      r = y ∨ ∃ x, r = x ++ sep :: y ∧ ∀ c ∈ x, P c := by
  constructor
  · rintro ⟨x, h, hx⟩
    rcases List.append_eq_append_iff.1 h with ⟨z, rfl, hz⟩ | ⟨z, rfl, hz⟩
    · cases z with
      | nil => exact .inl (List.cons.inj hz).2
      | cons c z =>
        obtain ⟨-, hr⟩ := List.cons.inj hz
        exact .inr ⟨z, hr, fun d hd => hx d (by simp [hd])⟩
    · cases z with
      | nil => exact .inl (List.cons.inj hz).2.symm
      | cons c z =>
        obtain ⟨rfl, -⟩ := List.cons.inj hz
        exact absurd (by simp) ha
  · rintro (rfl | ⟨x, rfl, hx⟩)
    · exact ⟨a, rfl, hP⟩
    · refine ⟨a ++ sep :: x, by simp, ?_⟩
      intro c hc
      rcases List.mem_append.1 hc with hc | hc
      · exact hP c hc
      · rcases List.mem_cons.1 hc with rfl | hc
        · exact hs
        · exact hx c hc

/-- A text with a separator behind it ends the first field or stands in what follows. -/
theorem sep_after (ha : sep ∉ a) (hp : sep ∉ p) :
    (∃ x y, a ++ sep :: r = x ++ (p ++ sep :: y)) ↔
      p <:+ a ∨ ∃ x y, r = x ++ (p ++ sep :: y) := by
  constructor
  · rintro ⟨x, y, h⟩
    rcases List.append_eq_append_iff.1 h with ⟨z, rfl, hz⟩ | ⟨z, rfl, hz⟩
    · cases z with
      | nil =>
        left
        cases p with
        | nil => exact List.nil_suffix
        | cons c p =>
          obtain ⟨rfl, -⟩ := List.cons.inj hz
          exact absurd (by simp) hp
      | cons c z =>
        obtain ⟨-, hr⟩ := List.cons.inj hz
        exact .inr ⟨z, y, hr⟩
    · left
      have hz' : sep ∉ z := fun hm => ha (by simp [hm])
      obtain ⟨rfl, -⟩ := (append_sep_inj hp hz').1 hz
      exact ⟨x, rfl⟩
  · rintro (⟨x, rfl⟩ | ⟨x, y, rfl⟩)
    · exact ⟨x, r, by simp⟩
    · exact ⟨a ++ sep :: x, y, by simp⟩

end Fields

end Pattern
