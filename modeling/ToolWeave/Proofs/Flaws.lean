import ToolWeave.Proofs.Nesting

/-!
# What no document contains

Some things are in no document at all, wherever they stand: a word for a number that is not finite, a digit
behind a leading zero, a point or the letter of an exponent without digits around it, a comma in front of a
closing bracket, a control character in a string (`Json.Flawed.text_ne`).

## Main definitions

* `Json.Flawed`: a text has one of these flaws.
* `Json.Phase`, `Json.run`: the states of an automaton that reads texts from left to right.

## Design notes

**An automaton.**  Flaws are a matter of what stands next to what, so a finite automaton finds them.  It lets
more texts through than documents, for it does not match brackets, but it does let documents through
(`Json.Tree.run_write`).  Every flaw takes it to a state that it never leaves.
-/

namespace ToolWeave

namespace Json

/-! ### Flaws -/

/-- Where the place behind some characters is, inside a string or outside. -/
def quotation (cs : List Char) : Quotation := cs.foldl Quotation.next .outside

/-- A character belongs to a number. -/
def InNumber (c : Char) : Prop := c.isDigit = true ∨ c ∈ ['.', 'e', 'E', '+', '-']

/-- What follows does not start with a digit. -/
def NoDigitNext (cs : List Char) : Prop := ∀ c ∈ cs.head?, c.isDigit = false

/-- A text has something that is not allowed where it stands. -/
inductive Flawed : List Char → Prop
  /-- A byte order mark in front. -/
  | byteOrderMark (after : List Char) : Flawed ('\uFEFF' :: after)
  /-- A word for a number that is not finite. -/
  | constant {before word : List Char} (after : List Char) : quotation before = .outside →
      word ∈ ["NaN".toList, "Infinity".toList, "-Infinity".toList] → Flawed (before ++ (word ++ after))
  /-- A zero, after a minus or not, and another digit behind it. -/
  | leadingZero {before sign : List Char} {digit : Char} (after : List Char) : quotation before = .outside →
      (∀ c ∈ before.getLast?, ¬ InNumber c) → sign ∈ [[], ['-']] → digit.isDigit = true →
        Flawed (before ++ (sign ++ '0' :: digit :: after))
  /-- A point without a digit in front of it. -/
  | pointFirst {before : List Char} (after : List Char) : quotation before = .outside →
      (∀ c ∈ before.getLast?, c.isDigit = false) → Flawed (before ++ '.' :: after)
  /-- A point without a digit behind it. -/
  | pointLast {before after : List Char} : quotation before = .outside → NoDigitNext after →
      Flawed (before ++ '.' :: after)
  /-- An exponent without a digit in front of it. -/
  | exponentFirst {before : List Char} {letter next : Char} (after : List Char) : quotation before = .outside →
      (∀ c ∈ before.getLast?, c.isDigit = false) → letter = 'e' ∨ letter = 'E' →
        next.isDigit = true ∨ next = '+' ∨ next = '-' → Flawed (before ++ letter :: next :: after)
  /-- An exponent without a digit behind it. -/
  | exponentLast {before sign after : List Char} {digit letter : Char} :
      quotation before = .outside → digit.isDigit = true → letter = 'e' ∨ letter = 'E' →
        sign ∈ [[], ['+'], ['-']] → NoDigitNext after → (sign = [] → after.head? ∉ [some '+', some '-']) →
          Flawed (before ++ digit :: letter :: (sign ++ after))
  /-- A comma with nothing but space between it and a closing bracket or brace. -/
  | trailingComma {before : List Char} {closing : Char} (gap : Gap) (after : List Char) :
      quotation before = .outside → closing = ']' ∨ closing = '\x7d' →
        Flawed (before ++ ',' :: (gap.chars ++ closing :: after))
  /-- A control character inside a string. -/
  | control {before : List Char} {c : Char} (after : List Char) : quotation before ≠ .outside → c.toNat < 32 →
      Flawed (before ++ c :: after)

/-! ### The automaton -/

/-- What characters are to the automaton. -/
inductive CharClass where
  | space
  | lineSpace
  | control
  | opening
  | closing
  | comma
  | colon
  | quote
  | backslash
  | minus
  | plus
  | zero
  | digit
  | point
  | exponent
  | initial
  | letter
  | other
  deriving DecidableEq

/-- All classes. -/
def CharClass.all : List CharClass :=
  [space, lineSpace, control, opening, closing, comma, colon, quote, backslash, minus, plus, zero, digit, point,
    exponent, initial, letter, other]

theorem CharClass.mem_all (k : CharClass) : k ∈ all := by
  cases k <;> decide

/-- What all classes have in common is found by going through them. -/
instance forallClassDecidable (p : CharClass → Prop) [DecidablePred p] : Decidable (∀ k, p k) :=
  decidable_of_iff (∀ k ∈ CharClass.all, p k) ⟨fun h k => h k k.mem_all, fun h k _ => h k⟩

/-- The class of a character. -/
def classify : Char → CharClass
  | ' ' => .space
  | '\t' | '\n' | '\r' => .lineSpace
  | '[' | '\x7b' => .opening
  | ']' | '\x7d' => .closing
  | ',' => .comma
  | ':' => .colon
  | '"' => .quote
  | '\\' => .backslash
  | '-' => .minus
  | '+' => .plus
  | '0' => .zero
  | '.' => .point
  | 'e' | 'E' => .exponent
  | 't' | 'f' | 'n' => .initial
  | 'r' | 'u' | 'a' | 'l' | 's' => .letter
  | c => if c.toNat < 32 then .control else if c.isDigit then .digit else .other

/-- The states: between the parts of a text, in a number, in a word, in a string, or behind a flaw. -/
inductive Phase where
  | gap
  | comma
  | minus
  | zero
  | whole
  | point
  | fraction
  | letter
  | signed
  | exponent
  | word
  | string
  | escape
  | flawed
  deriving DecidableEq

namespace Phase

/-- All states. -/
def all : List Phase :=
  [gap, comma, minus, zero, whole, point, fraction, letter, signed, exponent, word, string, escape, flawed]

theorem mem_all (s : Phase) : s ∈ all := by
  cases s <;> decide

/-- What all states have in common is found by going through them. -/
instance forallPhaseDecidable (p : Phase → Prop) [DecidablePred p] : Decidable (∀ s, p s) :=
  decidable_of_iff (∀ s ∈ all, p s) ⟨fun h s => h s s.mem_all, fun h s _ => h s⟩

/-- What comes after a value, or after space. -/
def between : CharClass → Phase
  | .space | .lineSpace | .opening | .closing | .colon => gap
  | .comma => comma
  | _ => flawed

/-- What starts a value, and what comes between values. -/
def start : CharClass → Phase
  | .quote => string
  | .minus => minus
  | .zero => zero
  | .digit => whole
  | .initial => word
  | k => between k

/-- One character further. -/
def step : Phase → CharClass → Phase
  | gap, k => start k
  | comma, .space | comma, .lineSpace => comma
  | comma, .closing => flawed
  | comma, k => start k
  | minus, .zero => zero
  | minus, .digit => whole
  | zero, .point | whole, .point => point
  | zero, .exponent | whole, .exponent | fraction, .exponent => letter
  | whole, .zero | whole, .digit => whole
  | point, .zero | point, .digit | fraction, .zero | fraction, .digit => fraction
  | letter, .plus | letter, .minus => signed
  | letter, .zero | letter, .digit | signed, .zero | signed, .digit => exponent
  | exponent, .zero | exponent, .digit => exponent
  | zero, k | whole, k | fraction, k | exponent, k => between k
  | word, .initial | word, .letter | word, .exponent => word
  | word, k => between k
  | string, .quote => gap
  | string, .backslash => escape
  | string, .control | string, .lineSpace | escape, .control | escape, .lineSpace => flawed
  | string, _ | escape, _ => string
  | _, _ => flawed

/-- A value may end here, or has ended. -/
def isClosed (s : Phase) : Bool := s ∈ [gap, zero, whole, fraction, exponent, word]

/-- A value may start here. -/
def isReady (s : Phase) : Bool := s ∈ [gap, comma]

theorem isReady_gap : gap.isReady = true := rfl

theorem isReady_comma : comma.isReady = true := rfl

/-- Where a state is, inside a string or outside. -/
def quotation : Phase → Quotation
  | string => .inside
  | escape => .escaped
  | _ => .outside

end Phase

/-- The state behind some characters, from a state in front of them. -/
def run (s : Phase) (cs : List Char) : Phase := cs.foldl (fun s c => s.step (classify c)) s

/-! ### Classes of characters -/

section Classes

variable {c : Char}

/-- Some classes have one character only. -/
theorem eq_of_classify {k : CharClass} {char : Char} (h : classify c = k)
    (hk : (k, char) ∈ [(CharClass.quote, '"'), (.backslash, '\\'), (.plus, '+'), (.minus, '-')]) : c = char := by
  simp only [List.mem_cons, Prod.mk.injEq, List.not_mem_nil, or_false] at hk
  unfold classify at h
  split at h
  all_goals first
    | (rcases hk with ⟨rfl, rfl⟩ | ⟨rfl, rfl⟩ | ⟨rfl, rfl⟩ | ⟨rfl, rfl⟩ <;> cases h <;> rfl)
    | skip
  rcases hk with ⟨rfl, rfl⟩ | ⟨rfl, rfl⟩ | ⟨rfl, rfl⟩ | ⟨rfl, rfl⟩ <;> split_ifs at h

theorem classify_ne_quote (h : c ≠ '"') : classify c ≠ .quote := fun hclass => h (eq_of_classify hclass (by decide))

theorem classify_ne_backslash (h : c ≠ '\\') : classify c ≠ .backslash :=
  fun hclass => h (eq_of_classify hclass (by decide))

theorem eq_plus_of_classify (h : classify c = .plus) : c = '+' := eq_of_classify h (by decide)

theorem eq_minus_of_classify (h : classify c = .minus) : c = '-' := eq_of_classify h (by decide)

theorem classify_of_isDigit (h : c.isDigit = true) :
    classify c ∈ [CharClass.zero, .digit] ∧ (c ≠ '0' → classify c = .digit) := by
  have hlarge : ¬ c.toNat < 32 := by
    have hzero : '0'.toNat = 48 := rfl
    rw [Char.isDigit_iff_toNat] at h
    omega
  unfold classify
  split
  all_goals first | cases h | skip
  · exact ⟨List.mem_cons_self, fun hne => absurd rfl hne⟩
  · rw [if_neg hlarge, if_pos h]
    exact ⟨List.mem_cons_of_mem _ List.mem_cons_self, fun _ => rfl⟩

theorem isDigit_of_classify (h : classify c ∈ [CharClass.zero, .digit]) : c.isDigit = true := by
  unfold classify at h
  split at h
  all_goals first | rfl | exact absurd h (by decide) | skip
  split_ifs at h
  · exact absurd h (by decide)
  · assumption
  · exact absurd h (by decide)

theorem inNumber_of_classify (h : classify c ∈ [CharClass.zero, .digit, .point, .exponent, .plus, .minus]) :
    InNumber c := by
  unfold classify at h
  split at h
  all_goals first | exact .inl rfl | exact .inr (by decide) | exact absurd h (by decide) | skip
  split_ifs at h with _ hdigit
  · exact absurd h (by decide)
  · exact .inl hdigit
  · exact absurd h (by decide)

theorem classify_blank (h : c = ' ' ∨ c = '\t' ∨ c = '\n' ∨ c = '\r') :
    classify c ∈ [CharClass.space, .lineSpace] := by
  rcases h with rfl | rfl | rfl | rfl <;> decide

theorem classify_closing (h : c = ']' ∨ c = '\x7d') : classify c = .closing := by
  rcases h with rfl | rfl <;> rfl

theorem classify_exponent (h : c = 'e' ∨ c = 'E') : classify c = .exponent := by
  rcases h with rfl | rfl <;> rfl

theorem classify_not_digit (h : c.isDigit = false) : classify c ∉ [CharClass.zero, .digit] := by
  intro hclass
  rw [isDigit_of_classify hclass] at h
  cases h

/-- Whether a character is a control character can be read off its class. -/
theorem classify_control : c.toNat < 32 ↔ classify c ∈ [CharClass.control, .lineSpace] := by
  unfold classify
  split
  all_goals first | (constructor <;> decide) | skip
  split_ifs with hcontrol hdigit
  · exact iff_of_true hcontrol (by decide)
  · exact iff_of_false hcontrol (by decide)
  · exact iff_of_false hcontrol (by decide)

end Classes

/-! ### Runs -/

section Runs

variable {s t : Phase} {c : Char} {cs rest : List Char}

theorem run_cons (s : Phase) (c : Char) (cs : List Char) : run s (c :: cs) = run (s.step (classify c)) cs := rfl

theorem run_append (s : Phase) (cs rest : List Char) : run s (cs ++ rest) = run (run s cs) rest :=
  List.foldl_append

theorem run_flawed (cs : List Char) : run .flawed cs = .flawed := by
  induction cs with
  | nil => rfl
  | cons c cs ih =>
    have hstep : ∀ k, Phase.flawed.step k = .flawed := by decide
    rw [run_cons, hstep, ih]

/-- Digits, one at least, lead to the state that each of them leads to. -/
theorem run_digits (digits : Digits) (hfirst : ∀ k ∈ [CharClass.zero, .digit], s.step k = t)
    (hmore : ∀ k ∈ [CharClass.zero, .digit], t.step k = t) : run s (digits.chars ++ rest) = run t rest := by
  have hall {cs : List Char} (hcs : ∀ c ∈ cs, c.isDigit = true) : run t (cs ++ rest) = run t rest := by
    induction cs with
    | nil => rfl
    | cons c cs ih =>
      obtain ⟨hc, hcs⟩ := List.forall_mem_cons.mp hcs
      rw [List.cons_append, run_cons, hmore _ (classify_of_isDigit hc).1, ih hcs]
  obtain ⟨c, cs, hchars⟩ := List.exists_cons_of_ne_nil digits.ne_nil
  have hdigits := digits.allDigits
  rw [hchars] at hdigits
  obtain ⟨hc, hcs⟩ := List.forall_mem_cons.mp hdigits
  rw [hchars, List.cons_append, run_cons, hfirst _ (classify_of_isDigit hc).1, hall hcs]

/-- Space keeps a place between values what it is, and ends a value. -/
theorem run_gap (gap : Gap) (hready : s.isReady = true) : run s (gap.chars ++ rest) = run s rest := by
  have hstay : ∀ s : Phase, s.isReady = true → ∀ k ∈ [CharClass.space, .lineSpace], s.step k = s := by decide
  have hall {cs : List Char} (hcs : ∀ c ∈ cs, c = ' ' ∨ c = '\t' ∨ c = '\n' ∨ c = '\r') :
      run s (cs ++ rest) = run s rest := by
    induction cs with
    | nil => rfl
    | cons c cs ih =>
      obtain ⟨hc, hcs⟩ := List.forall_mem_cons.mp hcs
      rw [List.cons_append, run_cons, hstay s hready _ (classify_blank hc), ih hcs]
  exact hall gap.blank

/-- Space behind a value leaves it closed. -/
theorem run_gap_closed (gap : Gap) (hclosed : s.isClosed = true) :
    ∃ t : Phase, t.isClosed = true ∧ run s (gap.chars ++ rest) = run t rest := by
  have hstep : ∀ s : Phase, s.isClosed = true → ∀ k ∈ [CharClass.space, .lineSpace], s.step k = .gap := by decide
  obtain ⟨chars, hblank⟩ := gap
  cases chars with
  | nil => exact ⟨s, hclosed, rfl⟩
  | cons c cs =>
    obtain ⟨hc, hcs⟩ := List.forall_mem_cons.mp hblank
    refine ⟨.gap, rfl, ?_⟩
    rw [List.cons_append, run_cons, hstep s hclosed _ (classify_blank hc)]
    exact run_gap ⟨cs, hcs⟩ rfl

/-! ### Trees run through -/

theorem run_exponent (e : Option Exponent) (hs : s ∈ [Phase.zero, .whole, .fraction]) :
    ∃ t : Phase, t.isClosed = true ∧ run s (Numeral.writeExponent e rest) = run t rest := by
  have hclosed : ∀ s ∈ [Phase.zero, .whole, .fraction], s.isClosed = true := by decide
  have hletter : ∀ s ∈ [Phase.zero, .whole, .fraction], s.step .exponent = .letter := by decide
  cases e with
  | none => exact ⟨s, hclosed s hs, rfl⟩
  | some e =>
    obtain ⟨letter, sign, digits, hclass⟩ := e
    refine ⟨.exponent, rfl, ?_⟩
    rw [Numeral.writeExponent, run_cons, classify_exponent hclass, hletter s hs]
    cases sign with
    | none => exact run_digits digits (by decide) (by decide)
    | plus => exact run_digits digits (by decide) (by decide)
    | minus => exact run_digits digits (by decide) (by decide)

theorem run_fraction (fraction : Option Digits) (hs : s ∈ [Phase.zero, .whole]) :
    ∃ t ∈ [Phase.zero, .whole, .fraction], run s (Numeral.writeFraction fraction rest) = run t rest := by
  have hpoint : ∀ s ∈ [Phase.zero, .whole], s.step .point = .point := by decide
  have hkeep : ∀ s ∈ [Phase.zero, .whole], s ∈ [Phase.zero, .whole, .fraction] := by decide
  cases fraction with
  | none => exact ⟨s, hkeep s hs, rfl⟩
  | some digits =>
    refine ⟨.fraction, by decide, ?_⟩
    rw [Numeral.writeFraction, run_cons, show classify '.' = .point from rfl, hpoint s hs]
    exact run_digits digits (by decide) (by decide)

/-- A whole part is a zero, or it starts with another digit. -/
theorem run_whole (n : Numeral) (hs : s ∈ [Phase.gap, .comma, .minus]) :
    ∃ t ∈ [Phase.zero, .whole], run s (n.whole.chars ++ rest) = run t rest := by
  have hzero : ∀ s ∈ [Phase.gap, .comma, .minus], s.step .zero = .zero := by decide
  have hdigit : ∀ s ∈ [Phase.gap, .comma, .minus], s.step .digit = .whole := by decide
  obtain ⟨c, cs, hchars⟩ := List.exists_cons_of_ne_nil n.whole.ne_nil
  have halone := n.zero_alone
  have hdigits := n.whole.allDigits
  rw [hchars] at halone hdigits ⊢
  obtain ⟨hc, hcs⟩ := List.forall_mem_cons.mp hdigits
  by_cases hfirst : c = '0'
  · subst hfirst
    refine ⟨.zero, by decide, ?_⟩
    rw [halone rfl, List.singleton_append, run_cons, show classify '0' = .zero from rfl, hzero s hs]
  · refine ⟨.whole, by decide, ?_⟩
    rw [List.cons_append, run_cons, (classify_of_isDigit hc).2 hfirst, hdigit s hs]
    cases cs with
    | nil => rfl
    | cons d cs => exact run_digits ⟨d :: cs, hcs, List.cons_ne_nil _ _⟩ (by decide) (by decide)

theorem run_numeral (n : Numeral) (hready : s.isReady = true) :
    ∃ t : Phase, t.isClosed = true ∧ run s (n.write rest) = run t rest := by
  have hminus : ∀ s : Phase, s.isReady = true → s.step .minus = .minus := by decide
  have hstart : ∀ s : Phase, s.isReady = true → s ∈ [Phase.gap, .comma, .minus] := by decide
  have hmagnitude {s : Phase} (hs : s ∈ [Phase.gap, .comma, .minus]) :
      ∃ t : Phase, t.isClosed = true ∧ run s (n.writeMagnitude rest) = run t rest := by
    obtain ⟨t, ht, hwhole⟩ := run_whole n hs
    obtain ⟨u, hu, hfraction⟩ := run_fraction n.fraction ht
    obtain ⟨v, hv, hexponent⟩ := run_exponent n.exponent hu
    exact ⟨v, hv, hwhole.trans (hfraction.trans hexponent)⟩
  unfold Numeral.write
  split
  · rw [run_cons, show classify '-' = .minus from rfl, hminus s hready]
    exact hmagnitude (by decide)
  · exact hmagnitude (hstart s hready)

/-- Inside a string everything but a quote, a backslash and control characters stays inside. -/
theorem run_plain (hquote : c ≠ '"') (hbackslash : c ≠ '\\') (hcontrol : 32 ≤ c.toNat) :
    run .string (c :: rest) = run .string rest := by
  have hstay : ∀ k : CharClass, k ≠ .quote → k ≠ .backslash → k ∉ [CharClass.control, .lineSpace] →
      Phase.string.step k = .string := by decide
  have hclass : classify c ∉ [CharClass.control, .lineSpace] := by
    rw [← classify_control]
    omega
  rw [run_cons, hstay _ (classify_ne_quote hquote) (classify_ne_backslash hbackslash) hclass]

theorem run_escape (hcontrol : 32 ≤ c.toNat) : run .string ('\\' :: c :: rest) = run .string rest := by
  have hstay : ∀ k : CharClass, k ∉ [CharClass.control, .lineSpace] → Phase.escape.step k = .string := by decide
  have hclass : classify c ∉ [CharClass.control, .lineSpace] := by
    rw [← classify_control]
    omega
  have hbackslash : Phase.string.step (classify '\\') = .escape := rfl
  rw [run_cons, hbackslash, run_cons, hstay _ hclass]

theorem run_piece (piece : Piece) : run .string (piece.write rest) = run .string rest := by
  have hdigit (digit : HexDigit) (after : List Char) : run .string (digit.char :: after) = run .string after := by
    obtain ⟨hquote, hbackslash⟩ := char_ne_delimiter digit
    have hcontrol : 32 ≤ digit.char.toNat := by
      obtain ⟨value, capital⟩ := digit
      revert value capital
      decide
    exact run_plain hquote hbackslash hcontrol
  cases piece with
  | plain c hplain => exact run_plain hplain.1 hplain.2.1 hplain.2.2
  | escape e =>
    have hcontrol : 32 ≤ e.letter.toNat := by cases e <;> decide
    exact run_escape hcontrol
  | unit a b c d => rw [Piece.write, run_escape (by decide), hdigit, hdigit, hdigit, hdigit]

theorem run_pieces (pieces : List Piece) (hready : s.isReady = true) :
    run s (writePieces pieces rest) = run .gap rest := by
  have hopen : ∀ s : Phase, s.isReady = true → s.step .quote = .string := by decide
  have hinside : run .string (pieces.foldr Piece.write ('"' :: rest)) = run .string ('"' :: rest) := by
    induction pieces with
    | nil => rfl
    | cons piece pieces ih => rw [List.foldr_cons, run_piece, ih]
  rw [writePieces, run_cons, show classify '"' = .quote from rfl, hopen s hready, hinside]
  rfl

theorem run_label (label : Label) (hready : s.isReady = true) : run s (label.write rest) = run .gap rest := by
  rw [Label.write, run_gap label.before hready, run_pieces label.name hready, run_gap label.after rfl]
  rfl

/-- Behind a value, and space, a closing bracket or brace closes it for good. -/
theorem run_closing (hclosed : s.isClosed = true) (hc : c = ']' ∨ c = '\x7d') :
    run s (c :: rest) = run .gap rest := by
  have hstep : ∀ s : Phase, s.isClosed = true → s.step .closing = .gap := by decide
  rw [run_cons, classify_closing hc, hstep s hclosed]

theorem run_opening (hready : s.isReady = true) (hc : c = '[' ∨ c = '\x7b') :
    run s (c :: rest) = run .gap rest := by
  have hstep : ∀ s : Phase, s.isReady = true → s.step .opening = .gap := by decide
  have hclass : classify c = .opening := by rcases hc with rfl | rfl <;> rfl
  rw [run_cons, hclass, hstep s hready]

theorem run_comma (hclosed : s.isClosed = true) : run s (',' :: rest) = run .comma rest := by
  have hstep : ∀ s : Phase, s.isClosed = true → s.step .comma = .comma := by decide
  rw [run_cons, show classify ',' = .comma from rfl, hstep s hclosed]

end Runs

mutual

/-- **Trees run through.**  Behind the text of a tree the automaton knows that a value may have ended. -/
theorem Tree.run_write (t : Tree) {s : Phase} (hready : s.isReady = true) (rest : List Char) :
    ∃ u : Phase, u.isClosed = true ∧ run s (t.write rest) = run u rest := by
  have hword : ∀ s : Phase, s.isReady = true → s.step .initial = .word := by decide
  cases t with
  | null =>
    refine ⟨.word, rfl, ?_⟩
    rw [Tree.write, run_cons, show classify 'n' = .initial from rfl, hword s hready]
    rfl
  | bool b =>
    refine ⟨.word, rfl, ?_⟩
    cases b with
    | true =>
      rw [Tree.write, run_cons, show classify 't' = .initial from rfl, hword s hready]
      rfl
    | false =>
      rw [Tree.write, run_cons, show classify 'f' = .initial from rfl, hword s hready]
      rfl
  | number n => exact run_numeral n hready
  | string pieces => exact ⟨.gap, rfl, run_pieces pieces hready⟩
  | emptyArray inside =>
    refine ⟨.gap, rfl, ?_⟩
    rw [Tree.write, run_opening hready (.inl rfl), run_gap inside rfl, run_closing rfl (.inl rfl)]
  | emptyObject inside =>
    refine ⟨.gap, rfl, ?_⟩
    rw [Tree.write, run_opening hready (.inr rfl), run_gap inside rfl, run_closing rfl (.inr rfl)]
  | array items =>
    obtain ⟨u, hclosed, hrun⟩ := items.run_write Phase.isReady_gap (']' :: rest)
    refine ⟨.gap, rfl, ?_⟩
    rw [Tree.write, run_opening hready (.inl rfl), hrun, run_closing hclosed (.inl rfl)]
  | object members =>
    obtain ⟨u, hclosed, hrun⟩ := members.run_write Phase.isReady_gap ('\x7d' :: rest)
    refine ⟨.gap, rfl, ?_⟩
    rw [Tree.write, run_opening hready (.inr rfl), hrun, run_closing hclosed (.inr rfl)]

theorem Items.run_write (items : Items) {s : Phase} (hready : s.isReady = true) (rest : List Char) :
    ∃ u : Phase, u.isClosed = true ∧ run s (items.write rest) = run u rest := by
  cases items with
  | last before item after =>
    obtain ⟨u, hclosed, hitem⟩ := item.run_write hready (after.chars ++ rest)
    obtain ⟨v, hend, hafter⟩ := run_gap_closed after hclosed
    exact ⟨v, hend, (run_gap before hready).trans (hitem.trans hafter)⟩
  | more before item after more =>
    obtain ⟨u, hclosed, hitem⟩ := item.run_write hready (after.chars ++ ',' :: more.write rest)
    obtain ⟨v, hend, hafter⟩ := run_gap_closed after hclosed
    obtain ⟨w, hlast, hmore⟩ := more.run_write Phase.isReady_comma rest
    refine ⟨w, hlast, ?_⟩
    rw [Items.write, run_gap before hready, hitem, hafter, run_comma hend, hmore]

theorem Members.run_write (members : Members) {s : Phase} (hready : s.isReady = true) (rest : List Char) :
    ∃ u : Phase, u.isClosed = true ∧ run s (members.write rest) = run u rest := by
  cases members with
  | last label before content after =>
    obtain ⟨u, hclosed, hcontent⟩ := content.run_write Phase.isReady_gap (after.chars ++ rest)
    obtain ⟨v, hend, hafter⟩ := run_gap_closed after hclosed
    refine ⟨v, hend, ?_⟩
    rw [Members.write, run_label label hready, run_gap before rfl, hcontent, hafter]
  | more label before content after more =>
    obtain ⟨u, hclosed, hcontent⟩ := content.run_write Phase.isReady_gap (after.chars ++ ',' :: more.write rest)
    obtain ⟨v, hend, hafter⟩ := run_gap_closed after hclosed
    obtain ⟨w, hlast, hmore⟩ := more.run_write Phase.isReady_comma rest
    refine ⟨w, hlast, ?_⟩
    rw [Members.write, run_label label hready, run_gap before rfl, hcontent, hafter, run_comma hend, hmore]

end

/-- A document leaves the automaton where a value may have ended. -/
theorem Document.isClosed_run (d : Document) : (run .gap d.text).isClosed = true := by
  obtain ⟨u, hclosed, htree⟩ := d.tree.run_write Phase.isReady_gap d.after.chars
  obtain ⟨v, hend, hafter⟩ := run_gap_closed d.after hclosed
  rw [List.append_nil] at hafter
  have hrun : run .gap d.text = v := by
    rw [Document.text, run_gap d.before rfl, htree, hafter]
    rfl
  rw [hrun]
  exact hend

/-! ### Flaws are found -/

section Found

variable {before after : List Char} {c : Char}

/-- One character further the automaton knows whether it is inside a string, unless this is a flaw. -/
theorem step_quotation (s : Phase) (c : Char) :
    s.step (classify c) = .flawed ∨ (s.step (classify c)).quotation = s.quotation.next c := by
  -- the class of a character tells all that matters for quotation
  have hclass : ∀ (s : Phase) (k : CharClass), s.step k = .flawed ∨ (s.step k).quotation =
      (match s.quotation, k with
        | .outside, .quote => .inside
        | .outside, _ => .outside
        | .inside, .quote => .outside
        | .inside, .backslash => .escaped
        | .inside, _ => .inside
        | .escaped, _ => .inside) := by decide
  refine (hclass s (classify c)).imp_right fun h => h.trans ?_
  by_cases hquote : c = '"'
  · subst hquote
    cases s.quotation <;> rfl
  by_cases hbackslash : c = '\\'
  · subst hbackslash
    cases s.quotation <;> rfl
  have hquote' := classify_ne_quote hquote
  have hbackslash' := classify_ne_backslash hbackslash
  generalize classify c = k at hquote' hbackslash'
  unfold Quotation.next
  cases s.quotation with
  | outside => cases k <;> simp_all
  | inside => cases k <;> simp_all
  | escaped => rfl

/-- The automaton knows whether it is inside a string, unless it has found a flaw. -/
theorem run_quotation (cs : List Char) :
    run .gap cs = .flawed ∨ (run .gap cs).quotation = quotation cs := by
  have hrun (s : Phase) (q : Quotation) (h : s = .flawed ∨ s.quotation = q) :
      run s cs = .flawed ∨ (run s cs).quotation = cs.foldl Quotation.next q := by
    induction cs generalizing s q with
    | nil => exact h
    | cons c cs ih =>
      rw [run_cons, List.foldl_cons]
      refine ih _ _ ?_
      rcases h with rfl | rfl
      · exact .inl rfl
      · exact step_quotation s c
  exact hrun .gap .outside (.inr rfl)

/-- Outside strings the automaton is in none. -/
theorem run_outside (h : quotation before = .outside) : run .gap before ∉ [Phase.string, .escape] := by
  have hstates : ∀ s : Phase, s = .flawed ∨ s.quotation = .outside → s ∉ [Phase.string, .escape] := by decide
  refine hstates _ ?_
  rw [← h]
  exact run_quotation before

/-- The automaton is at the start, or it has made a step for the last character. -/
theorem run_getLast (before : List Char) :
    run .gap before = .gap ∨ ∃ s : Phase, ∃ c ∈ before.getLast?, run .gap before = s.step (classify c) := by
  rcases List.eq_nil_or_concat before with rfl | ⟨first, c, rfl⟩
  · exact .inl rfl
  · refine .inr ⟨run .gap first, c, ?_, ?_⟩
    · rw [List.concat_eq_append, List.getLast?_append]
      rfl
    · rw [List.concat_eq_append, run_append]
      rfl

/-- Only a digit leads to a state where digits have been read. -/
theorem run_not_digits (h : ∀ c ∈ before.getLast?, c.isDigit = false) :
    run .gap before ∉ [Phase.zero, .whole, .fraction, .exponent] := by
  have hstates : ∀ s k, k ∉ [CharClass.zero, .digit] →
      Phase.step s k ∉ [Phase.zero, .whole, .fraction, .exponent] := by decide
  rcases run_getLast before with hstart | ⟨s, c, hc, hstep⟩
  · rw [hstart]
    decide
  · rw [hstep]
    refine hstates s _ fun hclass => ?_
    have hdigit := isDigit_of_classify hclass
    rw [h c hc] at hdigit
    cases hdigit

/-- Only what belongs to a number leads into one. -/
theorem run_not_number (h : ∀ c ∈ before.getLast?, ¬ InNumber c) :
    run .gap before ∈ [Phase.gap, .comma, .word, .string, .escape, .flawed] := by
  have hstates : ∀ s k, k ∉ [CharClass.zero, .digit, .point, .exponent, .plus, .minus] →
      Phase.step s k ∈ [Phase.gap, .comma, .word, .string, .escape, .flawed] := by decide
  rcases run_getLast before with hstart | ⟨s, c, hc, hstep⟩
  · rw [hstart]
    decide
  · rw [hstep]
    exact hstates s _ fun hclass => h c hc (inNumber_of_classify hclass)

theorem not_closed_flawed {s : Phase} (h : s = .flawed) (rest : List Char) : ¬ (run s rest).isClosed = true := by
  rw [h, run_flawed]
  decide

/-- Where something has to follow, a text does not end, and nothing else follows. -/
theorem not_closed_of_head {s : Phase} (hs : ¬ s.isClosed = true)
    (hafter : ∀ c ∈ after.head?, s.step (classify c) = .flawed) : ¬ (run s after).isClosed = true := by
  cases after with
  | nil => exact hs
  | cons c after => exact not_closed_flawed (hafter c rfl) after

/-- Behind the letter of an exponent a digit has to follow, with a sign in front of it or not. -/
theorem not_closed_letter {s : Phase} {sign : List Char} (hs : s ∈ [Phase.letter, .flawed])
    (hsign : sign ∈ [[], ['+'], ['-']]) (hafter : NoDigitNext after)
    (hunsigned : sign = [] → after.head? ∉ [some '+', some '-']) : ¬ (run s (sign ++ after)).isClosed = true := by
  have hbare : ∀ s ∈ [Phase.letter, .flawed], ¬ s.isClosed = true ∧
      ∀ k ∉ [CharClass.zero, .digit, .plus, .minus], s.step k = .flawed := by decide
  have hsigned : ∀ s ∈ [Phase.letter, .flawed], ∀ k ∈ [CharClass.plus, .minus],
      ¬ (s.step k).isClosed = true ∧ ∀ l ∉ [CharClass.zero, .digit], (s.step k).step l = .flawed := by decide
  rw [run_append]
  simp only [List.mem_cons, List.not_mem_nil, or_false] at hsign
  rcases hsign with rfl | rfl | rfl
  · -- without a sign what follows is none of a digit and a sign
    obtain ⟨hopen, hnext⟩ := hbare s hs
    refine not_closed_of_head hopen fun c hc => hnext _ fun hmem => ?_
    have hunsigned := hunsigned rfl
    rw [Option.mem_def.mp hc] at hunsigned
    have hkind : classify c ∈ [CharClass.zero, .digit] ∨ classify c = .plus ∨ classify c = .minus := by
      generalize classify c = k at hmem
      revert k
      decide
    rcases hkind with hdigit | hplus | hminus
    · exact classify_not_digit (hafter c hc) hdigit
    · rw [eq_plus_of_classify hplus] at hunsigned
      exact hunsigned List.mem_cons_self
    · rw [eq_minus_of_classify hminus] at hunsigned
      exact hunsigned (List.mem_cons_of_mem _ List.mem_cons_self)
  · obtain ⟨hopen, hnext⟩ := hsigned s hs .plus (by decide)
    exact not_closed_of_head hopen fun c hc => hnext _ (classify_not_digit (hafter c hc))
  · obtain ⟨hopen, hnext⟩ := hsigned s hs .minus (by decide)
    exact not_closed_of_head hopen fun c hc => hnext _ (classify_not_digit (hafter c hc))

/-- A flaw does not leave the automaton where a value may have ended. -/
theorem Flawed.not_closed {cs : List Char} (h : Flawed cs) : ¬ (run .gap cs).isClosed = true := by
  -- what the flaw does in a few steps is checked for all states that the characters before it may lead to
  cases h with
  | byteOrderMark after => exact not_closed_flawed rfl after
  | @constant before word after houtside hword =>
    have hother : ∀ s ∉ [Phase.string, .escape], s.step .other = .flawed ∧
        (s.step .minus).step .other = .flawed := by decide
    obtain ⟨hfirst, hsecond⟩ := hother _ (run_outside houtside)
    rw [run_append]
    simp only [List.mem_cons, List.not_mem_nil, or_false] at hword
    rcases hword with rfl | rfl | rfl
    · exact not_closed_flawed hfirst _
    · exact not_closed_flawed hfirst _
    · exact not_closed_flawed hsecond _
  | @leadingZero before sign digit after houtside hbefore hsign hdigit =>
    have hstates : ∀ s ∈ [Phase.gap, .comma, .word, .string, .escape, .flawed], s ∉ [Phase.string, .escape] →
        ∀ k ∈ [CharClass.zero, .digit], (s.step .zero).step k = .flawed ∧
          ((s.step .minus).step .zero).step k = .flawed := by decide
    obtain ⟨hplain, hminus⟩ := hstates _ (run_not_number hbefore) (run_outside houtside) _
      (classify_of_isDigit hdigit).1
    rw [run_append]
    simp only [List.mem_cons, List.not_mem_nil, or_false] at hsign
    rcases hsign with rfl | rfl
    · exact not_closed_flawed hplain after
    · exact not_closed_flawed hminus after
  | @pointFirst before after houtside hbefore =>
    have hstates : ∀ s ∉ [Phase.zero, .whole, .fraction, .exponent], s ∉ [Phase.string, .escape] →
        s.step .point = .flawed := by decide
    rw [run_append]
    exact not_closed_flawed (hstates _ (run_not_digits hbefore) (run_outside houtside)) after
  | @pointLast before after houtside hafter =>
    have hstates : ∀ s ∉ [Phase.string, .escape], ¬ (s.step .point).isClosed = true ∧
        ∀ k ∉ [CharClass.zero, .digit], (s.step .point).step k = .flawed := by decide
    obtain ⟨hpoint, hnext⟩ := hstates _ (run_outside houtside)
    rw [run_append, run_cons, show classify '.' = .point from rfl]
    exact not_closed_of_head hpoint fun c hc => hnext _ (classify_not_digit (hafter c hc))
  | @exponentFirst before letter next after houtside hbefore hletter hnext =>
    have hstates : ∀ s ∉ [Phase.zero, .whole, .fraction, .exponent], s ∉ [Phase.string, .escape] →
        ∀ k ∈ [CharClass.zero, .digit, .plus, .minus], (s.step .exponent).step k = .flawed := by decide
    have hnext : classify next ∈ [CharClass.zero, .digit, .plus, .minus] := by
      rcases hnext with hdigit | rfl | rfl
      · exact List.mem_append_left [.plus, .minus] (classify_of_isDigit hdigit).1
      · decide
      · decide
    have hflawed := hstates _ (run_not_digits hbefore) (run_outside houtside) _ hnext
    rw [← classify_exponent hletter] at hflawed
    rw [run_append]
    exact not_closed_flawed hflawed after
  | @exponentLast before sign after digit letter houtside hdigit hletter hsign hafter hunsigned =>
    have hstates : ∀ s ∉ [Phase.string, .escape], ∀ d ∈ [CharClass.zero, .digit],
        (s.step d).step .exponent ∈ [Phase.letter, .flawed] := by decide
    rw [run_append, run_cons, run_cons, classify_exponent hletter]
    exact not_closed_letter (hstates _ (run_outside houtside) _ (classify_of_isDigit hdigit).1) hsign hafter
      hunsigned
  | @trailingComma before closing gap after houtside hclosing =>
    have hstates : ∀ s ∉ [Phase.string, .escape], s.step .comma ∈ [Phase.comma, .flawed] := by decide
    have hcomma := hstates _ (run_outside houtside)
    rw [run_append, run_cons, show classify ',' = .comma from rfl]
    simp only [List.mem_cons, List.not_mem_nil, or_false] at hcomma
    rcases hcomma with hcomma | hflawed
    · rw [hcomma, run_gap gap rfl, run_cons, classify_closing hclosing]
      exact not_closed_flawed rfl after
    · exact not_closed_flawed hflawed _
  | @control before c after hinside hcontrol =>
    have hstates : ∀ s : Phase, s = .flawed ∨ s.quotation ≠ .outside →
        ∀ k ∈ [CharClass.control, .lineSpace], s.step k = .flawed := by decide
    have hstring := (run_quotation before).imp_right fun h => h.trans_ne hinside
    rw [run_append]
    exact not_closed_flawed (hstates _ hstring _ (classify_control.mp hcontrol)) after

/-- **No document has a flaw.** -/
theorem Flawed.text_ne {cs : List Char} (h : Flawed cs) (d : Document) : d.text ≠ cs := by
  rintro rfl
  exact h.not_closed d.isClosed_run

end Found

end Json

end ToolWeave
