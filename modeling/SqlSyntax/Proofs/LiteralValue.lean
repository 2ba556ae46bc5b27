import Mathlib.Tactic.Lemma
import Mathlib.Tactic.Set
import Mathlib.Data.Nat.Digits.Defs
import Mathlib.Data.List.Induction
import SqlSyntax.Literal

/-!
# What a literal denotes

A literal's reading is decided by its text alone, in a fixed order: a signed 64-bit integer, then
`TRUE` or `FALSE`, then a decimal number, then `NULL`, and otherwise the text itself less its
quotes.  This file states each reading against a grammar of its own and shows that the
recognisers accept exactly that grammar:

* an integer text is an optional sign and one or more ASCII digits, and its value is the digits
  read in base ten (`IntegerText`, `toInt?_eq_some_iff`);
* a decimal number is an optional sign, digits with at most one point and a digit on at least
  one side of it, and an optional exponent (`NumberText`); the float recogniser accepts exactly
  the numbers with a point or an exponent (`isFloatText_iff`), and together with the integer
  recogniser every number (`isNumberText_iff`);
* the string reading strips every quote at either end and no other character (`unquote_spec`).

Main statement: `value_spec`, the whole classification.
-/

namespace SqlSyntax

/-- Two texts are equal up to the case of ASCII letters. -/
def Text.EqualUpToAsciiCase (s t : String) : Prop :=
  s.toList.map Char.toLower = t.toList.map Char.toLower

namespace Literal

/-! ## The grammar of numbers -/

/-- An optional sign: nothing, `+` or `-`. -/
inductive Sign : List Char → Prop
  | none : Sign []
  | plus : Sign ['+']
  | minus : Sign ['-']

/-- One or more ASCII digits. -/
def Digits (ds : List Char) : Prop := ds ≠ [] ∧ ∀ c ∈ ds, c.isDigit = true

/-- The part of a number before its exponent: digits, or digits around a point with a digit on
at least one side. -/
inductive Mantissa : List Char → Prop
  | whole {w : List Char} : Digits w → Mantissa w
  | pointAfter {w f : List Char} :
      Digits w → (∀ c ∈ f, c.isDigit = true) → Mantissa (w ++ '.' :: f)
  | pointBefore {w f : List Char} :
      (∀ c ∈ w, c.isDigit = true) → Digits f → Mantissa (w ++ '.' :: f)

/-- An exponent: `e` or `E`, an optional sign and digits. -/
inductive Exponent : List Char → Prop
  | mk {e : Char} {s ds : List Char} :
      (e = 'e' ∨ e = 'E') → Sign s → Digits ds → Exponent (e :: (s ++ ds))

/-- A decimal number: an optional sign, a mantissa and an optional exponent. -/
def NumberText (cs : List Char) : Prop :=
  ∃ s m x, Sign s ∧ Mantissa m ∧ (x = [] ∨ Exponent x) ∧ cs = s ++ m ++ x

/-- The value of an ASCII digit. -/
def digitValue (c : Char) : Nat := c.toNat - '0'.toNat

/-- An integer text with its value: an optional sign and digits read in base ten, negated after
a minus. -/
def IntegerText (cs : List Char) (n : Int) : Prop :=
  ∃ s ds, Sign s ∧ Digits ds ∧ cs = s ++ ds ∧
    n = (if s = ['-'] then -1 else 1) * ((Nat.ofDigits 10 (ds.map digitValue).reverse : Nat) : Int)

/-- A text read as a signed 64-bit integer. -/
def IntegerReading (s : String) (n : Int) : Prop :=
  IntegerText s.toList n ∧ -2 ^ 63 ≤ n ∧ n ≤ 2 ^ 63 - 1

/-! ## Splitting at the first mark -/

section Split

variable (p : Char → Bool)

lemma splitFirst_of_forall {cs : List Char} (h : ∀ c ∈ cs, p c = false) :
    splitFirst p cs = (cs, none) := by
  induction cs with
  | nil => rfl
  | cons c cs ih =>
    have hc : p c = false := h c (by simp)
    simp [splitFirst, hc, ih fun x hx => h x (by simp [hx])]

lemma splitFirst_append_cons {before rest : List Char} {c : Char}
    (h : ∀ x ∈ before, p x = false) (hc : p c = true) :
    splitFirst p (before ++ c :: rest) = (before, some rest) := by
  induction before with
  | nil => simp [splitFirst, hc]
  | cons x before ih =>
    have hx : p x = false := h x (by simp)
    simp [splitFirst, hx, ih fun y hy => h y (by simp [hy])]

/-- A text either has no mark, and is its own first part, or splits around its first mark. -/
lemma splitFirst_cases (cs : List Char) :
    ((∀ c ∈ cs, p c = false) ∧ splitFirst p cs = (cs, none)) ∨
      ∃ before c rest, (∀ x ∈ before, p x = false) ∧ p c = true ∧ cs = before ++ c :: rest ∧
        splitFirst p cs = (before, some rest) := by
  induction cs with
  | nil => exact .inl ⟨by simp, rfl⟩
  | cons c cs ih =>
    cases hc : p c with
    | true => exact .inr ⟨[], c, cs, by simp, hc, rfl, by simp [splitFirst, hc]⟩
    | false =>
      rcases ih with ⟨hall, _⟩ | ⟨before, x, rest, hb, hx, rfl, _⟩
      · refine .inl ⟨?_, splitFirst_of_forall p ?_⟩ <;> simpa [hc] using hall
      · refine .inr ⟨c :: before, x, rest, ?_, hx, rfl, ?_⟩
        · simpa [hc] using hb
        · rw [← List.cons_append]
          exact splitFirst_append_cons p (by simpa [hc] using hb) hx

end Split

lemma Decimal.split_whole (cs : List Char) :
    (Decimal.split cs).whole =
      (splitFirst (· == '.') (splitFirst (fun c => c == 'e' || c == 'E') (dropSign cs)).1).1 :=
  rfl

lemma Decimal.split_fraction (cs : List Char) :
    (Decimal.split cs).fraction =
      (splitFirst (· == '.') (splitFirst (fun c => c == 'e' || c == 'E') (dropSign cs)).1).2 :=
  rfl

lemma Decimal.split_exponent (cs : List Char) :
    (Decimal.split cs).exponent = (splitFirst (fun c => c == 'e' || c == 'E') (dropSign cs)).2 :=
  rfl

/-! ## Signs and digits -/

/-- A digit is no sign, point or exponent mark. -/
lemma ne_of_isDigit {c : Char} (h : c.isDigit = true) :
    c ≠ '+' ∧ c ≠ '-' ∧ c ≠ '.' ∧ c ≠ 'e' ∧ c ≠ 'E' := by
  refine ⟨?_, ?_, ?_, ?_, ?_⟩ <;> rintro rfl <;> simp at h

lemma isDigits_iff (ds : List Char) : isDigits ds = true ↔ ∀ c ∈ ds, c.isDigit = true := by
  simp [isDigits]

/-- Dropping the sign of a signed text leaves what follows the sign, if that starts with no
sign. -/
lemma dropSign_append {s r : List Char} (hs : Sign s)
    (hr : ∀ c t, r = c :: t → c ≠ '+' ∧ c ≠ '-') : dropSign (s ++ r) = r := by
  cases hs with
  | none =>
    match r, hr with
    | [], _ => rfl
    | c :: t, hr =>
      obtain ⟨hp, hm⟩ := hr c t rfl
      simp [dropSign, hp, hm]
  | plus => rfl
  | minus => rfl

/-- Every text is a sign followed by the text with its sign dropped; the sign is a minus exactly
when the text starts with one. -/
lemma dropSign_cases (cs : List Char) :
    ∃ s, Sign s ∧ cs = s ++ dropSign cs ∧ (s = ['-'] ↔ cs.head? = some '-') := by
  rcases cs with _ | ⟨c, t⟩
  · exact ⟨[], .none, rfl, by simp⟩
  · by_cases hp : c = '+'
    · subst hp
      exact ⟨['+'], .plus, rfl, by simp⟩
    · by_cases hm : c = '-'
      · subst hm
        exact ⟨['-'], .minus, rfl, by simp⟩
      · -- any other first character is kept
        have hkeep : dropSign ([] ++ c :: t) = c :: t :=
          dropSign_append .none fun c' t' h => by
            cases h
            exact ⟨hp, hm⟩
        exact ⟨[], .none, by simpa using hkeep.symm, by simp [hm]⟩

lemma Digits.head_ne {ds : List Char} (hd : ∀ c ∈ ds, c.isDigit = true) :
    ∀ c t, ds = c :: t → c ≠ '+' ∧ c ≠ '-' := by
  rintro c t rfl
  obtain ⟨hp, hm, -⟩ := ne_of_isDigit (hd c (by simp))
  exact ⟨hp, hm⟩

/-! ## Integer texts -/

lemma digitsValue_eq (ds : List Char) :
    digitsValue ds = Nat.ofDigits 10 (ds.map digitValue).reverse := by
  induction ds using List.reverseRecOn with
  | nil => rfl
  | append_singleton ds c ih =>
    simp only [digitsValue, digitValue, List.foldl_append, List.foldl_cons, List.foldl_nil,
      List.map_append, List.map_cons, List.map_nil, List.reverse_append, List.reverse_cons,
      List.reverse_nil, List.nil_append, List.cons_append, Nat.ofDigits_cons] at ih ⊢
    rw [ih]
    omega

/-- The integer recogniser accepts exactly a sign followed by digits. -/
theorem isIntegerText_iff_exists (cs : List Char) :
    isIntegerText cs = true ↔ ∃ s ds, Sign s ∧ Digits ds ∧ cs = s ++ ds := by
  rw [isIntegerText_iff]
  constructor
  · rintro ⟨hne, hd⟩
    obtain ⟨s, hs, hcs, -⟩ := dropSign_cases cs
    exact ⟨s, dropSign cs, hs, ⟨hne, hd⟩, hcs⟩
  · rintro ⟨s, ds, hs, ⟨hne, hd⟩, rfl⟩
    rw [dropSign_append hs (Digits.head_ne hd)]
    exact ⟨hne, hd⟩

/-- An integer text's value: its digits read in base ten, negated after a minus. -/
lemma signedValue_append {s ds : List Char} (hs : Sign s) (hd : Digits ds) :
    signedValue (s ++ ds) =
      (if s = ['-'] then -1 else 1) * ((Nat.ofDigits 10 (ds.map digitValue).reverse : Nat) : Int) := by
  obtain ⟨hne, hdig⟩ := hd
  -- the text starts with a minus exactly when its sign is one, since digits follow the sign
  have hhead : ((s ++ ds).head? == some '-') = decide (s = ['-']) := by
    obtain ⟨c, t, rfl⟩ := List.exists_cons_of_ne_nil hne
    have hc : c ≠ '-' := (ne_of_isDigit (hdig c (by simp))).2.1
    cases hs <;> simp [hc]
  unfold signedValue
  rw [dropSign_append hs (Digits.head_ne hdig), hhead, digitsValue_eq]
  split <;> simp_all

/-- The integer texts are what the integer recogniser accepts, with their signed values. -/
lemma integerText_iff (cs : List Char) (n : Int) :
    IntegerText cs n ↔ isIntegerText cs = true ∧ signedValue cs = n := by
  constructor
  · rintro ⟨s, ds, hs, hd, rfl, rfl⟩
    exact ⟨(isIntegerText_iff_exists _).mpr ⟨s, ds, hs, hd, rfl⟩, signedValue_append hs hd⟩
  · rintro ⟨hi, rfl⟩
    obtain ⟨s, ds, hs, hd, rfl⟩ := (isIntegerText_iff_exists _).mp hi
    exact ⟨s, ds, hs, hd, rfl, signedValue_append hs hd⟩

lemma minInt_eq : minInt = -2 ^ 63 := by decide

lemma maxInt_eq : maxInt = 2 ^ 63 - 1 := by decide

/-- A literal reads as an integer exactly when its text is an integer text in the signed 64-bit
range. -/
theorem toInt?_eq_some_iff (l : Literal) (n : Int) :
    l.toInt? = some n ↔ IntegerReading l.text n := by
  unfold toInt? IntegerReading
  rw [integerText_iff, minInt_eq, maxInt_eq]
  by_cases hi : isIntegerText l.text.toList = true
  · simp only [hi, if_true, true_and]
    split
    · next hr =>
      simp only [Option.some.injEq]
      constructor
      · rintro rfl
        exact ⟨rfl, hr⟩
      · rintro ⟨rfl, -⟩
        rfl
    · next hr =>
      simp only [reduceCtorEq, false_iff, not_and]
      rintro rfl h1 h2
      exact hr ⟨h1, h2⟩
  · simp [hi]

/-- `toInt?` finds nothing exactly when the text has no integer reading. -/
lemma toInt?_eq_none_iff (l : Literal) : l.toInt? = none ↔ ¬∃ n, IntegerReading l.text n := by
  simp only [Option.eq_none_iff_forall_ne_some, ne_eq, toInt?_eq_some_iff, not_exists]

/-! ## Number texts -/

/-- A mantissa holds digits and points only. -/
lemma Mantissa.chars {m : List Char} (h : Mantissa m) : ∀ c ∈ m, c.isDigit = true ∨ c = '.' := by
  cases h with
  | whole hw => exact fun c hc => .inl (hw.2 c hc)
  | pointAfter hw hf =>
    intro c hc
    simp only [List.mem_append, List.mem_cons] at hc
    rcases hc with hc | hc | hc
    exacts [.inl (hw.2 c hc), .inr hc, .inl (hf c hc)]
  | pointBefore hw hf =>
    intro c hc
    simp only [List.mem_append, List.mem_cons] at hc
    rcases hc with hc | hc | hc
    exacts [.inl (hw c hc), .inr hc, .inl (hf.2 c hc)]

lemma Mantissa.head_ne {m : List Char} (h : Mantissa m) :
    ∀ c t, m = c :: t → c ≠ '+' ∧ c ≠ '-' := by
  rintro c t rfl
  rcases h.chars c (by simp) with hc | rfl
  · exact ⟨(ne_of_isDigit hc).1, (ne_of_isDigit hc).2.1⟩
  · decide

lemma Mantissa.noMark {m : List Char} (h : Mantissa m) :
    ∀ c ∈ m, (c == 'e' || c == 'E') = false := by
  intro c hc
  rcases h.chars c hc with hd | rfl
  · obtain ⟨-, -, -, he, hE⟩ := ne_of_isDigit hd
    simp [he, hE]
  · decide

lemma Exponent.split {x : List Char} (h : Exponent x) :
    ∃ e rest, (e == 'e' || e == 'E') = true ∧ x = e :: rest ∧ isIntegerText rest = true := by
  obtain ⟨he, hs, hd⟩ := h
  refine ⟨_, _, ?_, rfl, (isIntegerText_iff_exists _).mpr ⟨_, _, hs, hd, rfl⟩⟩
  rcases he with rfl | rfl <;> rfl

/-- The parts of a mantissa around its first point: digits alone, or digits, a point and
digits with a digit on at least one side. -/
lemma Mantissa.splitPoint {m : List Char} (h : Mantissa m) :
    (Digits m ∧ splitFirst (· == '.') m = (m, none)) ∨
      ∃ w f, (w ≠ [] ∨ f ≠ []) ∧ (∀ c ∈ w, c.isDigit = true) ∧ (∀ c ∈ f, c.isDigit = true) ∧
        splitFirst (· == '.') m = (w, some f) := by
  have noPoint : ∀ {w : List Char}, (∀ c ∈ w, c.isDigit = true) → ∀ c ∈ w, (c == '.') = false :=
    fun hw c hc => by simpa using (ne_of_isDigit (hw c hc)).2.2.1
  cases h with
  | whole hw => exact .inl ⟨hw, splitFirst_of_forall _ (noPoint hw.2)⟩
  | pointAfter hw hf =>
    exact .inr ⟨_, _, .inl hw.1, hw.2, hf, splitFirst_append_cons _ (noPoint hw.2) (by decide)⟩
  | pointBefore hw hf =>
    exact .inr ⟨_, _, .inr hf.1, hw, hf.2, splitFirst_append_cons _ (noPoint hw) (by decide)⟩

lemma Mantissa.ne_nil {m : List Char} (h : Mantissa m) : m ≠ [] := by
  cases h with
  | whole hw => exact hw.1
  | pointAfter => simp
  | pointBefore => simp

/-- A mantissa starts with no sign, whatever follows it. -/
lemma Mantissa.append_head_ne {m : List Char} (h : Mantissa m) (x : List Char) :
    ∀ c t, m ++ x = c :: t → c ≠ '+' ∧ c ≠ '-' := by
  intro c t hc
  obtain ⟨c', t', rfl⟩ := List.exists_cons_of_ne_nil h.ne_nil
  simp only [List.cons_append, List.cons.injEq] at hc
  obtain ⟨rfl, -⟩ := hc
  exact h.head_ne _ t' rfl

/-- A point is written exactly when the split at the first point finds one. -/
lemma mem_iff_isSome_splitFirst (m : List Char) :
    '.' ∈ m ↔ (splitFirst (· == '.') m).2.isSome := by
  rcases splitFirst_cases (· == '.') m with ⟨hall, hs⟩ | ⟨before, c, rest, -, hc, rfl, hs⟩
  · rw [hs]
    simp only [Option.isSome_none, Bool.false_eq_true, iff_false]
    intro hm
    simpa using hall '.' hm
  · have hc : c = '.' := by simpa using hc
    subst hc
    simp [hs]

/-- The mantissa conditions the recogniser checks on the parts around the first point make a
mantissa. -/
lemma mantissa_of_parts {m : List Char}
    (hne : (!(splitFirst (· == '.') m).1.isEmpty ||
      !((splitFirst (· == '.') m).2.getD []).isEmpty) = true)
    (hw : ∀ c ∈ (splitFirst (· == '.') m).1, c.isDigit = true)
    (hf : ∀ c ∈ (splitFirst (· == '.') m).2.getD [], c.isDigit = true) : Mantissa m := by
  rcases splitFirst_cases (· == '.') m with ⟨-, hs⟩ | ⟨before, c, rest, -, hc, rfl, hs⟩
  · -- no point: the mantissa is its digits
    rw [hs] at hne hw
    exact .whole ⟨by simpa using hne, hw⟩
  · -- a point: digits on at least one side of it
    rw [hs] at hne hw hf
    have hc : c = '.' := by simpa using hc
    subst hc
    by_cases hb : before = []
    · exact .pointBefore hw ⟨by simpa [hb] using hne, hf⟩
    · exact .pointAfter ⟨hb, hw⟩ hf

/-- The float recogniser accepts exactly the numbers written with a point or an exponent. -/
theorem isFloatText_iff (cs : List Char) :
    isFloatText cs = true ↔
      ∃ s m x, Sign s ∧ Mantissa m ∧ (x = [] ∨ Exponent x) ∧ cs = s ++ m ++ x ∧
        ('.' ∈ m ∨ x ≠ []) := by
  simp only [isFloatText, Decimal.split_whole, Decimal.split_fraction, Decimal.split_exponent,
    Bool.and_eq_true, Bool.or_eq_true, isDigits_iff]
  constructor
  · rintro ⟨⟨⟨⟨hne, hw⟩, hf⟩, hx⟩, hsome⟩
    obtain ⟨s, hs, hcs, -⟩ := dropSign_cases cs
    rcases splitFirst_cases (fun c => c == 'e' || c == 'E') (dropSign cs) with
      ⟨-, hE⟩ | ⟨mant, e, rest, -, he, hu, hE⟩
    · -- no exponent: the text after the sign is the mantissa, and it has a point
      rw [hE] at hne hw hf hsome
      refine ⟨s, dropSign cs, [], hs, mantissa_of_parts (by simpa using hne) hw hf, .inl rfl,
        by simpa using hcs, .inl ?_⟩
      rw [mem_iff_isSome_splitFirst]
      simpa using hsome
    · -- an exponent: the mantissa is before the first mark and an integer text after it
      rw [hE] at hne hw hf hx
      obtain ⟨s', ds, hs', hds, rfl⟩ := (isIntegerText_iff_exists rest).mp (by simpa using hx)
      have he : e = 'e' ∨ e = 'E' := by simpa using he
      refine ⟨s, mant, e :: (s' ++ ds), hs, mantissa_of_parts (by simpa using hne) hw hf,
        .inr (.mk he hs' hds), by rw [hcs, hu, List.append_assoc], .inr (by simp)⟩
  · rintro ⟨s, m, x, hs, hm, hx, rfl, hfloat⟩
    rw [List.append_assoc, dropSign_append hs (hm.append_head_ne x)]
    rcases hx with rfl | hx
    · -- no exponent: the point is the mantissa's
      have hpoint : '.' ∈ m := by simpa using hfloat
      rw [List.append_nil, splitFirst_of_forall _ hm.noMark]
      rcases hm.splitPoint with ⟨hd, hD⟩ | ⟨w, f, hne, hw, hf, hD⟩
      · rw [mem_iff_isSome_splitFirst, hD] at hpoint
        simp at hpoint
      · simp only [hD]
        simp_all
    · obtain ⟨e, rest, he, rfl, hrest⟩ := hx.split
      rw [splitFirst_append_cons _ hm.noMark he]
      rcases hm.splitPoint with ⟨hd, hD⟩ | ⟨w, f, hne, hw, hf, hD⟩
      · simp only [hD]
        simp_all [hd.1, hd.2]
      · simp only [hD]
        simp_all

/-- The two recognisers together accept exactly the decimal numbers. -/
theorem isNumberText_iff (cs : List Char) :
    (isFloatText cs || isIntegerText cs) = true ↔ NumberText cs := by
  rw [Bool.or_eq_true, isFloatText_iff, isIntegerText_iff_exists]
  constructor
  · rintro (⟨s, m, x, hs, hm, hx, hcs, -⟩ | ⟨s, ds, hs, hd, hcs⟩)
    · exact ⟨s, m, x, hs, hm, hx, hcs⟩
    · exact ⟨s, ds, [], hs, .whole hd, .inl rfl, by simp [hcs]⟩
  · rintro ⟨s, m, x, hs, hm, hx, hcs⟩
    by_cases hfloat : '.' ∈ m ∨ x ≠ []
    · exact .inl ⟨s, m, x, hs, hm, hx, hcs, hfloat⟩
    · -- no point and no exponent: the mantissa is digits alone
      simp only [not_or, not_not] at hfloat
      obtain ⟨hpoint, rfl⟩ := hfloat
      refine .inr ⟨s, m, hs, ?_, by simpa using hcs⟩
      rcases hm.splitPoint with ⟨hd, -⟩ | ⟨w, f, -, -, -, hsplit⟩
      · exact hd
      · exact absurd ((mem_iff_isSome_splitFirst m).mpr (by simp [hsplit])) hpoint

example : isFloatText "5.".toList = true ∧ isFloatText ".5e+3".toList = true ∧
    isFloatText "1e".toList = false ∧ isFloatText ".".toList = false ∧
    isFloatText "+-1.0".toList = false ∧ isFloatText "1.2.3".toList = false := by
  decide

/-! ## Quotes -/

/-- The leading run of quotes of a list is a run of quotes. -/
lemma takeWhile_quote (l : List Char) :
    l.takeWhile (· == '\'') = List.replicate (l.takeWhile (· == '\'')).length '\'' := by
  refine List.eq_replicate_iff.mpr ⟨rfl, fun c hc => ?_⟩
  have hall := List.all_eq_true.mp (List.all_takeWhile (p := (· == '\'')) (l := l)) c hc
  simpa using hall

/-- Unquoting strips every quote at either end and keeps all else. -/
theorem unquote_spec (s : String) :
    ∃ a b, s.toList = List.replicate a '\'' ++ (unquote s).toList ++ List.replicate b '\'' ∧
      (unquote s).toList.head? ≠ some '\'' ∧ (unquote s).toList.getLast? ≠ some '\'' := by
  -- the text less its leading quotes, and that less its trailing quotes
  set front := s.toList.dropWhile (· == '\'') with hfront
  set back := front.reverse.dropWhile (· == '\'') with hback
  have hu : (unquote s).toList = back.reverse := by simp [unquote, hfront, hback]
  have hs : s.toList = s.toList.takeWhile (· == '\'') ++ front := List.takeWhile_append_dropWhile.symm
  have hf : front.reverse = front.reverse.takeWhile (· == '\'') ++ back :=
    List.takeWhile_append_dropWhile.symm
  obtain ⟨a, ha⟩ : ∃ a, s.toList.takeWhile (· == '\'') = List.replicate a '\'' :=
    ⟨_, takeWhile_quote _⟩
  obtain ⟨b, hb⟩ : ∃ b, front.reverse.takeWhile (· == '\'') = List.replicate b '\'' :=
    ⟨_, takeWhile_quote _⟩
  refine ⟨a, b, ?_, ?_, ?_⟩
  · have hf' : front = back.reverse ++ List.replicate b '\'' := by
      rw [← List.reverse_replicate, ← hb, ← List.reverse_append, ← hf, List.reverse_reverse]
    calc s.toList = List.replicate a '\'' ++ front := by rw [← ha]; exact hs
      _ = List.replicate a '\'' ++ (unquote s).toList ++ List.replicate b '\'' := by
        rw [hf', hu, List.append_assoc]
  · -- a leading quote left would be the first character after the leading quotes
    rw [hu, List.head?_reverse]
    intro h
    have hlast : front.reverse.getLast? = some '\'' := by rw [hf, List.getLast?_append, h]; rfl
    rw [List.getLast?_reverse] at hlast
    have hnot := List.head?_dropWhile_not (· == '\'') s.toList
    rw [← hfront, hlast] at hnot
    simp at hnot
  · rw [hu, List.getLast?_reverse]
    intro h
    have hnot := List.head?_dropWhile_not (· == '\'') front.reverse
    rw [← hback, h] at hnot
    simp at hnot

/-! ## The readings in order -/

lemma equalUpToAsciiCase_length {s t : String} (h : Text.EqualUpToAsciiCase s t) :
    s.toList.length = t.toList.length := by
  simpa using congrArg List.length h

/-- Comparing a lower-cased text with the lower case of `T` is comparing the two texts up to the
case of ASCII letters. -/
lemma lower_beq_iff (s t T : String) (hT : T.toList.map Char.toLower = t.toList) :
    (s.map Char.toLower == t) = true ↔ Text.EqualUpToAsciiCase s T := by
  rw [beq_iff_eq, ← String.toList_inj, String.toList_map, Text.EqualUpToAsciiCase, hT]

lemma asInteger_eq (l : Literal) :
    l.asInteger = match l.toInt? with
      | some n => .ok n
      | none => .error (.notAnInteger l.text) := rfl

/-- A literal's reading, in order:

* an integer exactly when its text is an integer text in the signed 64-bit range, which is when
  reading it as an integer succeeds, with the same value; reading it fails otherwise, naming the
  text;
* then `TRUE` or `FALSE`, ASCII letters in either case;
* then a float exactly when the text is a decimal number, which is what the integer and float
  recognisers together accept;
* then `NULL`, ASCII letters in either case;
* and otherwise the text with every quote at either end removed. -/
theorem value_spec (l : Literal) :
    (∀ n, l.value = .integer n ↔ IntegerReading l.text n) ∧
    (∀ n, l.asInteger = .ok n ↔ IntegerReading l.text n) ∧
    ((¬∃ n, IntegerReading l.text n) → l.asInteger = .error (.notAnInteger l.text)) ∧
    ((isFloatText l.text.toList || isIntegerText l.text.toList) = true ↔
      NumberText l.text.toList) ∧
    ((¬∃ n, IntegerReading l.text n) →
      (l.value = .boolean true ↔ Text.EqualUpToAsciiCase l.text "TRUE") ∧
      (l.value = .boolean false ↔ Text.EqualUpToAsciiCase l.text "FALSE") ∧
      (¬Text.EqualUpToAsciiCase l.text "TRUE" → ¬Text.EqualUpToAsciiCase l.text "FALSE" →
        ((∃ x, l.value = .float x) ↔ NumberText l.text.toList) ∧
        (¬NumberText l.text.toList →
          (l.value = .null ↔ Text.EqualUpToAsciiCase l.text "NULL") ∧
          (¬Text.EqualUpToAsciiCase l.text "NULL" →
            ∃ t, l.value = .string t ∧
              ∃ a b, l.text.toList = List.replicate a '\'' ++ t.toList ++ List.replicate b '\'' ∧
                t.toList.head? ≠ some '\'' ∧ t.toList.getLast? ≠ some '\'')))) := by
  have htrue := lower_beq_iff l.text "true" "TRUE" (by decide)
  have hfalse := lower_beq_iff l.text "false" "FALSE" (by decide)
  have hnull := lower_beq_iff l.text "null" "NULL" (by decide)
  have hnumber := isNumberText_iff l.text.toList
  refine ⟨fun n => ?_, fun n => ?_, fun hno => ?_, hnumber, fun hno => ?_⟩
  · -- every reading after the integer one gives another kind of value
    rw [← toInt?_eq_some_iff]
    cases h : l.toInt? with
    | some m => simp [value, h]
    | none => simp only [value, h]; split_ifs <;> simp
  · rw [← toInt?_eq_some_iff, asInteger_eq]
    cases l.toInt? <;> simp
  · rw [asInteger_eq, (toInt?_eq_none_iff l).mpr hno]
  · have hnone : l.toInt? = none := (toInt?_eq_none_iff l).mpr hno
    -- `TRUE` and `FALSE` differ in length, so at most one of them matches
    have hexcl : Text.EqualUpToAsciiCase l.text "TRUE" → ¬Text.EqualUpToAsciiCase l.text "FALSE" :=
      fun ht hf => by simpa using (equalUpToAsciiCase_length ht).symm.trans (equalUpToAsciiCase_length hf)
    simp only [value, hnone]
    refine ⟨?_, ?_, fun hnt hnf => ⟨?_, fun hnn => ⟨?_, fun hnl => ?_⟩⟩⟩
    · by_cases ht : Text.EqualUpToAsciiCase l.text "TRUE"
      · rw [if_pos (htrue.mpr ht)]
        simp [ht]
      · rw [if_neg (mt htrue.mp ht)]
        simp only [ht, iff_false]
        split_ifs <;> simp
    · by_cases ht : Text.EqualUpToAsciiCase l.text "TRUE"
      · rw [if_pos (htrue.mpr ht)]
        simp [hexcl ht]
      · rw [if_neg (mt htrue.mp ht)]
        by_cases hf : Text.EqualUpToAsciiCase l.text "FALSE"
        · rw [if_pos (hfalse.mpr hf)]
          simp [hf]
        · rw [if_neg (mt hfalse.mp hf)]
          simp only [hf, iff_false]
          split_ifs <;> simp
    · rw [if_neg (mt htrue.mp hnt), if_neg (mt hfalse.mp hnf), ← hnumber]
      by_cases hn : (isFloatText l.text.toList || isIntegerText l.text.toList) = true
      · rw [if_pos hn]
        exact ⟨fun _ => hn, fun _ => ⟨_, rfl⟩⟩
      · rw [if_neg hn]
        refine ⟨?_, fun h => absurd h hn⟩
        rintro ⟨x, hx⟩
        split_ifs at hx
    · rw [if_neg (mt htrue.mp hnt), if_neg (mt hfalse.mp hnf), if_neg (mt hnumber.mp hnn)]
      by_cases hl : Text.EqualUpToAsciiCase l.text "NULL"
      · rw [if_pos (hnull.mpr hl)]
        simp [hl]
      · rw [if_neg (mt hnull.mp hl)]
        simp [hl]
    · rw [if_neg (mt htrue.mp hnt), if_neg (mt hfalse.mp hnf), if_neg (mt hnumber.mp hnn),
        if_neg (mt hnull.mp hnl)]
      exact ⟨_, rfl, unquote_spec l.text⟩

end Literal

end SqlSyntax
