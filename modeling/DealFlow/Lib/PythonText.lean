import Mathlib.Data.List.DropRight
import Mathlib.Data.List.TakeWhile
import Mathlib.Data.Nat.Digits.Defs
import Mathlib.Data.Nat.Digits.Lemmas

/-!
# Text as Python reads it

`str.strip` and `int(text)` over Unicode 14, and `str(n)`.  A conversion between an integer and
text is bounded in its digits (`sys.set_int_max_str_digits`), where the limit is not zero.

* `pythonInt_eq_some_iff`: what `int` reads, as a grammar (`Denotes`).
* `Denotes.toString`: an integer that prints denotes itself.
* `Denotes.prints`: what is read within the limit prints within it.
* `eq_of_pythonInt_toString`: what is read in the text of an integer is the integer.
* `trim_padded`: a text is what is left of it between its blanks.
-/

namespace DealFlow.Lib

/-! ## Characters -/

/-- `str.isspace`, of one character. -/
def isSpace (c : Char) : Bool :=
  let code := c.toNat
  (0x9 ≤ code && code ≤ 0xd) || (0x1c ≤ code && code ≤ 0x20) || (0x2000 ≤ code && code ≤ 0x200a) ||
    [0x85, 0xa0, 0x1680, 0x2028, 0x2029, 0x202f, 0x205f, 0x3000].contains code

/-- `str.isascii`. -/
def isAscii (text : List Char) : Bool :=
  text.all (·.toNat < 128)

/-- What `int` passes over on both sides: whitespace, but not the separators of ASCII. -/
def isBlank (c : Char) : Bool :=
  isSpace c && !(0x1c ≤ c.toNat && c.toNat ≤ 0x1f)

/-- The zeros among the decimal digits (category Nd).  Nine more digits follow each of them. -/
def decimalZeros : List ℕ :=
  [0x30, 0x660, 0x6f0, 0x7c0, 0x966, 0x9e6, 0xa66, 0xae6, 0xb66, 0xbe6, 0xc66, 0xce6, 0xd66, 0xde6,
    0xe50, 0xed0, 0xf20, 0x1040, 0x1090, 0x17e0, 0x1810, 0x1946, 0x19d0, 0x1a80, 0x1a90, 0x1b50,
    0x1bb0, 0x1c40, 0x1c50, 0xa620, 0xa8d0, 0xa900, 0xa9d0, 0xa9f0, 0xaa50, 0xabf0, 0xff10, 0x104a0,
    0x10d30, 0x11066, 0x110f0, 0x11136, 0x111d0, 0x112f0, 0x11450, 0x114d0, 0x11650, 0x116c0,
    0x11730, 0x118e0, 0x11950, 0x11c50, 0x11d50, 0x11da0, 0x16a60, 0x16ac0, 0x16b50, 0x1d7ce,
    0x1d7d8, 0x1d7e2, 0x1d7ec, 0x1d7f6, 0x1e140, 0x1e2f0, 0x1e950, 0x1fbf0]

/-- `unicodedata.decimal`. -/
def decimalValue (c : Char) : Option ℕ :=
  (decimalZeros.find? fun base => decide (base ≤ c.toNat ∧ c.toNat ≤ base + 9)).map (c.toNat - ·)

theorem decimalValue_spec {c : Char} {d : ℕ} (value : decimalValue c = some d) :
    d < 10 ∧ ∃ base ∈ decimalZeros, c = Char.ofNat (base + d) := by
  obtain ⟨base, found, rfl⟩ := Option.map_eq_some_iff.mp value
  have within := List.find?_some found
  rw [decide_eq_true_eq] at within
  refine ⟨by omega, base, List.mem_of_find?_eq_some found, ?_⟩
  rw [Nat.add_sub_cancel' within.1, Char.ofNat_toNat]

theorem decimalValue_digitChar : ∀ d < 10, decimalValue d.digitChar = some d := by
  decide +kernel

/-- No digit is passed over. -/
theorem not_isBlank_of_decimalValue {c : Char} {d : ℕ} (value : decimalValue c = some d) :
    isBlank c = false := by
  have apart : ∀ base ∈ decimalZeros, ∀ d < 10, isBlank (Char.ofNat (base + d)) = false := by
    decide +kernel
  obtain ⟨small, base, mem, rfl⟩ := decimalValue_spec value
  exact apart base mem d small

/-- A digit is none of the other characters of a number. -/
theorem ne_of_decimalValue {c e : Char} {d : ℕ} (value : decimalValue c = some d)
    (other : decimalValue e = none) : c ≠ e := by
  rintro rfl
  cases value.symm.trans other

/-- The letters beyond ASCII, by code point, that upper to ASCII letters alone. -/
def upperIntoAscii : List (ℕ × String) :=
  [(0xdf, "SS"), (0x131, "I"), (0x17f, "S"), (0xfb00, "FF"), (0xfb01, "FI"), (0xfb02, "FL"),
    (0xfb03, "FFI"), (0xfb04, "FFL"), (0xfb05, "ST"), (0xfb06, "ST")]

/-- `str.upper`, as far as it leads into ASCII: a letter that it takes anywhere else stays as it
is. -/
def upper (text : String) : String :=
  String.ofList (text.toList.flatMap fun c =>
    match upperIntoAscii.find? fun entry => entry.1 = c.toNat with
    | some (_, letters) => letters.toList
    | none => [c.toUpper])

/-! ## Blanks around a text -/

def trim (p : Char → Bool) (text : List Char) : List Char :=
  (text.dropWhile p).rdropWhile p

/-- `str.strip`. -/
def strip (text : List Char) : List Char :=
  trim isSpace text

section Trim

variable {p : Char → Bool} {before core after : List Char}

/-- A text without such characters is what is left, whatever it is padded with. -/
theorem trim_padded (plain : ∀ c ∈ core, p c = false) (leading : ∀ c ∈ before, p c = true)
    (trailing : ∀ c ∈ after, p c = true) : trim p (before ++ core ++ after) = core := by
  unfold trim
  rw [List.append_assoc, List.dropWhile_append_of_pos leading]
  cases core with
  | nil => rw [List.nil_append, List.dropWhile_eq_nil_iff.mpr trailing, List.rdropWhile_nil]
  | cons c rest =>
      have notFirst : ¬ p c = true := by simp [plain c List.mem_cons_self]
      rw [List.cons_append, List.dropWhile_cons_of_neg notFirst, ← List.cons_append]
      unfold List.rdropWhile
      rw [List.reverse_append,
        List.dropWhile_append_of_pos fun c mem => trailing c (List.mem_reverse.mp mem)]
      refine List.rdropWhile_eq_self_iff.mpr fun nonempty => ?_
      simp [plain _ (List.getLast_mem nonempty)]

theorem strip_eq_self {text : List Char} (plain : ∀ c ∈ text, isSpace c = false) :
    strip text = text := by
  have kept := @trim_padded isSpace [] text [] plain nofun nofun
  rwa [List.append_nil, List.nil_append] at kept

/-- What is taken off both ends consists of such characters. -/
theorem trim_spec (p : Char → Bool) (text : List Char) :
    ∃ before after, text = before ++ trim p text ++ after ∧ (∀ c ∈ before, p c = true) ∧
      ∀ c ∈ after, p c = true := by
  refine ⟨text.takeWhile p, (text.dropWhile p).rtakeWhile p, ?_, fun c => List.mem_takeWhile_imp,
    fun c => List.mem_rtakeWhile_imp⟩
  unfold trim
  rw [List.append_assoc, List.rdropWhile_append_rtakeWhile, List.takeWhile_append_dropWhile]

end Trim

/-! ## Integers -/

/-- The digits of a number, with single underscores between them. -/
def numeralDigits (text : List Char) : Option (List ℕ) :=
  let groups := text.splitOn '_'
  if [] ∈ groups then none else groups.flatten.mapM decimalValue

/-- The number that the digits write, the first of them in the highest place. -/
def ofDecimal (digits : List ℕ) : ℕ :=
  Nat.ofDigits 10 digits.reverse

/-- The sign before a number, and the rest. -/
def splitSign : List Char → ℤ × List Char
  | '-' :: rest => (-1, rest)
  | '+' :: rest => (1, rest)
  | text => (1, text)

/-- A conversion of so many digits is allowed. -/
def WithinLimit (limit digits : ℕ) : Prop :=
  limit = 0 ∨ digits ≤ limit

instance (limit digits : ℕ) : Decidable (WithinLimit limit digits) :=
  inferInstanceAs (Decidable (_ ∨ _))

/-- `int(text)`, `none` where it raises a `ValueError`. -/
def pythonInt (limit : ℕ) (text : List Char) : Option ℤ := do
  let signed := splitSign (trim isBlank text)
  let digits ← numeralDigits signed.2
  if WithinLimit limit digits.length then some (signed.1 * ofDecimal digits) else none

def Prints (limit : ℕ) (n : ℤ) : Prop :=
  WithinLimit limit (Nat.toDigits 10 n.natAbs).length

instance (limit : ℕ) (n : ℤ) : Decidable (Prints limit n) :=
  inferInstanceAs (Decidable (WithinLimit _ _))

/-- `str(n)`, `none` where it raises a `ValueError`. -/
def intText (limit : ℕ) (n : ℤ) : Option String :=
  if Prints limit n then some (toString n) else none

-- digits of any script, but no sign from outside of ASCII
example : (pythonInt 4300 " +1_2\u00a0".toList, pythonInt 4300 "\u0661\u0662".toList,
    pythonInt 4300 "\u22121".toList, pythonInt 2 "0012".toList) =
      (some 12, some 12, none, none) := by
  decide +kernel

/-! ## What `int` reads -/

/-- The text has these digits, in groups with an underscore between two of them. -/
def IsNumeral (text : List Char) (digits : List ℕ) : Prop :=
  ∃ groups : List (List Char), groups ≠ [] ∧ [] ∉ groups ∧ text = ['_'].intercalate groups ∧
    groups.flatten.map decimalValue = digits.map some

inductive IsSign : List Char → ℤ → Prop
  | none : IsSign [] 1
  | plus : IsSign ['+'] 1
  | minus : IsSign ['-'] (-1)

/-- A number as it may be spelled: blanks, a sign, digits within the limit, and blanks. -/
inductive Denotes (limit : ℕ) : List Char → ℤ → Prop
  | intro {before signText body after : List Char} {sign : ℤ} {digits : List ℕ}
      (leading : ∀ c ∈ before, isBlank c = true) (signed : IsSign signText sign)
      (numeral : IsNumeral body digits) (fits : WithinLimit limit digits.length)
      (trailing : ∀ c ∈ after, isBlank c = true) :
      Denotes limit (before ++ (signText ++ body) ++ after) (sign * ofDecimal digits)

section Reading

variable {limit : ℕ} {text : List Char} {digits : List ℕ} {n : ℤ}

theorem mapM_eq_some_iff {α β : Type} {f : α → Option β} {xs : List α} {ys : List β} :
    xs.mapM f = some ys ↔ xs.map f = ys.map some := by
  induction xs generalizing ys with
  | nil => cases ys <;> simp
  | cons x xs ih =>
      rw [List.mapM_cons]
      cases ys with
      | nil => simp [Option.bind_eq_some_iff]
      | cons y ys => simp [Option.bind_eq_some_iff, ih]

theorem mem_intercalate {α : Type} {a : α} {sep : List α} {ls : List (List α)}
    (mem : a ∈ sep.intercalate ls) : a ∈ sep ∨ ∃ l ∈ ls, a ∈ l := by
  induction ls with
  | nil => cases mem
  | cons l rest ih =>
      cases rest with
      | nil => exact .inr ⟨l, List.mem_cons_self, by rwa [List.intercalate_singleton] at mem⟩
      | cons m rest =>
          rw [List.intercalate_cons_cons, List.append_assoc] at mem
          rcases List.mem_append.mp mem with here | mem
          · exact .inr ⟨l, List.mem_cons_self, here⟩
          · rcases List.mem_append.mp mem with between | mem
            · exact .inl between
            · exact (ih mem).imp_right fun ⟨l, lMem, aMem⟩ => ⟨l, List.mem_cons_of_mem _ lMem, aMem⟩

theorem numeralDigits_eq_some_iff : numeralDigits text = some digits ↔ IsNumeral text digits := by
  unfold numeralDigits
  constructor
  · intro read
    dsimp only at read
    split at read
    · cases read
    · next nonempty =>
        exact ⟨text.splitOn '_', List.splitOn_ne_nil _ _, nonempty,
          (List.intercalate_splitOn '_').symm, mapM_eq_some_iff.mp read⟩
  · intro numeral
    rcases numeral with ⟨groups, some_group, nonempty, rfl, digitsEq⟩
    have noScore : ∀ group ∈ groups, '_' ∉ group := by
      intro group mem score
      have value : decimalValue '_' ∈ groups.flatten.map decimalValue :=
        List.mem_map_of_mem (List.mem_flatten_of_mem mem score)
      rw [digitsEq] at value
      obtain ⟨d, -, eq⟩ := List.mem_map.mp value
      cases eq
    dsimp only
    rw [List.splitOn_intercalate '_' noScore some_group, if_neg nonempty]
    exact mapM_eq_some_iff.mpr digitsEq

/-- A number consists of digits and underscores. -/
theorem IsNumeral.digit_or_score (numeral : IsNumeral text digits) :
    ∀ c ∈ text, (∃ d, decimalValue c = some d) ∨ c = '_' := by
  obtain ⟨groups, -, -, rfl, digitsEq⟩ := numeral
  intro c mem
  rcases mem_intercalate mem with score | ⟨group, groupMem, mem⟩
  · exact .inr (List.mem_singleton.mp score)
  · have value : decimalValue c ∈ groups.flatten.map decimalValue :=
      List.mem_map_of_mem (List.mem_flatten_of_mem groupMem mem)
    rw [digitsEq] at value
    obtain ⟨d, -, eq⟩ := List.mem_map.mp value
    exact .inl ⟨d, eq.symm⟩

theorem IsNumeral.not_isBlank (numeral : IsNumeral text digits) :
    ∀ c ∈ text, isBlank c = false := by
  intro c mem
  rcases numeral.digit_or_score c mem with ⟨d, value⟩ | rfl
  · exact not_isBlank_of_decimalValue value
  · decide

theorem IsNumeral.ne_sign (numeral : IsNumeral text digits) :
    ∀ c ∈ text, c ≠ '-' ∧ c ≠ '+' := by
  intro c mem
  rcases numeral.digit_or_score c mem with ⟨d, value⟩ | rfl
  · exact ⟨ne_of_decimalValue value (by decide), ne_of_decimalValue value (by decide)⟩
  · decide

/-- A number has a digit. -/
theorem IsNumeral.digits_pos (numeral : IsNumeral text digits) : 0 < digits.length := by
  obtain ⟨groups, some_group, nonempty, -, digitsEq⟩ := numeral
  rcases List.exists_mem_of_ne_nil groups some_group with ⟨group, mem⟩
  have some_digit : group ≠ [] := fun empty => nonempty (empty ▸ mem)
  rcases List.exists_mem_of_ne_nil group some_digit with ⟨c, digit⟩
  have sameLength := congrArg List.length digitsEq
  rw [List.length_map, List.length_map] at sameLength
  have flat := List.length_pos_of_mem (List.mem_flatten_of_mem mem digit)
  omega

theorem IsNumeral.digits_lt (numeral : IsNumeral text digits) : ∀ d ∈ digits, d < 10 := by
  obtain ⟨groups, -, -, -, digitsEq⟩ := numeral
  intro d mem
  have value : some d ∈ groups.flatten.map decimalValue := digitsEq ▸ List.mem_map_of_mem mem
  obtain ⟨c, -, eq⟩ := List.mem_map.mp value
  exact (decimalValue_spec eq).1

theorem IsSign.not_isBlank {sign : ℤ} (signed : IsSign text sign) :
    ∀ c ∈ text, isBlank c = false := by
  cases signed with
  | none => exact nofun
  | plus => exact List.forall_mem_singleton.mpr (by decide)
  | minus => exact List.forall_mem_singleton.mpr (by decide)

theorem splitSign_spec (text : List Char) :
    ∃ signText, IsSign signText (splitSign text).1 ∧ text = signText ++ (splitSign text).2 := by
  unfold splitSign
  split
  · exact ⟨_, .minus, rfl⟩
  · exact ⟨_, .plus, rfl⟩
  · exact ⟨_, .none, rfl⟩

theorem IsSign.splitSign {signText : List Char} {sign : ℤ} (signed : IsSign signText sign)
    (numeral : IsNumeral text digits) : splitSign (signText ++ text) = (sign, text) := by
  cases signed with
  | plus => rfl
  | minus => rfl
  | none =>
      cases text with
      | nil => rfl
      | cons c rest =>
          obtain ⟨notMinus, notPlus⟩ := numeral.ne_sign c List.mem_cons_self
          unfold Lib.splitSign
          split
          · next eq => exact absurd (List.cons.inj eq).1 notMinus
          · next eq => exact absurd (List.cons.inj eq).1 notPlus
          · rfl

/-- `int` reads what the text denotes, and nothing else. -/
theorem pythonInt_eq_some_iff : pythonInt limit text = some n ↔ Denotes limit text n := by
  unfold pythonInt
  constructor
  · intro read
    obtain ⟨digits, numeral, read⟩ := Option.bind_eq_some_iff.mp read
    split at read
    · next fits =>
        cases read
        obtain ⟨before, after, textEq, leading, trailing⟩ := trim_spec isBlank text
        obtain ⟨signText, signed, coreEq⟩ := splitSign_spec (trim isBlank text)
        have spelled := Denotes.intro leading signed (numeralDigits_eq_some_iff.mp numeral) fits
          trailing
        rwa [← coreEq, ← textEq] at spelled
    · cases read
  · intro denotes
    rcases denotes with ⟨leading, signed, numeral, fits, trailing⟩
    have plain := List.forall_mem_append.mpr ⟨signed.not_isBlank, numeral.not_isBlank⟩
    rw [trim_padded plain leading trailing, signed.splitSign numeral]
    exact Option.bind_eq_some_iff.mpr
      ⟨_, numeralDigits_eq_some_iff.mpr numeral, if_pos fits⟩

end Reading

/-! ## What prints -/

section Printing

variable {limit : ℕ} {text : List Char} {n : ℤ}

theorem intText_eq_some_iff {printed : String} :
    intText limit n = some printed ↔ Prints limit n ∧ printed = toString n := by
  unfold intText
  split
  · next prints => exact ⟨fun eq => ⟨prints, (Option.some.inj eq).symm⟩, fun both => both.2 ▸ rfl⟩
  · next not => exact iff_of_false nofun fun both => not both.1

/-- The printed digits of a number have its value. -/
theorem toDigits_isNumeral (m : ℕ) :
    ∃ digits, IsNumeral (Nat.toDigits 10 m) digits ∧
      digits.length = (Nat.toDigits 10 m).length ∧ ofDecimal digits = m := by
  have read : ∃ digits : List ℕ, (Nat.toDigits 10 m).map decimalValue = digits.map some ∧
      ofDecimal digits = m := by
    induction m using Nat.strong_induction_on with
    | _ m ih =>
        rcases Nat.lt_or_ge m 10 with small | large
        · refine ⟨[m], ?_, Nat.ofDigits_singleton⟩
          rw [Nat.toDigits_of_lt_base small]
          exact congrArg (fun d => [d]) (decimalValue_digitChar m small)
        · obtain ⟨digits, digitsEq, value⟩ := ih (m / 10) (by omega)
          refine ⟨digits ++ [m % 10], ?_, ?_⟩
          · rw [Nat.toDigits_of_base_le (by omega) large, List.map_append, List.map_append,
              digitsEq]
            exact congrArg (fun d => digits.map some ++ [d])
              (decimalValue_digitChar (m % 10) (Nat.mod_lt m (by omega)))
          · unfold ofDecimal at value ⊢
            rw [List.reverse_append, List.reverse_singleton, List.singleton_append,
              Nat.ofDigits_cons, value]
            omega
  obtain ⟨digits, digitsEq, value⟩ := read
  have sameLength := congrArg List.length digitsEq
  rw [List.length_map, List.length_map] at sameLength
  refine ⟨digits, ⟨[Nat.toDigits 10 m], List.cons_ne_nil _ _, ?_, ?_, ?_⟩, sameLength.symm, value⟩
  · rw [List.mem_singleton]
    exact Nat.toDigits_ne_nil.symm
  · exact List.intercalate_singleton.symm
  · rw [List.flatten_singleton]
    exact digitsEq

/-- An integer that prints denotes itself. -/
theorem Denotes.toString (prints : Prints limit n) : Denotes limit (toString n).toList n := by
  obtain ⟨digits, numeral, sameLength, value⟩ := toDigits_isNumeral n.natAbs
  have fits : WithinLimit limit digits.length := sameLength ▸ prints
  have nothing : ∀ c ∈ ([] : List Char), isBlank c = true := fun c mem => nomatch mem
  cases n with
  | ofNat m =>
      have spelled := Denotes.intro nothing .none numeral fits nothing
      rw [value, one_mul, List.append_nil, List.nil_append, List.nil_append] at spelled
      change Denotes limit (Nat.repr m).toList m
      rwa [Nat.toList_repr]
  | negSucc m =>
      have spelled := Denotes.intro nothing .minus numeral fits nothing
      have size : (-1 : ℤ) * (Int.negSucc m).natAbs = Int.negSucc m := by omega
      rw [value, size, List.append_nil, List.nil_append] at spelled
      change Denotes limit ("-" ++ Nat.repr (m + 1)).toList (Int.negSucc m)
      rwa [String.toList_append, Nat.toList_repr]

theorem mem_toString {c : Char} (mem : c ∈ (toString n).toList) : c = '-' ∨ c.isDigit = true := by
  have digit : ∀ m, c ∈ (Nat.repr m).toList → c.isDigit = true := by
    intro m mem
    rw [Nat.toList_repr] at mem
    exact Nat.isDigit_of_mem_toDigits (by decide) (by decide) mem
  cases n with
  | ofNat m => exact .inr (digit m mem)
  | negSucc m =>
      change c ∈ ("-" ++ Nat.repr (m + 1)).toList at mem
      rw [String.toList_append] at mem
      rcases List.mem_append.mp mem with dash | mem
      · exact .inl (List.mem_singleton.mp dash)
      · exact .inr (digit _ mem)

/-- What is read within the limit prints within it. -/
theorem Denotes.prints (denotes : Denotes limit text n) : Prints limit n := by
  obtain @⟨before, signText, body, after, sign, digits, -, signed, numeral, fits, -⟩ := denotes
  have size : (sign * ofDecimal digits).natAbs = ofDecimal digits := by
    cases signed <;> simp
  have small : ofDecimal digits < 10 ^ digits.length := by
    rw [← List.length_reverse]
    refine Nat.ofDigits_lt_base_pow_length (by decide) fun d mem => ?_
    exact numeral.digits_lt d (List.mem_reverse.mp mem)
  unfold Prints
  rw [size]
  refine fits.imp_right fun within => ?_
  exact ((Nat.length_toDigits_le_iff (by decide) numeral.digits_pos).mpr small).trans within

theorem Denotes.unlimited (denotes : Denotes limit text n) : Denotes 0 text n := by
  cases denotes with
  | intro leading signed numeral fits trailing =>
      exact .intro leading signed numeral (.inl rfl) trailing

/-- What `int` reads in the text of an integer is the integer. -/
theorem eq_of_pythonInt_toString {m : ℤ} (read : pythonInt limit (toString n).toList = some m) :
    m = n := by
  have denoted := pythonInt_eq_some_iff.mpr (pythonInt_eq_some_iff.mp read).unlimited
  have printed : Prints 0 n := .inl rfl
  rw [pythonInt_eq_some_iff.mpr (Denotes.toString printed)] at denoted
  exact (Option.some.inj denoted).symm

/-- Numbers print apart. -/
theorem intToString_injective : Function.Injective fun n : ℤ => ToString.toString n := by
  intro n m same
  have read : pythonInt 0 (ToString.toString n).toList = some n :=
    pythonInt_eq_some_iff.mpr (Denotes.toString (.inl rfl))
  have texts : ToString.toString n = ToString.toString m := same
  rw [texts] at read
  exact eq_of_pythonInt_toString read

theorem toString_injective : Function.Injective fun m : ℕ => ToString.toString m :=
  fun _ _ same => Int.ofNat_inj.mp (intToString_injective same)

end Printing

end DealFlow.Lib
