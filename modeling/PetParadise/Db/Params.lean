/-
PetParadise.Db.Params — request parameters and how they become column
values.

The conversions are the framework's: `String#to_i` as Ruby reads a
number off the front of a text, the integer column cast (blank texts are
NULL, everything else goes through `to_i`), the string column cast of a
JSON scalar, and `to_date` against the datetime column cast. They differ
exactly on blank and unreadable texts, which is why a check and the value
stored afterwards are modelled by two functions.
-/
import PetParadise.Db.Casing
import PetParadise.Db.Records

namespace PetParadise

/-! ## Errors -/

/-- What ends a request early. All but the first two reach the client as
an error page. -/
inductive Failure where
  | unauthenticated
  | accessDenied
  | parameterMissing
  | recordNotFound
  | recordInvalid
  | recordNotSaved
  | noMethodError
  | argumentError
  | typeError
  | dateError
  | rangeError
  | unknownAttribute
  | redirectError
  | missingTemplate
  | gatewayError
  | statementInvalid
  | valueTooLong
  | recordNotUnique
  | unknownFormat
  deriving DecidableEq, Repr

/-! ## Texts -/

/-- The whitespace Ruby's `to_i` skips. -/
def isSpaceChar (c : Char) : Bool := c == ' ' || (9 ≤ c.toNat && c.toNat ≤ 13)

/-- `[[:space:]]`, the class behind `blank?`. -/
def isBlankChar (c : Char) : Bool :=
  isSpaceChar c || [0x85, 0xA0, 0x1680, 0x2028, 0x2029, 0x202F, 0x205F, 0x3000].contains c.toNat
    || (0x2000 ≤ c.toNat && c.toNat ≤ 0x200A)

/-- `String#blank?`. -/
def blank (s : String) : Bool := s.toList.all isBlankChar

/-- What `strip` takes away: the same whitespace, and NUL. -/
def isStripChar (c : Char) : Bool := isSpaceChar c || c.toNat == 0

/-- `String#strip`. -/
def strip (s : String) : String :=
  String.ofList ((s.toList.dropWhile isStripChar).reverse.dropWhile isStripChar).reverse

/-- Digits up to the first character that is neither a digit nor a single
underscore between digits. -/
def digitsValue : List Char → Nat → Nat
  | [], acc => acc
  | c :: cs, acc =>
      if c.isDigit then digitsValue cs (acc * 10 + (c.toNat - '0'.toNat))
      else if c == '_' then
        match cs with
        | d :: _ => if d.isDigit then digitsValue cs acc else acc
        | [] => acc
      else acc

/-- The unsigned part of `to_i`; a leading `0d` is a radix mark. -/
def leadingNat : List Char → Nat
  | '0' :: 'd' :: cs => unprefixed cs
  | '0' :: 'D' :: cs => unprefixed cs
  | cs => unprefixed cs
where
  unprefixed : List Char → Nat
    | c :: cs => if c.isDigit then digitsValue (c :: cs) 0 else 0
    | [] => 0

/-- `String#to_i`. -/
def toI (s : String) : Int :=
  match s.toList.dropWhile isSpaceChar with
  | '-' :: cs => - (leadingNat cs : Int)
  | '+' :: cs => leadingNat cs
  | cs => leadingNat cs

/-- `params[:quantity].to_i`: an absent parameter is `nil`, and
`nil.to_i` is 0. -/
def paramToI : Option String → Int
  | none => 0
  | some s => toI s

/-- An integer column's value for a text parameter. -/
def castInteger : Option String → Option Int
  | none => none
  | some s => if blank s then none else some (toI s)

example : toI " 12_3abc" = 123 := by decide
example : toI "-7" = -7 := by decide
example : toI "abc" = 0 := by decide

theorem not_isDigit_of_isBlankChar {c : Char} (h : isBlankChar c = true) :
    c.isDigit = false := by
  by_contra hdig
  rw [Bool.not_eq_false] at hdig
  simp only [Char.isDigit, Bool.and_eq_true, decide_eq_true_eq, ge_iff_le] at hdig
  have h48 : 48 ≤ c.toNat := UInt32.le_iff_toNat_le.mp hdig.1
  have h57 : c.toNat ≤ 57 := UInt32.le_iff_toNat_le.mp hdig.2
  have hsp : c ≠ ' ' := by rintro rfl; revert h48; decide
  simp only [isBlankChar, isSpaceChar, Bool.or_eq_true, beq_iff_eq, hsp, Bool.and_eq_true,
    decide_eq_true_eq, List.contains_iff_mem, List.mem_cons, List.not_mem_nil, false_or,
    or_false] at h
  omega

/-- A text of blanks has no number at its front. -/
theorem leadingNat_of_all_blank {cs : List Char} (h : cs.all isBlankChar = true) :
    leadingNat cs = 0 := by
  have hu : ∀ cs : List Char, cs.all isBlankChar = true → leadingNat.unprefixed cs = 0 := by
    intro cs hcs
    cases cs with
    | nil => rfl
    | cons c cs =>
      rw [List.all_cons, Bool.and_eq_true] at hcs
      simp [leadingNat.unprefixed, not_isDigit_of_isBlankChar hcs.1]
  unfold leadingNat
  split
  · simp only [List.all_cons, Bool.and_eq_true] at h; exact hu _ h.2.2
  · simp only [List.all_cons, Bool.and_eq_true] at h; exact hu _ h.2.2
  · exact hu _ h

theorem toI_of_blank {s : String} (h : blank s = true) : toI s = 0 := by
  have hdrop : (s.toList.dropWhile isSpaceChar).all isBlankChar = true := by
    rw [List.all_eq_true]
    intro c hc
    exact List.all_eq_true.mp h c ((List.dropWhile_sublist _).subset hc)
  unfold toI
  split
  · next heq => rw [heq] at hdrop; simp [isBlankChar, isSpaceChar] at hdrop
  · next heq => rw [heq] at hdrop; simp [isBlankChar, isSpaceChar] at hdrop
  · rw [leadingNat_of_all_blank hdrop]; rfl

/-- The number a check reads off a text is the number the column stores,
NULL counting as 0. -/
theorem castInteger_getD (q : Option String) : (castInteger q).getD 0 = paramToI q := by
  cases q with
  | none => rfl
  | some s =>
    cases h : blank s with
    | true => simp [castInteger, paramToI, h, toI_of_blank h]
    | false => simp [castInteger, paramToI, h]

/-- One more digit at the end. -/
theorem digitsValue_append_digit {cs : List Char} (hcs : ∀ c ∈ cs, c.isDigit = true) {d : Char}
    (hd : d.isDigit = true) (acc : Nat) :
    digitsValue (cs ++ [d]) acc = digitsValue cs acc * 10 + (d.toNat - '0'.toNat) := by
  induction cs generalizing acc with
  | nil => simp [digitsValue, hd]
  | cons c cs ih =>
    have hc : c.isDigit = true := hcs c List.mem_cons_self
    simp only [List.cons_append, digitsValue, hc, if_true]
    exact ih (fun b hb => hcs b (List.mem_cons_of_mem _ hb)) _

theorem isDigit_toDigits (n : Nat) : ∀ c ∈ Nat.toDigits 10 n, c.isDigit = true := fun _ hc =>
  Nat.isDigit_of_mem_toDigits (by decide) (by decide) hc

theorem digitsValue_toDigits (n : Nat) : digitsValue (Nat.toDigits 10 n) 0 = n := by
  induction n using Nat.strongRecOn with
  | ind n ih =>
    by_cases hlt : n < 10
    · rw [Nat.toDigits_of_lt_base hlt]
      have hval := Nat.toNat_digitChar_of_lt_ten hlt
      simp only [digitsValue, Nat.isDigit_digitChar, hlt, decide_true, if_true, hval]
      change 0 * 10 + (48 + n - 48) = n
      omega
    · have hmod : n % 10 < 10 := Nat.mod_lt _ (by decide)
      have hval := Nat.toNat_digitChar_of_lt_ten hmod
      rw [Nat.toDigits_of_base_le (by decide) (by omega),
        digitsValue_append_digit (isDigit_toDigits _) (by simp [Nat.isDigit_digitChar, hmod]),
        ih (n / 10) (by omega), hval]
      change n / 10 * 10 + (48 + n % 10 - 48) = n
      omega

/-- A text of digits is read to its end: no digit is a sign, a blank or
the `d` of a radix mark. -/
theorem leadingNat_toDigits (n : Nat) : leadingNat (Nat.toDigits 10 n) = n := by
  have hunprefixed : leadingNat.unprefixed (Nat.toDigits 10 n) = n := by
    cases h : Nat.toDigits 10 n with
    | nil => exact absurd h Nat.toDigits_ne_nil
    | cons c cs =>
      have hc : c.isDigit = true := isDigit_toDigits n c (h ▸ List.mem_cons_self)
      simp only [leadingNat.unprefixed, hc, if_true]
      rw [← h, digitsValue_toDigits]
  have hmark : ∀ d cs, ('0' :: d :: cs : List Char) = Nat.toDigits 10 n → d.isDigit = true := by
    intro d cs h
    exact isDigit_toDigits n d (h ▸ List.mem_cons_of_mem _ List.mem_cons_self)
  unfold leadingNat
  split
  · next h => exact absurd (hmark _ _ h.symm) (by decide)
  · next h => exact absurd (hmark _ _ h.symm) (by decide)
  · exact hunprefixed

theorem toI_digits (n : Nat) : toI (String.ofList (Nat.toDigits 10 n)) = n := by
  unfold toI
  rw [String.toList_ofList]
  cases h : Nat.toDigits 10 n with
  | nil => exact absurd h Nat.toDigits_ne_nil
  | cons c cs =>
    have hc : c.isDigit = true := isDigit_toDigits n c (h ▸ List.mem_cons_self)
    have hspace : isSpaceChar c = false := by
      cases hs : isSpaceChar c with
      | false => rfl
      | true =>
        have hblank : isBlankChar c = true := by simp [isBlankChar, hs]
        rw [not_isDigit_of_isBlankChar hblank] at hc
        cases hc
    rw [List.dropWhile_cons_of_neg (by simp [hspace])]
    split
    · next heq => cases heq; exact absurd hc (by decide)
    · next heq => cases heq; exact absurd hc (by decide)
    · rw [← h, leadingNat_toDigits]

/-- Every integer can be sent, as its own text. -/
theorem toI_toString (n : Int) : toI (toString n) = n := by
  cases n with
  | ofNat n =>
    change toI n.repr = n
    rw [Nat.repr_eq_ofList_toDigits, toI_digits]
  | negSucc n =>
    change toI ("-" ++ (n + 1).repr) = Int.negSucc n
    have htext : ("-" ++ (n + 1).repr).toList = '-' :: Nat.toDigits 10 (n + 1) := by
      simp [String.toList_append, Nat.repr_eq_ofList_toDigits]
    unfold toI
    rw [htext, List.dropWhile_cons_of_neg (by decide)]
    simp only [leadingNat_toDigits]
    omega

/-! ## Scalars -/

/-- A permitted parameter, or a JSON scalar: numbers with a fraction
arrive as their text. -/
inductive Scalar where
  | null
  | bool (b : Bool)
  | int (n : Int)
  | text (s : String)
  deriving DecidableEq, Repr

/-- A string column's value. -/
def Scalar.toColumn : Scalar → Option String
  | .null => none
  | .bool b => some (if b then "1" else "0")
  | .int n => some (toString n)
  | .text s => some s

/-- An integer column's value. -/
def Scalar.toInteger : Scalar → Option Int
  | .null => none
  | .bool b => some (if b then 1 else 0)
  | .int n => some n
  | .text s => castInteger (some s)

/-- A result code of 0, sent as a JSON number or as a form field. -/
def Scalar.isZero : Scalar → Bool
  | .int n => n == 0
  | .text s => s == "0"
  | _ => false

/-! ## Dates -/

/-- A date parameter. -/
inductive DateParam where
  | absent
  | blank
  | unreadable
  | at (t : DateTime)
  deriving DecidableEq, Repr

/-- `to_date` on the raw parameter: `nil` has no such method, a blank text
gives `nil`, an unreadable one raises. -/
def DateParam.toDate? : DateParam → Except Failure (Option Date)
  | .absent => .error .noMethodError
  | .blank => .ok none
  | .unreadable => .error .dateError
  | .at t => .ok (some (toDate t))

/-- The datetime column's value: what cannot be read is NULL. -/
def DateParam.toColumn : DateParam → Option DateTime
  | .at t => some t
  | _ => none

/-- An enum attribute in a form: a name outside the enum raises. -/
inductive EnumParam (α : Type) where
  | absent
  | null
  | value (a : α)
  | unknown
  deriving DecidableEq, Repr

/-- The attribute after assignment, given what it was. -/
def EnumParam.assign {α : Type} (old : Option α) : EnumParam α → Except Failure (Option α)
  | .absent => .ok old
  | .null => .ok none
  | .value a => .ok (some a)
  | .unknown => .error .argumentError

/-! ## Column ranges -/

/-- `decimal(10,0)`. -/
def fitsDecimal (n : Int) : Bool := -10000000000 < n && n < 10000000000

/-- A four-byte `integer` column. -/
def fitsInteger (n : Int) : Bool := -2147483648 ≤ n && n ≤ 2147483647

/-- An eight-byte `bigint` column. -/
def fitsBigint (n : Int) : Bool := -9223372036854775808 ≤ n && n ≤ 9223372036854775807

/-! ## What the deployment supplies -/

/-- Facts about the deployment that no source file fixes.

`weightString` is the database collation: two texts are equal for a query
exactly when their weight strings are. `assetsHost` is a secret, and the
last two are library functions whose results are only passed on. -/
class Env where
  weightString : String → String
  assetsHost : String
  encode64 : String → String
  hexdigest : String → String → String

/-- A deployment with a case-insensitive collation. -/
@[reducible] def Env.caseInsensitive : Env where
  weightString := downcase
  assetsHost := "localhost"
  encode64 s := s
  hexdigest _ s := s

/-- Equality of texts as the database compares them. -/
def sqlEq [Env] (a b : String) : Bool := Env.weightString a == Env.weightString b

theorem sqlEq_rfl [Env] (a : String) : sqlEq a a = true := BEq.rfl

theorem sqlEq_comm [Env] (a b : String) : sqlEq a b = sqlEq b a := Bool.beq_comm

theorem sqlEq_trans [Env] {a b c : String} (hab : sqlEq a b = true) (hbc : sqlEq b c = true) :
    sqlEq a c = true := BEq.trans hab hbc

end PetParadise
