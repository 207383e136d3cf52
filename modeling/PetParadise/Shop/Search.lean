/-
PetParadise.Shop.Search — the product search of the shop page.

`WelcomeController#shop` builds one query from two optional parameters: a
category, compared as the enum casts it, and a search text, put between two
`%` and handed to `LIKE` for the name and, as the code of the category it
names, for the category column. Nothing is escaped on the way.

  §1 Model     — `shop`, with the relation as it is before paging and
                 ordering.
  §2 The query — `category_like`: the second `LIKE` selects the category of
                 that name; `shop_literal_iff`: the first is a search for the
                 text itself exactly for the texts without a mark of `LIKE`.
-/
import PetParadise.Db.Params
import PetParadise.Db.Records
import PetParadise.Store.Like

namespace PetParadise

open Store

/-! ## §1 Model -/

/-- The integer a `category` is stored as. -/
def Category.code : Category → Int
  | .dog => 0
  | .cat => 1
  | .bird => 2
  | .smallAnimal => 3
  | .fish => 4

/-- The name of a category. -/
def Category.name : Category → String
  | .dog => "dog"
  | .cat => "cat"
  | .bird => "bird"
  | .smallAnimal => "small_animal"
  | .fish => "fish"

/-- The values of `Product.categories`, in the order of the declaration. -/
def Category.all : List Category := [.dog, .cat, .bird, .smallAnimal, .fish]

/-- `Product.categories[name]`. -/
def Product.categories (name : String) : Option Category := Category.all.find? (·.name == name)

/-- Two characters are the same to `LIKE` when the collation gives them one
weight. -/
def sameChar [Env] (c d : Char) : Bool := sqlEq (String.singleton c) (String.singleton d)

/-- Whether a text parameter is a number to an integer column. -/
def numeric (s : String) : Bool :=
  match s.toList.dropWhile isSpaceChar with
  | '-' :: c :: _ => c.isDigit
  | '+' :: c :: _ => c.isDigit
  | c :: _ => c.isDigit
  | [] => false

/-- `Product.where(category: q)`: a name stands for its code, a number for
itself, and any other text is cast to NULL. -/
def Product.whereCategory (q : String) (p : Product) : Bool :=
  match Product.categories q with
  | some c => p.category == some c
  | none => if numeric q then p.category.any (fun c => c.code == toI q) else p.category == none

/-- The pattern for the category column: the code of the category named by
the search text, or else all the codes as Ruby prints an array. -/
def categoryPattern (q : String) : String :=
  match Product.categories q with
  | some c => "%" ++ toString c.code ++ "%"
  | none => "%[0, 1, 2, 3, 4]%"

/-- `products.name like ? or products.category like ?`; NULL is like
nothing. -/
def Product.whereLike [Env] (q : String) (p : Product) : Bool :=
  p.name.any (Like.like sameChar ("%" ++ q ++ "%")) ||
    p.category.any (fun c => Like.like sameChar (categoryPattern q) (toString c.code))

/-- The products of the shop page. -/
def WelcomeController.shop [Env] (category q : Option String) (db : Db) : List Product :=
  let products := match category with
    | some c => db.products.rows.filter (Product.whereCategory c)
    | none => db.products.rows
  match q with
  | some q => products.filter (Product.whereLike q)
  | none => products

/-! ## §2 The query -/

/-- What a collation does not identify: digits with each other, the
underscore with a letter, and the backslash with the percent sign. -/
structure TellsMarks [Env] : Prop where
  digits : ∀ c d : Char, c.isDigit → d.isDigit → sameChar c d = true → c = d
  underscore : sameChar '_' 'a' = false
  backslash : sameChar '\\' '%' = false

/-- The search as the page presents it: the name contains the text, or the
category has it for its name. -/
def Product.searched [Env] (q : String) (p : Product) : Bool :=
  p.name.any (Like.contains sameChar q) || p.category.any (fun c => c.name == q)

theorem sameChar_rfl [Env] (c : Char) : sameChar c c = true := by simp [sameChar, sqlEq]

theorem Category.name_injective {c d : Category} (h : c.name = d.name) : c = d := by
  cases c <;> cases d <;> simp [name] at h ⊢

theorem Product.categories_eq_some {q : String} {c : Category} :
    Product.categories q = some c ↔ c.name = q := by
  constructor
  · intro h
    simpa using List.find?_some h
  · rintro rfl
    cases c <;> rfl

/-- The digit a category is printed as. -/
def Category.digit (c : Category) : Char := Nat.digitChar c.code.toNat

theorem Category.toString_code (c : Category) : toString c.code = String.singleton c.digit := by
  cases c <;> decide

theorem Category.isDigit_digit (c : Category) : c.digit.isDigit = true := by
  cases c <;> decide

theorem Category.digit_injective {c d : Category} (h : c.digit = d.digit) : c = d := by
  cases c <;> cases d <;> first | rfl | exact absurd h (by decide)

theorem plain_of_isDigit {c : Char} (hc : c.isDigit = true) : Like.Plain c := by
  refine ⟨?_, ?_, ?_⟩ <;> (rintro rfl; revert hc; decide)

/-- Between two one-character texts, containing is being the same. -/
theorem contains_singleton [Env] (c d : Char) :
    Like.contains sameChar (String.singleton c) (String.singleton d) = sameChar c d := by
  simp [Like.contains, Like.startsWith]

/-- The `LIKE` on the category column selects the category the text names. -/
theorem category_like [Env] (htells : TellsMarks) (q : String) (c : Category) :
    Like.like sameChar (categoryPattern q) (toString c.code) = (c.name == q) := by
  rw [categoryPattern, c.toString_code]
  cases hnamed : Product.categories q with
  | some d =>
    have hplain : ∀ e ∈ (String.singleton d.digit).toList, Like.Plain e := by
      simpa using plain_of_isDigit d.isDigit_digit
    simp only [d.toString_code, Like.like_percent_percent sameChar hplain, contains_singleton]
    rw [← Product.categories_eq_some.mp hnamed, Bool.eq_iff_iff, beq_iff_eq]
    constructor
    · intro hsame
      rw [Category.digit_injective (htells.digits _ _ d.isDigit_digit c.isDigit_digit hsame)]
    · intro hname
      rw [Category.name_injective hname]
      exact sameChar_rfl _
  | none =>
    -- The printed array is longer than any code.
    have hplain : ∀ e ∈ "[0, 1, 2, 3, 4]".toList, Like.Plain e := Like.plain_of_all (by decide)
    have hlong : Like.contains sameChar "[0, 1, 2, 3, 4]" (String.singleton c.digit) = false := by
      rw [Bool.eq_false_iff]
      intro h
      have hle := Like.length_le_of_contains sameChar h
      exact absurd (hle.trans_eq String.length_singleton) (by decide)
    have hother : (c.name == q) = false := by
      rw [beq_eq_false_iff_ne]
      intro hname
      simp [Product.categories_eq_some.mpr hname] at hnamed
    exact (Like.like_percent_percent sameChar hplain _).trans (hlong.trans hother.symm)

/-- Without a category filter, the search is for the text itself, over every
set of products, exactly when the text has no `%`, `_` and backslash. -/
theorem shop_literal_iff [Env] (htells : TellsMarks) (q : String) :
    (∀ db : Db, WelcomeController.shop none (some q) db =
      db.products.rows.filter (Product.searched q)) ↔
      ∀ c ∈ q.toList, Like.Plain c := by
  constructor
  · intro h
    -- One product, named as the sample of the pattern, in no category.
    let product : Product :=
      { id := 1, name := some (String.ofList (Like.sample q.toList)), price := none,
        quantity := none }
    have hone : [product].filter (Product.whereLike q) = [product].filter (Product.searched q) :=
      h { products := Table.empty.insert product }
    have hselected : Product.whereLike q product = true := by
      simp [Product.whereLike, product, Like.like_sample sameChar_rfl]
    have hsearched : product ∈ [product].filter (Product.searched q) := by
      simp [← hone, hselected]
    have hcontains :
        Like.contains sameChar q (String.ofList (Like.sample q.toList)) = true := by
      simpa [Product.searched, product] using hsearched
    exact Like.plain_of_contains_sample htells.underscore htells.backslash hcontains
  · intro hplain db
    refine List.filter_congr fun p _ => ?_
    simp only [Product.whereLike, Product.searched,
      funext (Like.like_percent_percent sameChar hplain), funext (category_like htells q)]

theorem downcase_singleton_of_isDigit {c : Char} (hc : c.isDigit = true) :
    downcase (String.singleton c) = String.singleton c := by
  simp only [Char.isDigit, Bool.and_eq_true, decide_eq_true_eq, UInt32.le_iff_toNat_le] at hc
  have h57 : c.toNat ≤ 57 := hc.2
  have hlower : c.toLower = c := by
    delta Char.toLower
    simp only [UInt32.le_iff_toNat_le]
    split
    · rename_i hupper
      have h65 : 65 ≤ c.toNat := hupper.1
      omega
    · rfl
  have hchar : downcaseChar c = [c] := by rw [downcaseChar, if_pos (by omega), hlower]
  simp [downcase, hchar]

/-- Texts are compared without regard to case. -/
theorem tellsMarks_caseInsensitive : @TellsMarks .caseInsensitive :=
  @TellsMarks.mk .caseInsensitive
    (fun c d hc hd h => by
      have hlower : downcase (String.singleton c) = downcase (String.singleton d) :=
        beq_iff_eq.mp h
      rw [downcase_singleton_of_isDigit hc, downcase_singleton_of_isDigit hd] at hlower
      simpa using hlower)
    (by decide) (by decide)

/-- Two products, one with a percent sign in its name. -/
def discounts : Db where
  products := Table.empty.insertAll
    [ { name := some "100% wool", price := some 10, quantity := some 1 },
      { name := some "1000 treats", price := some 10, quantity := some 1 } ]

/-- A search for a name in another letter case. -/
theorem shop_literal_wool :
    (@WelcomeController.shop .caseInsensitive none (some "WOOL") discounts).map (·.id) = [1] ∧
      @WelcomeController.shop .caseInsensitive none (some "WOOL") discounts =
        discounts.products.rows.filter (@Product.searched .caseInsensitive "WOOL") :=
  ⟨by decide, (@shop_literal_iff .caseInsensitive tellsMarks_caseInsensitive "WOOL").mpr
    (Like.plain_of_all (by decide)) discounts⟩

/-- A search for `0%` also finds a name without a percent sign in it. -/
theorem shop_percent_matches_all :
    (@WelcomeController.shop .caseInsensitive none (some "0%") discounts).map (·.id) = [1, 2] ∧
      (discounts.products.rows.filter (@Product.searched .caseInsensitive "0%")).map (·.id) =
        [1] := by
  decide

end PetParadise
